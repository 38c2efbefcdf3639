import Mathlib
import NewsReader.QueryItems
import NewsReader.Search.SearchNewsViewModel

/-!
# The URL of a search

A query is percent-encoded and put between the other items of the URL as it is. Its
encoding holds no character that means anything there, so the items read back as they
were written (`search_url_round_trip`).
-/

namespace NewsReader

/-- The characters a URL may be made of before its fragment, brackets and the apostrophe
apart. A `#` is none of them: it would end the query. -/
def isURLCharacter (c : Char) : Bool :=
  c.isAlphanum || ['-', '.', '_', '~', ':', '/', '?', '@', '!', '$', '&', '(', ')', '*', '+', ',',
    ';', '=', '%'].contains c

/-- The URL a page of a search is asked for. -/
def searchURL (query : String) (page pageSize : Int) : Option String :=
  (addingPercentEncoding (trimmingCharacters query)).map fun queryStringEndcode =>
    APIManager.QueryString.getEverything queryStringEndcode page pageSize

/-- `URL(string:)` accepts the path with any query of legal characters and whole escapes. -/
def AcceptsQueries (isURL : String → Bool) : Prop :=
  ∀ query : String, (∀ c ∈ query.toList, isURLCharacter c = true) →
    (percentDecode query.toList).isSome = true →
    isURL (APIManager.Path.Everything.path ++ "?" ++ query) = true

section Encoded

/-- A byte that is kept is the UTF-8 of its character. -/
theorem utf8EncodeChar_kept : ∀ b : UInt8, (Char.ofNat b.toNat).isAlphanum = true →
    String.utf8EncodeChar (Char.ofNat b.toNat) = [b] := by
  decide +kernel

theorem hexValue_hexDigit : ∀ n < 16, hexValue (hexDigit n) = some n := by
  decide

theorem isAlphanum_hexDigit : ∀ n < 16, (hexDigit n).isAlphanum = true := by
  decide

theorem ne_percent_of_isAlphanum {c : Char} (h : c.isAlphanum = true) : c ≠ '%' := by
  rintro rfl
  exact absurd h (by decide)

/-- One byte reads back. -/
theorem percentDecode_percentEncode (b : UInt8) (rest : List Char) :
    percentDecode (percentEncode b ++ rest) = (percentDecode rest).map (b :: ·) := by
  have bound : b.toNat < 256 := b.toNat_lt
  simp only [percentEncode]
  split
  · rename_i kept
    rw [List.singleton_append, percentDecode_cons (ne_percent_of_isAlphanum kept),
      utf8EncodeChar_kept b kept]
    rfl
  · have byte : UInt8.ofNat (16 * (b.toNat / 16) + b.toNat % 16) = b := by
      rw [Nat.div_add_mod, UInt8.ofNat_toNat]
    simp only [List.cons_append, List.nil_append]
    rw [percentDecode_escape (hexValue_hexDigit _ (by omega)) (hexValue_hexDigit _ (by omega)),
      byte]

/-- Then so does a text, byte by byte. -/
theorem percentDecode_flatMap (bytes : List UInt8) :
    percentDecode (bytes.flatMap percentEncode) = some bytes := by
  induction bytes with
  | nil => rfl
  | cons b bytes ih => rw [List.flatMap_cons, percentDecode_percentEncode, ih, Option.map_some]

/-- An encoded text is made of letters, digits and the sign of an escape. -/
theorem mem_percentEncode {b : UInt8} {c : Char} (h : c ∈ percentEncode b) :
    c.isAlphanum = true ∨ c = '%' := by
  have bound : b.toNat < 256 := b.toNat_lt
  simp only [percentEncode] at h
  split at h
  · rename_i kept
    rw [List.mem_singleton] at h
    subst h
    exact .inl kept
  · simp only [List.mem_cons, List.not_mem_nil, or_false] at h
    rcases h with rfl | rfl | rfl
    · exact .inr rfl
    · exact .inl (isAlphanum_hexDigit _ (by omega))
    · exact .inl (isAlphanum_hexDigit _ (by omega))

/-- A query reads back from its encoding, which parts no items. -/
theorem addingPercentEncoding_round_trip {query encoded : String}
    (h : addingPercentEncoding query = some encoded) :
    removingPercentEncoding encoded.toList = some query ∧
    ∀ c ∈ encoded.toList, c.isAlphanum = true ∨ c = '%' := by
  obtain rfl := Option.some.inj h
  constructor
  · rw [String.toList_ofList]
    exact removingPercentEncoding_of_decode (percentDecode_flatMap _)
  · intro c mem
    rw [String.toList_ofList] at mem
    obtain ⟨b, -, mem⟩ := List.mem_flatMap.mp mem
    exact mem_percentEncode mem

/-- A number is written in digits, with a sign when it is negative. -/
theorem mem_repr {n : Int} {c : Char} (h : c ∈ n.repr.toList) : c.isDigit = true ∨ c = '-' := by
  have digits (k : Nat) (mem : c ∈ k.repr.toList) : c.isDigit = true := by
    rw [Nat.repr, String.toList_ofList] at mem
    exact Nat.isDigit_of_mem_toDigits (by decide) (by decide) mem
  rw [Int.repr_eq_if] at h
  split at h
  · exact .inl (digits _ h)
  · rw [String.toList_append, List.mem_append] at h
    rcases h with sign | mem
    · exact .inr (by simpa using sign)
    · exact .inl (digits _ mem)

end Encoded

section URL

variable {query encoded : String} {page pageSize : Int}

/-- The items of the URL, the query encoded. -/
def searchItems (encoded : String) (page pageSize : Int) : List (List Char) :=
  ["q".toList ++ '=' :: encoded.toList, "apiKey".toList ++ '=' :: APIManager.apiKey.toList,
    "page".toList ++ '=' :: page.repr.toList, "pageSize".toList ++ '=' :: pageSize.repr.toList]

theorem getEverything_eq (encoded : String) (page pageSize : Int) :
    APIManager.QueryString.getEverything encoded page pageSize =
      String.ofList (APIManager.Path.Everything.path.toList ++
        '?' :: ['&'].intercalate (searchItems encoded page pageSize)) := by
  apply String.toList_injective
  simp [APIManager.QueryString.getEverything, APIManager.Path.Everything.url, searchItems,
    List.intercalate, toString]

theorem isDigit_ne {c d : Char} (h : c.isDigit = true ∨ c = '-') (other : d.isDigit = false)
    (sign : d ≠ '-') : c ≠ d := by
  rintro rfl
  rcases h with digit | rfl
  · rw [other] at digit
    cases digit
  · exact sign rfl

/-- No item has a sign that parts items. -/
theorem searchItems_whole (h : addingPercentEncoding query = some encoded) :
    ∀ item ∈ searchItems encoded page pageSize, '&' ∉ item := by
  have text := (addingPercentEncoding_round_trip h).2
  have number (n : Int) : '&' ∉ n.repr.toList := by
    intro mem
    exact isDigit_ne (mem_repr mem) (by decide) (by decide) rfl
  have encodes : '&' ∉ encoded.toList := by
    intro mem
    rcases text _ mem with kept | escape
    · exact absurd kept (by decide)
    · exact absurd escape (by decide)
  intro item mem
  simp only [searchItems, List.mem_cons, List.not_mem_nil, or_false] at mem
  rcases mem with rfl | rfl | rfl | rfl
  · simpa using encodes
  · decide
  · simpa using number page
  · simpa using number pageSize

theorem queryItem_number (name : String) (unbroken : '=' ∉ name.toList) (plain : '%' ∉ name.toList)
    (n : Int) : queryItem (name.toList ++ '=' :: n.repr.toList) = some (name, n.repr) := by
  apply queryItem_append unbroken (removingPercentEncoding_plain plain)
  apply removingPercentEncoding_plain
  intro mem
  exact isDigit_ne (mem_repr mem) (by decide) (by decide) rfl

theorem searchItems_decode (h : addingPercentEncoding query = some encoded) :
    (searchItems encoded page pageSize).mapM queryItem =
      some [("q", query), ("apiKey", APIManager.apiKey), ("page", page.repr),
        ("pageSize", pageSize.repr)] := by
  have text : queryItem ("q".toList ++ '=' :: encoded.toList) = some ("q", query) :=
    queryItem_append (by decide) (removingPercentEncoding_plain (by decide))
      (addingPercentEncoding_round_trip h).1
  have key : queryItem ("apiKey".toList ++ '=' :: APIManager.apiKey.toList) =
      some ("apiKey", APIManager.apiKey) :=
    queryItem_append (by decide) (removingPercentEncoding_plain (by decide))
      (removingPercentEncoding_plain (by decide))
  have first := queryItem_number "page" (by decide) (by decide) page
  have second := queryItem_number "pageSize" (by decide) (by decide) pageSize
  simp only [searchItems, List.mapM_cons, List.mapM_nil, text, key, first, second,
    Option.bind_eq_bind, Option.bind_some, Option.pure_def]

/-- A text of letters, digits, signs of an escape and legal signs. -/
theorem legal_of_encoded {c : Char} (h : c.isAlphanum = true ∨ c = '%') :
    isURLCharacter c = true := by
  rcases h with kept | rfl
  · simp [isURLCharacter, kept]
  · decide

theorem legal_of_digit {c : Char} (h : c.isDigit = true ∨ c = '-') : isURLCharacter c = true := by
  rcases h with digit | rfl
  · simp [isURLCharacter, Char.isAlphanum, digit]
  · decide

/-- A fixed text is checked character by character. -/
theorem legal_of_all {text : List Char} (h : text.all isURLCharacter = true) :
    ∀ c ∈ text, isURLCharacter c = true := List.all_eq_true.mp h

theorem plain_repr (n : Int) : '%' ∉ n.repr.toList := by
  intro mem
  exact isDigit_ne (mem_repr mem) (by decide) (by decide) rfl

/-- The query of the URL: legal characters only, and whole escapes. -/
theorem searchItems_legal (h : addingPercentEncoding query = some encoded) (page pageSize : Int) :
    (∀ c ∈ ['&'].intercalate (searchItems encoded page pageSize), isURLCharacter c = true) ∧
    (percentDecode (['&'].intercalate (searchItems encoded page pageSize))).isSome = true := by
  have text : ∀ c ∈ encoded.toList, isURLCharacter c = true :=
    fun c mem => legal_of_encoded ((addingPercentEncoding_round_trip h).2 c mem)
  have number (n : Int) : ∀ c ∈ n.repr.toList, isURLCharacter c = true :=
    fun c mem => legal_of_digit (mem_repr mem)
  have key : ∀ c ∈ APIManager.apiKey.toList, isURLCharacter c = true :=
    legal_of_all (by decide)
  have joined : ['&'].intercalate (searchItems encoded page pageSize) =
      "q=".toList ++ encoded.toList ++ "&apiKey=".toList ++ APIManager.apiKey.toList ++
        "&page=".toList ++ page.repr.toList ++ "&pageSize=".toList ++ pageSize.repr.toList := by
    simp [searchItems, List.intercalate]
  rw [joined]
  constructor
  · simp only [List.forall_mem_append]
    exact ⟨⟨⟨⟨⟨⟨⟨legal_of_all (by decide), text⟩, legal_of_all (by decide)⟩, key⟩,
      legal_of_all (by decide)⟩, number page⟩, legal_of_all (by decide)⟩, number pageSize⟩
  · have decoded : (percentDecode encoded.toList).isSome = true := by
      obtain rfl := Option.some.inj h
      rw [String.toList_ofList, percentDecode_flatMap]
      rfl
    repeat apply percentDecode_append_isSome
    · exact percentDecode_plain_isSome (by decide)
    · exact decoded
    · exact percentDecode_plain_isSome (by decide)
    · exact percentDecode_plain_isSome (by decide)
    · exact percentDecode_plain_isSome (by decide)
    · exact percentDecode_plain_isSome (plain_repr page)
    · exact percentDecode_plain_isSome (by decide)
    · exact percentDecode_plain_isSome (plain_repr pageSize)

theorem getEverything_legal (h : addingPercentEncoding query = some encoded) (page pageSize : Int) :
    (∀ c ∈ (APIManager.QueryString.getEverything encoded page pageSize).toList,
      isURLCharacter c = true) ∧
    ∀ isURL, AcceptsQueries isURL →
      isURL (APIManager.QueryString.getEverything encoded page pageSize) = true := by
  obtain ⟨legal, whole⟩ := searchItems_legal h page pageSize
  have path : ∀ c ∈ APIManager.Path.Everything.path.toList, isURLCharacter c = true :=
    legal_of_all (by decide)
  rw [getEverything_eq]
  constructor
  · rw [String.toList_ofList]
    intro c mem
    rcases List.mem_append.mp mem with before | mem
    · exact path c before
    · rcases List.mem_cons.mp mem with rfl | after
      · decide
      · exact legal c after
  · intro isURL accepts
    have split : String.ofList (APIManager.Path.Everything.path.toList ++
        '?' :: ['&'].intercalate (searchItems encoded page pageSize)) =
        APIManager.Path.Everything.path ++ "?" ++
          String.ofList (['&'].intercalate (searchItems encoded page pageSize)) := by
      apply String.toList_injective
      simp
    rw [split]
    apply accepts
    · rw [String.toList_ofList]
      exact legal
    · rw [String.toList_ofList]
      exact whole

/-- A legal text does not end a query. -/
theorem ne_hash_of_legal {text : List Char} (legal : ∀ c ∈ text, isURLCharacter c = true) :
    '#' ∉ text := fun mem => absurd (legal _ mem) (by decide)

theorem queryItems_getEverything (h : addingPercentEncoding query = some encoded)
    (page pageSize : Int) :
    queryItems (APIManager.QueryString.getEverything encoded page pageSize) =
      some [("q", query), ("apiKey", APIManager.apiKey), ("page", page.repr),
        ("pageSize", pageSize.repr)] := by
  have unended := ne_hash_of_legal (getEverything_legal h page pageSize).1
  rw [getEverything_eq, String.toList_ofList] at unended
  rw [getEverything_eq, queryItems_append (by decide) (by simp [searchItems])
    (searchItems_whole h) unended, searchItems_decode h]

namespace SearchNewsViewModel

/-- `searchNews` asks for the URL of the first page. -/
theorem searchNews_running_iff (isURL : String → Bool) (vm : SearchNewsViewModel)
    (nonblank : vm.query ≠ "") : ∃ url, searchURL vm.queryString 1 10 = some url ∧
      ((vm.searchNews isURL).2 = .running vm.query 1 ↔ isURL url = true) := by
  have called : vm.searchNews isURL = _ := if_pos nonblank
  refine ⟨_, rfl, ?_⟩
  rw [called]
  simp only [APIManager.getEverything, APIManager.request, query]
  by_cases accepted : isURL (APIManager.QueryString.getEverything (String.ofList
      (((trimmingCharacters vm.queryString).toList.flatMap String.utf8EncodeChar).flatMap
        percentEncode)) 1 10) = true
  · simp [accepted]
  · simp [accepted]

/-- `loadMoreSearchNews` asks for the URL of the page after the current one. -/
theorem loadMoreSearchNews_running_iff (isURL : String → Bool) (vm : SearchNewsViewModel)
    (nonblank : vm.query ≠ "") :
    ∃ url, searchURL vm.queryString ((vm.currentPage + 1 : Nat) : Int) 10 = some url ∧
      ((vm.loadMoreSearchNews isURL).2 = .running vm.query (vm.currentPage + 1) ↔
        isURL url = true) := by
  have called : vm.loadMoreSearchNews isURL = _ := if_pos nonblank
  refine ⟨_, rfl, ?_⟩
  rw [called]
  simp only [APIManager.getEverything, APIManager.request, query]
  by_cases accepted : isURL (APIManager.QueryString.getEverything (String.ofList
      (((trimmingCharacters vm.queryString).toList.flatMap String.utf8EncodeChar).flatMap
        percentEncode)) ((vm.currentPage + 1 : Nat) : Int) 10) = true
  · rw [if_pos accepted]
    exact iff_of_true rfl accepted
  · rw [if_neg accepted]
    clear called
    refine iff_of_false ?_ accepted
    intro h
    cases h

end SearchNewsViewModel

/-- **The URL of a search reads back.** It is made of legal characters, so it is a URL, its
items are the trimmed query, the key and the two numbers, and no other search has it. -/
theorem search_url_round_trip (query : String) (page pageSize : Int) :
    ∃ url, searchURL query page pageSize = some url ∧
      (∀ c ∈ url.toList, isURLCharacter c = true) ∧
      (∀ isURL, AcceptsQueries isURL → isURL url = true) ∧
      queryItems url = some [("q", trimmingCharacters query), ("apiKey", APIManager.apiKey),
        ("page", page.repr), ("pageSize", pageSize.repr)] ∧
      ∀ query' page' pageSize', searchURL query' page' pageSize' = some url →
        trimmingCharacters query' = trimmingCharacters query ∧ page' = page ∧
        pageSize' = pageSize := by
  obtain ⟨encoded, h⟩ : ∃ encoded, addingPercentEncoding (trimmingCharacters query) = some encoded :=
    ⟨_, rfl⟩
  have items := queryItems_getEverything h page pageSize
  obtain ⟨legal, accepted⟩ := getEverything_legal h page pageSize
  refine ⟨_, by rw [searchURL, h]; rfl, legal, accepted, items, ?_⟩
  intro query' page' pageSize' same
  obtain ⟨encoded', h', same⟩ := Option.map_eq_some_iff.mp same
  have items' := queryItems_getEverything h' page' pageSize'
  rw [same, items] at items'
  simp only [Option.some.injEq, List.cons.injEq, Prod.mk.injEq, true_and, and_true] at items'
  obtain ⟨text, first, second⟩ := items'
  exact ⟨text.symm, (Int.repr_injective first).symm, (Int.repr_injective second).symm⟩

/-- A `URL(string:)` that takes legal characters and whole escapes, and one fragment. -/
def parsesURL (text : String) : Bool :=
  let url := text.toList.takeWhile (· ≠ '#')
  let fragment := (text.toList.dropWhile (· ≠ '#')).drop 1
  url.all isURLCharacter && (percentDecode url).isSome && fragment.all isURLCharacter &&
    (percentDecode fragment).isSome

theorem acceptsQueries_parsesURL : AcceptsQueries parsesURL := by
  intro query legal whole
  let url := APIManager.Path.Everything.path.toList ++ "?".toList ++ query.toList
  have text : (APIManager.Path.Everything.path ++ "?" ++ query).toList = url := by simp [url]
  have every : ∀ c ∈ url, isURLCharacter c = true := by
    simp only [url, List.forall_mem_append]
    exact ⟨⟨legal_of_all (by decide), legal_of_all (by decide)⟩, legal⟩
  have decodes : (percentDecode url).isSome = true :=
    percentDecode_append_isSome (percentDecode_append_isSome
      (percentDecode_plain_isSome (by decide)) (percentDecode_plain_isSome (by decide))) whole
  have apart : ∀ c ∈ url, decide (c ≠ '#') = true := by
    intro c mem
    rw [decide_eq_true_iff]
    rintro rfl
    exact ne_hash_of_legal every mem
  have before : url.takeWhile (· ≠ '#') = url := List.takeWhile_eq_self_iff.mpr apart
  have after : url.dropWhile (· ≠ '#') = [] := List.dropWhile_eq_nil_iff.mpr apart
  simp only [parsesURL, text, before, after, List.all_eq_true.mpr every, decodes, Bool.and_self,
    Bool.true_and]
  rfl

/-- A query of signs that mean something in a URL. -/
theorem search_url_round_trip_signs :
    ∃ url, searchURL " c#&q=50% " 1 10 = some url ∧ parsesURL url = true ∧
      queryItems url = some [("q", "c#&q=50%"), ("apiKey", APIManager.apiKey),
        ("page", (1 : Int).repr), ("pageSize", (10 : Int).repr)] := by
  obtain ⟨url, built, -, accepted, items, -⟩ := search_url_round_trip " c#&q=50% " 1 10
  have trimmed : trimmingCharacters " c#&q=50% " = "c#&q=50%" := by decide
  rw [trimmed] at items
  exact ⟨url, built, accepted parsesURL acceptsQueries_parsesURL, items⟩

end URL

end NewsReader
