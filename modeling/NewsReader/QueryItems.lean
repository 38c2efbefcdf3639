import Mathlib.Data.List.TakeWhile

/-!
# The items of a URL's query

The query of a URL starts after the first `?` and ends before the first `#`. Its items are
parted by `&`, and the name of one from its value by the first `=`; both are then
percent-decoded to UTF-8.
-/

namespace NewsReader

def hexValue (c : Char) : Option Nat :=
  if c.isDigit then some (c.toNat - '0'.toNat)
  else if 'A' ≤ c ∧ c ≤ 'F' then some (c.toNat - 'A'.toNat + 10)
  else if 'a' ≤ c ∧ c ≤ 'f' then some (c.toNat - 'a'.toNat + 10)
  else none

/-- The bytes a percent-encoded text stands for. An escape is two hexadecimal digits. -/
def percentDecode : List Char → Option (List UInt8)
  | [] => some []
  | c :: rest =>
    if c = '%' then
      match rest with
      | high :: low :: rest => do
        let high ← hexValue high
        let low ← hexValue low
        let bytes ← percentDecode rest
        return UInt8.ofNat (16 * high + low) :: bytes
      | _ => none
    else do
      let bytes ← percentDecode rest
      return String.utf8EncodeChar c ++ bytes

def removingPercentEncoding (text : List Char) : Option String := do
  let bytes ← percentDecode text
  String.fromUTF8? bytes.toByteArray

/-- The name and the value of one item. -/
def queryItem (item : List Char) : Option (String × String) := do
  let name ← removingPercentEncoding (item.takeWhile (· ≠ '='))
  let value ← removingPercentEncoding ((item.dropWhile (· ≠ '=')).drop 1)
  return (name, value)

/-- What is between the first `?` and the fragment. -/
def queryPart (url : List Char) : List Char :=
  ((url.takeWhile (· ≠ '#')).dropWhile (· ≠ '?')).drop 1

def queryItems (url : String) : Option (List (String × String)) :=
  ((queryPart url.toList).splitOn '&').mapM queryItem

section Decode

variable {c : Char} {text rest : List Char}

theorem percentDecode_cons (plain : c ≠ '%') :
    percentDecode (c :: rest) = (percentDecode rest).map (String.utf8EncodeChar c ++ ·) := by
  conv => lhs; unfold percentDecode
  rw [if_neg plain]
  cases percentDecode rest <;> rfl

theorem percentDecode_escape {high low : Char} {h l : Nat} (first : hexValue high = some h)
    (second : hexValue low = some l) :
    percentDecode ('%' :: high :: low :: rest) =
      (percentDecode rest).map (UInt8.ofNat (16 * h + l) :: ·) := by
  rw [percentDecode, if_pos rfl]
  simp only [first, second, Option.bind_eq_bind, Option.bind_some]
  cases percentDecode rest <;> rfl

theorem percentDecode_plain (plain : '%' ∉ text) :
    percentDecode text = some (text.flatMap String.utf8EncodeChar) := by
  induction text with
  | nil => rfl
  | cons c text ih =>
    simp only [List.mem_cons, not_or] at plain
    rw [percentDecode_cons (Ne.symm plain.1), ih plain.2]
    rfl

/-- A text whose escapes are whole may be followed by another. -/
theorem percentDecode_append {bytes : List UInt8} (h : percentDecode text = some bytes) :
    percentDecode (text ++ rest) = (percentDecode rest).map (bytes ++ ·) := by
  induction text using percentDecode.induct generalizing bytes with
  | case1 =>
    obtain rfl := Option.some.inj h
    simp
  | case2 high low text ih =>
    rw [percentDecode, if_pos rfl] at h
    simp only [Option.bind_eq_bind, Option.bind_eq_some_iff, Option.pure_def,
      Option.some.injEq] at h
    obtain ⟨h, first, l, second, tail, decoded, rfl⟩ := h
    rw [List.cons_append, List.cons_append, List.cons_append,
      percentDecode_escape first second, ih decoded, Option.map_map]
    rfl
  | case3 text broken =>
    rcases text with _ | ⟨high, _ | ⟨low, text⟩⟩
    · cases h
    · cases h
    · exact absurd rfl (broken high low text)
  | case4 c text plain ih =>
    rw [percentDecode_cons plain, Option.map_eq_some_iff] at h
    obtain ⟨tail, decoded, rfl⟩ := h
    rw [List.cons_append, percentDecode_cons plain, ih decoded, Option.map_map]
    simp [Function.comp_def]

theorem percentDecode_append_isSome (first : (percentDecode text).isSome = true)
    (second : (percentDecode rest).isSome = true) :
    (percentDecode (text ++ rest)).isSome = true := by
  obtain ⟨bytes, decoded⟩ := Option.isSome_iff_exists.mp first
  rw [percentDecode_append decoded, Option.isSome_map]
  exact second

theorem percentDecode_plain_isSome (plain : '%' ∉ text) : (percentDecode text).isSome = true := by
  rw [percentDecode_plain plain]
  rfl

/-- UTF-8 reads back. -/
theorem fromUTF8?_utf8Encode (s : String) :
    String.fromUTF8? (s.toList.flatMap String.utf8EncodeChar).toByteArray = some s := by
  have bytes : s.toByteArray = (s.toList.flatMap String.utf8EncodeChar).toByteArray := calc
    s.toByteArray = (String.ofList s.toList).toByteArray := by rw [String.ofList_toList]
    _ = (s.toList.flatMap String.utf8EncodeChar).toByteArray := by
      rw [String.toByteArray_ofList, List.utf8Encode]
  rw [← bytes, String.fromUTF8?, dif_pos s.isValidUTF8]
  rfl

theorem removingPercentEncoding_of_decode {s : String}
    (decoded : percentDecode text = some (s.toList.flatMap String.utf8EncodeChar)) :
    removingPercentEncoding text = some s := by
  simp only [removingPercentEncoding, decoded, Option.bind_eq_bind, Option.bind_some,
    fromUTF8?_utf8Encode]

/-- A text without escapes is what it stands for. -/
theorem removingPercentEncoding_plain {s : String} (plain : '%' ∉ s.toList) :
    removingPercentEncoding s.toList = some s :=
  removingPercentEncoding_of_decode (percentDecode_plain plain)

end Decode

section Split

variable {name value : List Char}

/-- The first `=` ends the name. -/
theorem queryItem_append (unbroken : '=' ∉ name) {n v : String}
    (first : removingPercentEncoding name = some n)
    (second : removingPercentEncoding value = some v) :
    queryItem (name ++ '=' :: value) = some (n, v) := by
  have before : ∀ c ∈ name, (c ≠ '=') := by
    rintro c mem rfl
    exact unbroken mem
  have taken : (name ++ '=' :: value).takeWhile (· ≠ '=') = name := by
    rw [List.takeWhile_append_of_pos (by simpa using before)]
    simp
  have dropped : (name ++ '=' :: value).dropWhile (· ≠ '=') = '=' :: value := by
    rw [List.dropWhile_append_of_pos (by simpa using before)]
    simp
  simp only [queryItem, taken, dropped, List.drop_one, List.tail_cons, first, second,
    Option.bind_eq_bind, Option.bind_some]
  rfl

/-- A URL without a fragment. -/
theorem queryPart_append {path query : List Char} (unbroken : '?' ∉ path)
    (unended : '#' ∉ path ++ '?' :: query) : queryPart (path ++ '?' :: query) = query := by
  have before : ∀ c ∈ path, (c ≠ '?') := by
    rintro c mem rfl
    exact unbroken mem
  have all : (path ++ '?' :: query).takeWhile (· ≠ '#') = path ++ '?' :: query := by
    rw [List.takeWhile_eq_self_iff]
    intro c mem
    rw [decide_eq_true_iff]
    rintro rfl
    exact unended mem
  have dropped : (path ++ '?' :: query).dropWhile (· ≠ '?') = '?' :: query := by
    rw [List.dropWhile_append_of_pos (by simpa using before)]
    simp
  rw [queryPart, all, dropped, List.drop_one, List.tail_cons]

/-- The items of a URL, written one after the other behind its path. -/
theorem queryItems_append {path : List Char} (unbroken : '?' ∉ path) {items : List (List Char)}
    (nonempty : items ≠ []) (whole : ∀ item ∈ items, '&' ∉ item)
    (unended : '#' ∉ path ++ '?' :: ['&'].intercalate items) :
    queryItems (String.ofList (path ++ '?' :: ['&'].intercalate items)) =
      items.mapM queryItem := by
  rw [queryItems, String.toList_ofList, queryPart_append unbroken unended,
    List.splitOn_intercalate '&' whole nonempty]

/-- One item, written as it is. -/
def writtenItem (item : String × String) : List Char := item.1.toList ++ '=' :: item.2.toList

/-- A text that can be written as it is into an item. -/
def isPlain (text : String) : Bool := text.toList.all fun c => !(['%', '&', '='].contains c)

theorem queryItem_writtenItem {item : String × String} (name : isPlain item.1 = true)
    (value : isPlain item.2 = true) :
    queryItem (writtenItem item) = some item ∧ '&' ∉ writtenItem item := by
  simp only [isPlain, List.all_eq_true] at name value
  have parts : '=' ∉ item.1.toList := fun mem => absurd (name _ mem) (by decide)
  have first : '%' ∉ item.1.toList := fun mem => absurd (name _ mem) (by decide)
  have second : '%' ∉ item.2.toList := fun mem => absurd (value _ mem) (by decide)
  refine ⟨queryItem_append parts (removingPercentEncoding_plain first)
    (removingPercentEncoding_plain second), ?_⟩
  rw [writtenItem, List.mem_append, List.mem_cons]
  rintro (mem | equals | mem)
  · exact absurd (name _ mem) (by decide)
  · exact absurd equals (by decide)
  · exact absurd (value _ mem) (by decide)

/-- **Plain items read back** as they were written. -/
theorem queryItems_written {path : List Char} (unbroken : '?' ∉ path)
    {items : List (String × String)} (nonempty : items ≠ [])
    (plain : ∀ item ∈ items, isPlain item.1 = true ∧ isPlain item.2 = true)
    (unended : '#' ∉ path ++ '?' :: ['&'].intercalate (items.map writtenItem)) :
    queryItems (String.ofList (path ++ '?' :: ['&'].intercalate (items.map writtenItem))) =
      some items := by
  rw [queryItems_append unbroken (by simpa using nonempty) ?_ unended]
  · clear nonempty unended
    induction items with
    | nil => rfl
    | cons item items ih =>
      obtain ⟨name, value⟩ := plain item List.mem_cons_self
      have rest := ih fun other mem => plain other (List.mem_cons_of_mem _ mem)
      rw [List.map_cons, List.mapM_cons, (queryItem_writtenItem name value).1, rest]
      rfl
  · intro written mem
    obtain ⟨item, listed, rfl⟩ := List.mem_map.mp mem
    obtain ⟨name, value⟩ := plain item listed
    exact (queryItem_writtenItem name value).2

end Split

end NewsReader
