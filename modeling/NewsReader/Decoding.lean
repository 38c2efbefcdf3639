import NewsReader.API
import NewsReader.JSON
import Mathlib.Data.List.Forall2

/-!
# Decoding a response

`Response` is decoded by the synthesized initializer, which throws, and each of
its articles by one that never does. What a document and an article come to is
stated on the JSON value alone.
-/

namespace NewsReader

/-- `Source.init(from:)`, synthesized. -/
def Source.ofJSON (json : JSON) : Except DecodingError Source := do
  let container ← json.container
  let id ← JSON.decodeIfPresent JSON.unboxString container "id"
  let name ← JSON.decodeIfPresent JSON.unboxString container "name"
  return { id, name }

inductive News.CodingKeys
  | titleNews | urlNews | urlImage | descriptionNews | publishedAt | content | source | author
  deriving DecidableEq, Repr

def News.CodingKeys.rawValue : News.CodingKeys → String
  | titleNews => "title"
  | urlNews => "url"
  | urlImage => "urlToImage"
  | descriptionNews => "description"
  | publishedAt => "publishedAt"
  | content => "content"
  | source => "source"
  | author => "author"

/-- The `try?` of each key. -/
def NewsContainer.read (container : List (String × JSON)) : NewsContainer where
  source := (JSON.decode Source.ofJSON container News.CodingKeys.source.rawValue).toOption
  titleNews := string .titleNews
  urlImage := string .urlImage
  content := string .content
  author := string .author
  descriptionNews := string .descriptionNews
  urlNews := string .urlNews
  publishedAt := string .publishedAt
where
  string (key : News.CodingKeys) : Option String :=
    (JSON.decode JSON.unboxString container key.rawValue).toOption

variable (date : String → Option Date)

/-- `News.init(from:)`. -/
def News.ofJSON (json : JSON) : News :=
  News.decode date (json.container.toOption.map NewsContainer.read)

/-- `Response.init(from:)`, synthesized. -/
def Response.ofJSON (json : JSON) : Except DecodingError (Response News) := do
  let container ← json.container
  let status ← JSON.decode JSON.unboxString container "status"
  let articles ← JSON.decode (JSON.decodeArray fun element => .ok (News.ofJSON date element))
    container "articles"
  return { status, articles }

/-! ## What an element comes to -/

/-- A value `Source` can be decoded from: an object with optional string id and name. -/
def JSON.IsSource (json : JSON) : Prop :=
  ∃ members, json = .object members ∧
    ∀ key ∈ ["id", "name"], ∀ value, members.lookup key = some value → value.IsOptionalString

theorem JSON.not_isSource_null : ¬ JSON.null.IsSource := by
  rintro ⟨_, other, _⟩
  cases other

theorem Source.ofJSON_eq_ok {json : JSON} {source : Source} :
    Source.ofJSON json = .ok source ↔
      json.IsSource ∧ source = ⟨json.text "id", json.text "name"⟩ := by
  simp only [Source.ofJSON, bind_eq_ok, JSON.container_eq_ok,
    JSON.decodeIfPresent_unboxString_eq_ok]
  constructor
  · rintro ⟨members, rfl, id, ⟨idOptional, rfl⟩, name, ⟨nameOptional, rfl⟩, made⟩
    refine ⟨⟨members, rfl, ?_⟩, (Except.ok.inj made).symm⟩
    intro key listed
    obtain rfl | rfl : key = "id" ∨ key = "name" := by simpa using listed
    · exact idOptional
    · exact nameOptional
  · rintro ⟨⟨members, rfl, optional⟩, rfl⟩
    exact ⟨members, rfl, _, ⟨optional "id" (by simp), rfl⟩, _, ⟨optional "name" (by simp), rfl⟩, rfl⟩

/-- What an article holds, by the element it was decoded from. -/
structure News.ReadFrom (element : JSON) (news : News) : Prop where
  titleNews : news.titleNews = element.text "title"
  urlNews : news.urlNews = element.text "url"
  urlImage : news.urlImage = element.text "urlToImage"
  descriptionNews : news.descriptionNews = element.text "description"
  content : news.content = element.text "content"
  author : news.author = element.text "author"
  categoryNews : news.categoryNews = none
  publishedAt : ∀ day, news.publishedAt = some day ↔
    ∃ string, element.member "publishedAt" = some (.string string) ∧ date string = some day
  source : ∀ members, element = .object members →
    (news.source = none ↔
      element.member "source" = none ∨ element.member "source" = some .null ∨
        ∃ member, element.member "source" = some member ∧ ¬ member.IsSource)

theorem NewsContainer.read_string (members : List (String × JSON)) (key : News.CodingKeys) :
    NewsContainer.read.string members key = (JSON.object members).text key.rawValue :=
  JSON.toOption_decode_unboxString

theorem NewsContainer.read_source_eq_some {members : List (String × JSON)} {source : Source} :
    (NewsContainer.read members).source = some source ↔
      ∃ member, members.lookup "source" = some member ∧ member.IsSource ∧
        source = ⟨member.text "id", member.text "name"⟩ := by
  change (JSON.decode Source.ofJSON members "source").toOption = some source ↔ _
  simp only [toOption_eq_some, JSON.decode_eq_ok, Source.ofJSON_eq_ok]

theorem NewsContainer.read_source_eq_none {members : List (String × JSON)} :
    (NewsContainer.read members).source = none ↔
      ∀ member, members.lookup "source" = some member → ¬ member.IsSource := by
  rw [Option.eq_none_iff_forall_ne_some]
  constructor
  · intro none member found source
    exact none _ (read_source_eq_some.mpr ⟨member, found, source, rfl⟩)
  · intro none source some
    obtain ⟨member, found, decodes, _⟩ := read_source_eq_some.mp some
    exact none member found decodes

/-- An element of another kind comes to an article without texts. -/
theorem News.readFrom_empty {element : JSON} (memberless : element.member = fun _ => none)
    (kind : ∀ members, element ≠ .object members) : News.ReadFrom date element {} := by
  have absent (key : String) : element.text key = none := by
    rw [JSON.text, memberless]
  refine ⟨(absent _).symm, (absent _).symm, (absent _).symm, (absent _).symm, (absent _).symm,
    (absent _).symm, rfl, ?_, ?_⟩
  · intro day
    simp [memberless]
  · intro members object
    exact absurd object (kind members)

theorem News.readFrom_ofJSON (element : JSON) :
    News.ReadFrom date element (News.ofJSON date element) := by
  cases element with
  | object members =>
    have string := NewsContainer.read_string members
    refine ⟨string .titleNews, string .urlNews, string .urlImage, string .descriptionNews,
      string .content, string .author, rfl, ?_, ?_⟩
    · intro day
      change (NewsContainer.read.string members .publishedAt).bind date = some day ↔ _
      rw [string .publishedAt, Option.bind_eq_some_iff]
      simp only [JSON.text_eq_some, CodingKeys.rawValue]
    · rintro _ _
      change (NewsContainer.read members).source = none ↔ _
      rw [NewsContainer.read_source_eq_none, JSON.member_object]
      cases found : members.lookup "source" with
      | none => simp
      | some member =>
        have null : member = .null → ¬ member.IsSource := by
          rintro rfl
          exact JSON.not_isSource_null
        simpa using null
  | null | bool | number | string | array =>
    exact News.readFrom_empty date rfl (fun _ other => by cases other)

/-! ## The response -/

theorem Response.ofJSON_eq_ok {json : JSON} {response : Response News} :
    Response.ofJSON date json = .ok response ↔
      json.member "status" = some (.string response.status) ∧
        ∃ elements, json.member "articles" = some (.array elements) ∧
          response.articles = elements.map (News.ofJSON date) := by
  simp only [Response.ofJSON, bind_eq_ok, JSON.container_eq_ok, JSON.decode_eq_ok,
    JSON.unboxString_eq_ok, JSON.decodeArray_eq_ok (fun _ => rfl), JSON.member_eq_some]
  constructor
  · rintro ⟨members, rfl, status, ⟨_, first, rfl⟩, articles, ⟨_, second, elements, rfl, rfl⟩, made⟩
    obtain rfl := Except.ok.inj made
    exact ⟨⟨members, rfl, first⟩, elements, ⟨members, rfl, second⟩, rfl⟩
  · rintro ⟨⟨members, rfl, first⟩, elements, ⟨_, same, second⟩, read⟩
    obtain rfl := JSON.object.inj same
    exact ⟨members, rfl, _, ⟨_, first, rfl⟩, _, ⟨_, second, elements, rfl, read⟩, rfl⟩

/-- A malformed article neither rejects, drops nor shifts another. -/
theorem response_decoded_elementwise (json : JSON) :
    ((∃ response, Response.ofJSON date json = .ok response) ↔
      (∃ status, json.member "status" = some (.string status)) ∧
        ∃ elements, json.member "articles" = some (.array elements)) ∧
    ∀ status elements, json.member "status" = some (.string status) →
      json.member "articles" = some (.array elements) →
        Response.ofJSON date json = .ok ⟨status, elements.map (News.ofJSON date)⟩ ∧
          List.Forall₂ (News.ReadFrom date) elements (elements.map (News.ofJSON date)) := by
  have decoded (status : String) (elements : List JSON)
      (first : json.member "status" = some (.string status))
      (second : json.member "articles" = some (.array elements)) :
      Response.ofJSON date json = .ok ⟨status, elements.map (News.ofJSON date)⟩ :=
    (Response.ofJSON_eq_ok date).mpr ⟨first, elements, second, rfl⟩
  refine ⟨⟨?_, ?_⟩, ?_⟩
  · rintro ⟨response, made⟩
    obtain ⟨first, elements, second, _⟩ := (Response.ofJSON_eq_ok date).mp made
    exact ⟨⟨_, first⟩, elements, second⟩
  · rintro ⟨⟨status, first⟩, elements, second⟩
    exact ⟨_, decoded status elements first second⟩
  · intro status elements first second
    refine ⟨decoded status elements first second, ?_⟩
    rw [List.forall₂_map_right_iff, List.forall₂_same]
    intro element _
    exact News.readFrom_ofJSON date element

/-- A document with a null, a number and an array where articles are expected. -/
def oddDocument : JSON :=
  .object [("status", .string "ok"),
    ("articles", .array [.null, .object [("title", .string "Mars"), ("url", .number "7")],
      .array [.null]])]

theorem response_decoded_elementwise_odd :
    Response.ofJSON (fun _ => none) oddDocument =
        .ok ⟨"ok", [{}, { source := none, titleNews := some "Mars" }, {}]⟩ ∧
      List.Forall₂ (News.ReadFrom fun _ => none)
        [.null, .object [("title", .string "Mars"), ("url", .number "7")], .array [.null]]
        [{}, { source := none, titleNews := some "Mars" }, {}] :=
  (response_decoded_elementwise (fun _ => none) oddDocument).2 _ _ rfl rfl

/-! ## The completions of the calls -/

section Completion

variable {Document : Type} (parse : Document → Except DecodingError JSON)
  (localizedDescription : DecodingError → String)

/-- What `getTopHeadlines` and `getEverything` complete with, `subject` being the
category of one and the query of the other. -/
def APIManager.completion (subject : String) : Result (Option Document) → APIResult News
  | .failure error => .failure error
  | .success none => .failure .errorData
  | .success (some data) =>
    match parse data >>= Response.ofJSON date with
    | .ok response => .success response
    | .error error => .failure (.error (localizedDescription error ++ "---- " ++ subject))

/-- A call succeeds with the articles of its document, element by element. -/
theorem APIManager.completion_success {subject : String} {result : Result (Option Document)}
    {response : Response News}
    (h : APIManager.completion date parse localizedDescription subject result =
      .success response) :
    ∃ data json elements, result = .success (some data) ∧ parse data = .ok json ∧
      json.member "articles" = some (.array elements) ∧
      response.articles = elements.map (News.ofJSON date) := by
  unfold APIManager.completion at h
  split at h
  · cases h
  · cases h
  · rename_i data
    split at h
    · rename_i made
      obtain rfl := Result.success.inj h
      obtain ⟨json, parsed, decoded⟩ := bind_eq_ok.mp made
      obtain ⟨_, elements, member, read⟩ := (Response.ofJSON_eq_ok date).mp decoded
      exact ⟨data, json, elements, rfl, parsed, member, read⟩
    · cases h

/-- Every article that reaches a screen has been decoded from an element. -/
theorem APIManager.completion_decoded {subject : String} {result : Result (Option Document)}
    {response : Response News}
    (h : APIManager.completion date parse localizedDescription subject result = .success response)
    {news : News} (mem : news ∈ response.articles) : news.Decoded date := by
  obtain ⟨_, _, elements, -, -, -, read⟩ :=
    APIManager.completion_success date parse localizedDescription h
  rw [read] at mem
  obtain ⟨element, _, rfl⟩ := List.mem_map.mp mem
  exact ⟨_, rfl⟩

end Completion

end NewsReader
