import Mathlib.Data.List.Nodup

/-!
# Articles and categories

`Source` and `News` are the fields of the Realm objects of the same names.
Articles decoded from a response are fresh, so a value models one until it is
stored.
-/

namespace NewsReader

structure Source where
  id : Option String
  name : Option String
  deriving DecidableEq, Repr

/-- Seconds since 1970. The `iso8601Full` formatter reads whole seconds. -/
abbrev Date := Int

structure News where
  source : Option Source := some ⟨none, none⟩
  titleNews : Option String := none
  urlNews : Option String := none
  urlImage : Option String := none
  publishedAt : Option Date := none
  author : Option String := none
  content : Option String := none
  descriptionNews : Option String := none
  categoryNews : Option String := none
  deriving DecidableEq, Repr

/-- What the decoder reads under each of the `CodingKeys`, where it reads anything. -/
structure NewsContainer where
  source : Option Source
  titleNews : Option String
  urlNews : Option String
  urlImage : Option String
  publishedAt : Option String
  author : Option String
  content : Option String
  descriptionNews : Option String
  deriving DecidableEq, Repr

/-- `init(from:)`, with `date` for the `iso8601Full` formatter. -/
def News.decode (date : String → Option Date) : Option NewsContainer → News
  | none => {}
  | some container =>
    { source := container.source
      titleNews := container.titleNews
      urlNews := container.urlNews
      urlImage := container.urlImage
      publishedAt := container.publishedAt.bind date
      author := container.author
      content := container.content
      descriptionNews := container.descriptionNews }

def News.Decoded (date : String → Option Date) (news : News) : Prop :=
  ∃ container, news = News.decode date container

/-- No coding key stands for the category. -/
theorem News.Decoded.categoryNews {date : String → Option Date} {news : News}
    (h : news.Decoded date) : news.categoryNews = none := by
  obtain ⟨container, rfl⟩ := h
  cases container <;> rfl

inductive CategoryType
  | us | business | technology | health | science | sports | entertainment
  deriving DecidableEq, Repr

namespace CategoryType

def rawValue : CategoryType → Int
  | us => 0
  | business => 1
  | technology => 2
  | health => 3
  | science => 4
  | sports => 5
  | entertainment => 6

/-- `CategoryType(rawValue:)`. -/
def ofRawValue (value : Int) : Option CategoryType :=
  if value = 0 then some us
  else if value = 1 then some business
  else if value = 2 then some technology
  else if value = 3 then some health
  else if value = 4 then some science
  else if value = 5 then some sports
  else if value = 6 then some entertainment
  else none

def param : CategoryType → String
  | us => "general"
  | business => "business"
  | technology => "technology"
  | health => "health"
  | science => "science"
  | sports => "sports"
  | entertainment => "entertainment"

def imageName : CategoryType → String
  | us => "us"
  | business => "business"
  | technology => "technology"
  | health => "health"
  | science => "science"
  | sports => "sports"
  | entertainment => "entertainment"

def allCases : List CategoryType :=
  [us, health, science, technology, sports, entertainment, business]

@[simp] theorem ofRawValue_rawValue (c : CategoryType) : ofRawValue c.rawValue = some c := by
  cases c <;> decide

theorem param_injective : Function.Injective param := by
  intro a b same
  cases a <;> cases b <;> first | rfl | (exact absurd same (by decide))

theorem mem_allCases (c : CategoryType) : c ∈ allCases := by
  cases c <;> decide

theorem nodup_allCases : allCases.Nodup := by decide

end CategoryType

/-- `setCategoryInNews(articles:category:)`. -/
def setCategoryInNews (articles : List News) (category : CategoryType) : List News :=
  articles.map fun news => { news with categoryNews := some category.param }

theorem setCategoryInNews_category {articles : List News} {category : CategoryType} {news : News}
    (h : news ∈ setCategoryInNews articles category) :
    news.categoryNews = some category.param := by
  obtain ⟨_, _, rfl⟩ := List.mem_map.mp h
  rfl

@[simp] theorem setCategoryInNews_eq_nil {articles : List News} {category : CategoryType} :
    setCategoryInNews articles category = [] ↔ articles = [] := List.map_eq_nil_iff

end NewsReader
