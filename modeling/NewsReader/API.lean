import NewsReader.News

/-!
# The API layer

URL strings and the calls to the news service. A call either runs its
completion before it returns, or leaves a data task running whose response is a
later event. Which strings `URL(string:)` accepts is Foundation's business, so
it is the parameter `isURL`.
-/

namespace NewsReader

inductive APIError
  | error (string : String)
  | errorURL
  | errorData
  | errorNetwork
  | emptyData
  | invalidURL
  | cancelRequest
  deriving DecidableEq, Repr

def APIError.localizedDescription : APIError → String
  | error string => string
  | errorURL => "URL String is error."
  | errorData => "Data is not format."
  | emptyData => "No data."
  | invalidURL => "Cannot detect URL."
  | errorNetwork => "The internet connection appears to be offline."
  | cancelRequest => "Server returns no information and closes the connection."

structure Response (Article : Type) where
  status : String
  articles : List Article
  deriving DecidableEq, Repr

inductive Result (Value : Type)
  | success (value : Value)
  | failure (error : APIError)
  deriving DecidableEq, Repr

abbrev APIResult (Article : Type) := Result (Response Article)

namespace APIManager

def apiKey : String := "29bc913b0d1046a0a2c022139e9f003f"

namespace Path

def baseDomain : String := "https://newsapi.org"
def basePath : String := "/v2"

structure TopHeadlines where
  category : String
  country : String
  pageSize : Int
  page : Int

def TopHeadlines.path : String := baseDomain ++ basePath ++ "/top-headlines"

def TopHeadlines.url (p : TopHeadlines) : String :=
  TopHeadlines.path ++ "?country=" ++ p.country ++ "&category=" ++ p.category ++
    "&apiKey=" ++ apiKey ++ "&page=" ++ toString p.page ++ "&pageSize=" ++ toString p.pageSize

structure Everything where
  query : String
  pageSize : Int
  page : Int

def Everything.path : String := baseDomain ++ basePath ++ "/everything"

def Everything.url (p : Everything) : String :=
  Everything.path ++ "?q=" ++ p.query ++
    "&apiKey=" ++ apiKey ++ "&page=" ++ toString p.page ++ "&pageSize=" ++ toString p.pageSize

end Path

namespace QueryString

def getTopHeadlines (category country : String) (page pageSize : Int) : String :=
  Path.TopHeadlines.url { category, country, pageSize, page }

def getEverything (query : String) (page pageSize : Int) : String :=
  Path.Everything.url { query, pageSize, page }

end QueryString

section Calls

variable (isURL : String → Bool) {Article : Type}

/-- The result `request(urlString:completion:)` hands over before it returns.
`none` when its data task is left running. -/
def request (urlString : String) : Option (APIResult Article) :=
  if isURL urlString then none else some (.failure .errorURL)

/-- The `guard` on the health category is a test left in the source. -/
def getTopHeadlines (page : Int) (category country : String) (pageSize : Int := 10) :
    Option (APIResult Article) :=
  if category = CategoryType.health.param then some (.failure .errorNetwork)
  else request isURL (QueryString.getTopHeadlines category country page pageSize)

def getEverything (query : String) (page : Int := 1) (pageSize : Int := 10) :
    Option (APIResult Article) :=
  request isURL (QueryString.getEverything query page pageSize)

/-- Whatever the API layer answers before returning is a failure. -/
theorem request_failure {urlString : String} {result : APIResult Article}
    (h : request isURL urlString = some result) : ∃ error, result = .failure error := by
  unfold request at h
  split at h
  · cases h
  · exact ⟨_, (Option.some.inj h).symm⟩

theorem getTopHeadlines_failure {page pageSize : Int} {category country : String}
    {result : APIResult Article}
    (h : getTopHeadlines isURL page category country pageSize = some result) :
    ∃ error, result = .failure error := by
  unfold getTopHeadlines at h
  split at h
  · exact ⟨_, (Option.some.inj h).symm⟩
  · exact request_failure isURL h

theorem getEverything_failure {page pageSize : Int} {query : String} {result : APIResult Article}
    (h : getEverything isURL query page pageSize = some result) :
    ∃ error, result = .failure error := request_failure isURL h

end Calls

end APIManager

/-- A `URL(string:)` that accepts every string. -/
def anyURL : String → Bool := fun _ => true

end NewsReader
