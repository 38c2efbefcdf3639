import NewsReader.API
import NewsReader.Search.Query

/-!
# The search view model

`searchNews` and `loadMoreSearchNews` are cut at the network: `*Response` is what
runs when the data task answers, or at once when the API layer fails before one
is created. A completion is given by the arguments it is called with.
-/

namespace NewsReader

@[ext] structure SearchNewsViewModel where
  searchItems : List News := []
  queryString : String := ""
  oldQueryString : String := ""
  canLoadMore : Bool := true
  isLoading : Bool := false
  currentPage : Nat := 1
  deriving DecidableEq, Repr

/-- How a call ends: its completion has been called, or a data task is running
for a page of a query. -/
inductive Call
  | completed (done : Bool) (message : String)
  | running (query : String) (page : Nat)
  deriving DecidableEq, Repr

namespace SearchNewsViewModel

def searchNewsResponse (result : APIResult News) (vm : SearchNewsViewModel) :
    SearchNewsViewModel × Bool × String :=
  let (vm, completion) := match result with
    | .failure error => (vm, false, error.localizedDescription)
    | .success response =>
      ({ vm with searchItems := response.articles, oldQueryString := vm.queryString }, true, "")
  ({ vm with isLoading := false }, completion)

def loadMoreSearchNewsResponse (result : APIResult News) (vm : SearchNewsViewModel) :
    SearchNewsViewModel × Bool × String :=
  let (vm, completion) := match result with
    | .failure error => (vm, false, error.localizedDescription)
    | .success response =>
      let (vm, completion) :=
        if response.articles.length > 0 then
          ({ vm with searchItems := vm.searchItems ++ response.articles }, true, "")
        else ({ vm with canLoadMore := false }, false, "Can't loadmore!")
      ({ vm with oldQueryString := vm.queryString }, completion)
  ({ vm with isLoading := false }, completion)

section Calls

variable (isURL : String → Bool)

def searchNews (vm : SearchNewsViewModel) : SearchNewsViewModel × Call :=
  let vm := { vm with queryString := trimmingCharacters vm.queryString }
  if vm.queryString ≠ "" then
    match addingPercentEncoding vm.queryString with
    | some queryStringEndcode =>
      let vm := { vm with isLoading := true }
      match APIManager.getEverything isURL queryStringEndcode with
      | some result =>
        let (vm, done, message) := vm.searchNewsResponse result
        (vm, .completed done message)
      | none => (vm, .running vm.queryString 1)
    | none => (vm, .completed false "")
  else (vm, .completed false "")

def loadMoreSearchNews (vm : SearchNewsViewModel) : SearchNewsViewModel × Call :=
  let vm := { vm with queryString := trimmingCharacters vm.queryString }
  if vm.queryString ≠ "" then
    match addingPercentEncoding vm.queryString with
    | some queryStringEndcode =>
      let vm := { vm with isLoading := true, currentPage := vm.currentPage + 1 }
      match APIManager.getEverything isURL queryStringEndcode vm.currentPage with
      | some result =>
        let (vm, done, message) := vm.loadMoreSearchNewsResponse result
        (vm, .completed done message)
      | none => (vm, .running vm.queryString vm.currentPage)
    | none => (vm, .completed false "")
  else (vm, .completed false "")

end Calls

def cancelSearchNews (vm : SearchNewsViewModel) : SearchNewsViewModel :=
  { vm with searchItems := [], currentPage := 0, isLoading := false, canLoadMore := true }

/-! ## What a call does -/

/-- URLs of searches are accepted, so a call fails only when its task answers. -/
def Reaches (isURL : String → Bool) : Prop :=
  ∀ (query encoded : String) (page : Int), addingPercentEncoding query = some encoded →
    (APIManager.getEverything isURL encoded page : Option (APIResult News)) = none

/-- The query a call would ask for. -/
def query (vm : SearchNewsViewModel) : String := trimmingCharacters vm.queryString

variable (isURL : String → Bool) (vm : SearchNewsViewModel)

/-- A request that is answered at once has failed, for its URL. -/
theorem refused_getEverything {isURL : String → Bool} {query encoded : String} {page : Int}
    {result : APIResult News} (encodes : addingPercentEncoding query = some encoded)
    (answered : APIManager.getEverything isURL encoded page = some result) :
    ¬ Reaches isURL ∧ ∃ error, result = .failure error := by
  constructor
  · intro reaches
    exact nomatch (reaches query encoded page encodes).symm.trans answered
  · exact APIManager.getEverything_failure isURL answered

/-- A search of a blank query is refused; any other fails at once or is running. -/
theorem searchNews_cases :
    (vm.query = "" ∧
      vm.searchNews isURL = ({ vm with queryString := vm.query }, .completed false "")) ∨
    (¬ Reaches isURL ∧ ∃ error : APIError, vm.searchNews isURL =
      ({ vm with queryString := vm.query, isLoading := false },
        .completed false error.localizedDescription)) ∨
    (vm.query ≠ "" ∧ vm.searchNews isURL =
      ({ vm with queryString := vm.query, isLoading := true }, .running vm.query 1)) := by
  by_cases blank : vm.query = ""
  · refine Or.inl ⟨blank, ?_⟩
    rw [searchNews]
    exact if_neg (not_not.mpr blank)
  · have called : vm.searchNews isURL = _ := if_pos blank
    rw [called]
    dsimp only [addingPercentEncoding]
    split
    · rename_i result answered
      obtain ⟨unreached, error, rfl⟩ := refused_getEverything rfl answered
      exact Or.inr (Or.inl ⟨unreached, error, rfl⟩)
    · exact Or.inr (Or.inr ⟨blank, rfl⟩)

/-- A load-more counts its page whether or not it gets through. -/
theorem loadMoreSearchNews_cases :
    (vm.query = "" ∧
      vm.loadMoreSearchNews isURL = ({ vm with queryString := vm.query }, .completed false "")) ∨
    (¬ Reaches isURL ∧ ∃ error : APIError, vm.loadMoreSearchNews isURL =
      ({ vm with queryString := vm.query, isLoading := false, currentPage := vm.currentPage + 1 },
        .completed false error.localizedDescription)) ∨
    (vm.query ≠ "" ∧ vm.loadMoreSearchNews isURL =
      ({ vm with queryString := vm.query, isLoading := true, currentPage := vm.currentPage + 1 },
        .running vm.query (vm.currentPage + 1))) := by
  by_cases blank : vm.query = ""
  · refine Or.inl ⟨blank, ?_⟩
    rw [loadMoreSearchNews]
    exact if_neg (not_not.mpr blank)
  · have called : vm.loadMoreSearchNews isURL = _ := if_pos blank
    rw [called]
    dsimp only [addingPercentEncoding]
    split
    · rename_i result answered
      obtain ⟨unreached, error, rfl⟩ := refused_getEverything rfl answered
      exact Or.inr (Or.inl ⟨unreached, error, rfl⟩)
    · exact Or.inr (Or.inr ⟨blank, rfl⟩)

end SearchNewsViewModel

end NewsReader
