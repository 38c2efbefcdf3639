import NewsReader.Home.HomeViewController

/-!
# One category's entries

A `Slot` gathers what the parallel arrays and the child hold at one index. The
response handlers of the controller are functions on one slot (`respond_eq`) and
trap exactly where the index has no slot (`respond_eq_none`).
-/

namespace NewsReader

structure Slot where
  articles : List News
  isLoading : Bool
  currentPageParam : Nat
  canLoadMore : Bool
  error : String
  child : HomeChildViewController
  deriving DecidableEq, Repr

namespace Slot

def showArticles (σ : Slot) : Slot := { σ with child := σ.child.setArticles σ.articles }

def fecthDataResponse (category : CategoryType) (result : APIResult News) (σ : Slot) : Slot :=
  match result with
  | .failure error => { σ with error := error.localizedDescription, isLoading := false }
  | .success response =>
    if response.articles.isEmpty then { σ with error := "Empty data", isLoading := false }
    else
      { σ with articles := setCategoryInNews response.articles category, isLoading := false }.showArticles

def refreshDataResponse (category : CategoryType) (result : APIResult News) (σ : Slot) : Slot :=
  match result with
  | .failure _ => σ
  | .success response =>
    { σ with
      articles := setCategoryInNews response.articles category
      canLoadMore := true
      currentPageParam := 1 }.showArticles

def loadMoreApiResponse (category : CategoryType) (result : APIResult News) (σ : Slot) : Slot :=
  match result with
  | .failure _ => { σ with isLoading := false }
  | .success response =>
    if response.articles.length > 0 then
      { σ with
        articles := σ.articles ++ setCategoryInNews response.articles category
        isLoading := false }.showArticles
    else { σ with canLoadMore := false, isLoading := false }

/-- What a response does to the slot its request named. -/
def answer (r : Request) (result : APIResult News) (σ : Slot) : Slot :=
  match r.action with
  | .fetchData => σ.fecthDataResponse r.category result
  | .pullToRefresh => σ.refreshDataResponse r.category result
  | .loadMore => σ.loadMoreApiResponse r.category result

/-- `σ'` still holds the child `σ` holds, whatever its articles now are. -/
def SameChild (σ σ' : Slot) : Prop :=
  σ'.child.viewModel.index = σ.child.viewModel.index ∧
  σ'.child.viewModel.category = σ.child.viewModel.category ∧
  σ'.child.tag = σ.child.tag ∧ σ'.child.isViewLoaded = σ.child.isViewLoaded

/-- `σ'` holds the articles `σ` holds, and its child shows those of `σ`. -/
def SameArticles (σ σ' : Slot) : Prop :=
  σ'.articles = σ.articles ∧ σ'.child.viewModel.articles = σ.child.viewModel.articles

/-- A failure brings no articles. -/
theorem sameArticles_failure (r : Request) (error : APIError) (σ : Slot) :
    σ.SameArticles (σ.answer r (.failure error)) := by
  obtain ⟨action, i, c, page⟩ := r
  cases action <;> exact ⟨rfl, rfl⟩

theorem sameChild_answer (r : Request) (result : APIResult News) (σ : Slot) :
    σ.SameChild (σ.answer r result) := by
  obtain ⟨action, i, c, page⟩ := r
  cases action <;> cases result <;>
    simp only [answer, fecthDataResponse, refreshDataResponse, loadMoreApiResponse]
  all_goals first
    | exact ⟨rfl, rfl, rfl, rfl⟩
    | split <;> simp [SameChild, showArticles]
    | simp [SameChild, showArticles]

end Slot

/-- The alert a response raises, if any. A failed fetch raises none: it is kept
in `errors`. -/
def Request.notices (r : Request) (result : APIResult News) : List Alert :=
  match r.action, result with
  | .fetchData, _ => []
  | _, .failure error => [.notice error.localizedDescription]
  | .pullToRefresh, .success _ => []
  | .loadMore, .success response =>
    if response.articles.length > 0 then [] else [.notice "Can't loadmore!"]

namespace HomeViewController

def slot (s : HomeViewController) (i : Nat) : Option Slot := do
  let articles ← s.viewModel.articlesArray[i]?
  let isLoading ← s.viewModel.isLoading[i]?
  let currentPageParam ← s.viewModel.currentPageParam[i]?
  let canLoadMore ← s.viewModel.canLoadMore[i]?
  let error ← s.viewModel.errors[i]?
  let child ← s.viewControllers[i]?
  return { articles, isLoading, currentPageParam, canLoadMore, error, child }

def putSlot (s : HomeViewController) (i : Nat) (σ : Slot) : HomeViewController :=
  { s with
    viewModel := { s.viewModel with
      articlesArray := s.viewModel.articlesArray.set i σ.articles
      isLoading := s.viewModel.isLoading.set i σ.isLoading
      currentPageParam := s.viewModel.currentPageParam.set i σ.currentPageParam
      canLoadMore := s.viewModel.canLoadMore.set i σ.canLoadMore
      errors := s.viewModel.errors.set i σ.error }
    viewControllers := s.viewControllers.set i σ.child }

theorem slot_eq_some_iff {s : HomeViewController} {i : Nat} {σ : Slot} :
    s.slot i = some σ ↔
      s.viewModel.articlesArray[i]? = some σ.articles ∧
      s.viewModel.isLoading[i]? = some σ.isLoading ∧
      s.viewModel.currentPageParam[i]? = some σ.currentPageParam ∧
      s.viewModel.canLoadMore[i]? = some σ.canLoadMore ∧
      s.viewModel.errors[i]? = some σ.error ∧
      s.viewControllers[i]? = some σ.child := by
  obtain ⟨articles, isLoading, currentPageParam, canLoadMore, error, child⟩ := σ
  simp only [slot, Option.bind_eq_bind, Option.bind_eq_some_iff, Option.pure_def,
    Option.some.injEq, Slot.mk.injEq]
  constructor
  · rintro ⟨_, h1, _, h2, _, h3, _, h4, _, h5, _, h6, rfl, rfl, rfl, rfl, rfl, rfl⟩
    exact ⟨h1, h2, h3, h4, h5, h6⟩
  · rintro ⟨h1, h2, h3, h4, h5, h6⟩
    exact ⟨_, h1, _, h2, _, h3, _, h4, _, h5, _, h6, rfl, rfl, rfl, rfl, rfl, rfl⟩

/-! ## Reading and writing slots -/

section Write

variable {s : HomeViewController} {i : Nat} {σ : Slot}

theorem slot_putSlot (h : s.slot i = some σ) (σ' : Slot) : (s.putSlot i σ').slot i = some σ' := by
  obtain ⟨h1, h2, h3, h4, h5, h6⟩ := slot_eq_some_iff.mp h
  exact slot_eq_some_iff.mpr ⟨getElem?_set_of_some h1 _, getElem?_set_of_some h2 _,
    getElem?_set_of_some h3 _, getElem?_set_of_some h4 _, getElem?_set_of_some h5 _,
    getElem?_set_of_some h6 _⟩

theorem slot_putSlot_ne {j : Nat} (ne : j ≠ i) (σ' : Slot) :
    (s.putSlot i σ').slot j = s.slot j := by
  simp [slot, putSlot, List.getElem?_set_ne (Ne.symm ne)]

theorem putSlot_putSlot (σ₁ σ₂ : Slot) : (s.putSlot i σ₁).putSlot i σ₂ = s.putSlot i σ₂ := by
  simp [putSlot]

theorem putSlot_self (h : s.slot i = some σ) : s.putSlot i σ = s := by
  obtain ⟨h1, h2, h3, h4, h5, h6⟩ := slot_eq_some_iff.mp h
  simp only [putSlot, set_getElem? h1, set_getElem? h2, set_getElem? h3, set_getElem? h4,
    set_getElem? h5, set_getElem? h6]

theorem setArticles_eq (h : s.slot i = some σ) (articles : List News) :
    s.setArticles i articles = some (s.putSlot i { σ with articles }) := by
  obtain ⟨h1, h2, h3, h4, h5, h6⟩ := slot_eq_some_iff.mp h
  simp [setArticles, putSlot, assign_of_getElem? h1, set_getElem? h2, set_getElem? h3,
    set_getElem? h4, set_getElem? h5, set_getElem? h6]

theorem setIsLoading_eq (h : s.slot i = some σ) (isLoading : Bool) :
    s.setIsLoading i isLoading = some (s.putSlot i { σ with isLoading }) := by
  obtain ⟨h1, h2, h3, h4, h5, h6⟩ := slot_eq_some_iff.mp h
  simp [setIsLoading, putSlot, assign_of_getElem? h2, set_getElem? h1, set_getElem? h3,
    set_getElem? h4, set_getElem? h5, set_getElem? h6]

theorem setCurrentPageParam_eq (h : s.slot i = some σ) (currentPageParam : Nat) :
    s.setCurrentPageParam i currentPageParam = some (s.putSlot i { σ with currentPageParam }) := by
  obtain ⟨h1, h2, h3, h4, h5, h6⟩ := slot_eq_some_iff.mp h
  simp [setCurrentPageParam, putSlot, assign_of_getElem? h3, set_getElem? h1, set_getElem? h2,
    set_getElem? h4, set_getElem? h5, set_getElem? h6]

theorem setCanLoadMore_eq (h : s.slot i = some σ) (canLoadMore : Bool) :
    s.setCanLoadMore i canLoadMore = some (s.putSlot i { σ with canLoadMore }) := by
  obtain ⟨h1, h2, h3, h4, h5, h6⟩ := slot_eq_some_iff.mp h
  simp [setCanLoadMore, putSlot, assign_of_getElem? h4, set_getElem? h1, set_getElem? h2,
    set_getElem? h3, set_getElem? h5, set_getElem? h6]

theorem setError_eq (h : s.slot i = some σ) (error : String) :
    s.setError i error = some (s.putSlot i { σ with error }) := by
  obtain ⟨h1, h2, h3, h4, h5, h6⟩ := slot_eq_some_iff.mp h
  simp [setError, putSlot, assign_of_getElem? h5, set_getElem? h1, set_getElem? h2,
    set_getElem? h3, set_getElem? h4, set_getElem? h6]

theorem setChild_eq (h : s.slot i = some σ) (child : HomeChildViewController) :
    s.setChild i child = some (s.putSlot i { σ with child }) := by
  obtain ⟨h1, h2, h3, h4, h5, h6⟩ := slot_eq_some_iff.mp h
  simp [setChild, putSlot, assign_of_getElem? h6, set_getElem? h1, set_getElem? h2,
    set_getElem? h3, set_getElem? h4, set_getElem? h5]

theorem showArticles_eq (h : s.slot i = some σ) :
    s.showArticles i = some (s.putSlot i σ.showArticles) := by
  obtain ⟨h1, -, -, -, -, h6⟩ := slot_eq_some_iff.mp h
  simp only [showArticles, h1, h6, Option.bind_eq_bind, Option.bind_some, setChild_eq h,
    Slot.showArticles]

end Write

/-! ## Responses -/

/-- What a response changes outside the slot. -/
def settle (s : HomeViewController) (r : Request) (result : APIResult News) : HomeViewController :=
  { s with
    viewModel := { s.viewModel with
      isRefreshing := if r.action = .pullToRefresh then false else s.viewModel.isRefreshing }
    alerts := s.alerts ++ r.notices result }

section Respond

variable {s : HomeViewController} {σ : Slot} {r : Request}

theorem fecthDataResponse_eq {i : Nat} (h : s.slot i = some σ) (c : CategoryType)
    (result : APIResult News) :
    s.fecthDataResponse i c (fetchDataDone i) result =
      some (s.putSlot i (σ.fecthDataResponse c result)) := by
  cases result with
  | failure error =>
    simp only [fecthDataResponse, fetchDataDone, Bool.false_eq_true, if_false, setError_eq h,
      Option.bind_eq_bind, Option.bind_some, setIsLoading_eq (slot_putSlot h _), putSlot_putSlot,
      Slot.fecthDataResponse]
  | success response =>
    by_cases empty : response.articles.isEmpty = true
    · simp only [fecthDataResponse, empty, if_true, fetchDataDone, Bool.false_eq_true, if_false,
        setError_eq h, Option.bind_eq_bind, Option.bind_some, setIsLoading_eq (slot_putSlot h _),
        putSlot_putSlot, Slot.fecthDataResponse]
    · simp only [fecthDataResponse, empty, Bool.false_eq_true, if_false, fetchDataDone, if_true,
        setArticles_eq h, Option.bind_eq_bind, Option.bind_some,
        showArticles_eq (slot_putSlot h _), setIsLoading_eq (slot_putSlot h _), putSlot_putSlot,
        Slot.fecthDataResponse, Slot.showArticles]

theorem refreshDataResponse_eq {i : Nat} (h : s.slot i = some σ)
    (known : (s.categories[i]?).isSome) (c : CategoryType) (result : APIResult News) :
    s.refreshDataResponse i c (actionDone i) result =
      some ((s.putSlot i (σ.refreshDataResponse c result)).settle
        ⟨.pullToRefresh, i, c, 1⟩ result) := by
  obtain ⟨category, found⟩ := Option.isSome_iff_exists.mp known
  cases result with
  | failure error =>
    have same : (s.alert (.notice error.localizedDescription)).categories[i]? = some category := found
    simp only [refreshDataResponse, actionDone, Bool.false_eq_true, if_false, same,
      Option.bind_eq_bind, Option.bind_some, Option.pure_def, Slot.refreshDataResponse,
      putSlot_self h]
    rfl
  | success response =>
    simp only [refreshDataResponse, setArticles_eq h, setCanLoadMore_eq (slot_putSlot h _),
      setCurrentPageParam_eq (slot_putSlot h _), actionDone, if_true,
      showArticles_eq (slot_putSlot h _), Option.bind_eq_bind, Option.bind_some, Option.pure_def,
      putSlot_putSlot, Slot.refreshDataResponse, settle, Request.notices, List.append_nil]
    rfl

theorem loadMoreApiResponse_eq {i page : Nat} (h : s.slot i = some σ)
    (known : (s.categories[i]?).isSome) (c : CategoryType) (result : APIResult News) :
    s.loadMoreApiResponse i c (actionDone i) result =
      some ((s.putSlot i (σ.loadMoreApiResponse c result)).settle
        ⟨.loadMore, i, c, page⟩ result) := by
  obtain ⟨category, found⟩ := Option.isSome_iff_exists.mp known
  cases result with
  | failure error =>
    have same : (s.alert (.notice error.localizedDescription)).categories[i]? = some category := found
    have alerted : (s.alert (.notice error.localizedDescription)).slot i = some σ := h
    simp only [loadMoreApiResponse, actionDone, Bool.false_eq_true, if_false, same,
      Option.bind_eq_bind, Option.bind_some, Option.pure_def, Slot.loadMoreApiResponse,
      setIsLoading_eq alerted]
    rfl
  | success response =>
    have entry := (slot_eq_some_iff.mp h).1
    by_cases more : response.articles.length > 0
    · simp only [loadMoreApiResponse, more, if_true, entry, setArticles_eq h, actionDone,
        showArticles_eq (slot_putSlot h _), setIsLoading_eq (slot_putSlot h _),
        Option.bind_eq_bind, Option.bind_some, putSlot_putSlot, Slot.loadMoreApiResponse,
        Slot.showArticles, settle, Request.notices, List.append_nil]
      rfl
    · have ended := slot_putSlot h { σ with canLoadMore := false }
      have same : ((s.putSlot i { σ with canLoadMore := false }).alert
          (.notice "Can't loadmore!")).categories[i]? = some category := found
      have alerted : ((s.putSlot i { σ with canLoadMore := false }).alert
          (.notice "Can't loadmore!")).slot i = some { σ with canLoadMore := false } := ended
      simp only [loadMoreApiResponse, more, if_false, setCanLoadMore_eq h, actionDone,
        Bool.false_eq_true, same, Option.bind_eq_bind, Option.bind_some, Option.pure_def,
        setIsLoading_eq alerted, Slot.loadMoreApiResponse, settle, Request.notices]
      simp [putSlot, alert]

/-- A response is handled by one slot: it rewrites the slot its request named,
the global refresh flag and the alerts, and nothing else. -/
theorem respond_eq (h : s.slot r.index = some σ) (known : (s.categories[r.index]?).isSome)
    (result : APIResult News) :
    respond r result s = some ((s.putSlot r.index (σ.answer r result)).settle r result) := by
  obtain ⟨action, i, c, page⟩ := r
  cases action with
  | fetchData =>
    simp only [respond, fecthDataResponse_eq h, Slot.answer, settle, Request.notices,
      List.append_nil]
    rfl
  | pullToRefresh => exact refreshDataResponse_eq h known c result
  | loadMore => exact loadMoreApiResponse_eq h known c result

end Respond

end HomeViewController

end NewsReader
