import NewsReader.API
import NewsReader.Home.HomeChild
import NewsReader.Machine
import NewsReader.Setting
import NewsReader.Subscript

/-!
# The Home screen

`HomeViewModel` keeps one entry a category in five parallel arrays, and
`HomeViewController` one child a category. Both live in one state here with what
they share: the settings, the data tasks that have not answered and the alerts
that wait for a tap. A function whose subscript is out of range is `none`.
-/

namespace NewsReader

structure HomeViewModel where
  navigationDirection : Bool := false
  articlesArray : List (List News) := []
  isLoading : List Bool := []
  currentPageParam : List Nat := []
  canLoadMore : List Bool := []
  isRefreshing : Bool := false
  errors : List String := []
  currentPage : Nat := 0
  deriving DecidableEq, Repr

namespace HomeViewModel

/-- Assigning `currentPage`, with its `didSet`. -/
def setCurrentPage (vm : HomeViewModel) (page : Nat) : HomeViewModel :=
  { vm with currentPage := page, navigationDirection := decide (vm.currentPage > page) }

def configData (vm : HomeViewModel) (categories : List CategoryType) : HomeViewModel :=
  let count := categories.length
  { vm with
    articlesArray := List.replicate count []
    isLoading := List.replicate count true
    currentPageParam := List.replicate count 1
    canLoadMore := List.replicate count true
    errors := List.replicate count "" }

def getHomeChildViewModel (vm : HomeViewModel) (categories : List CategoryType) (index : Nat) :
    Option HomeChildViewModel := do
  let articles ← vm.articlesArray[index]?
  let category ← categories[index]?
  let isLoading ← vm.isLoading[index]?
  return { articles, category, isLoading, index }

end HomeViewModel

/-- `HomeChildViewController.Action`: each case also names an index and a category. -/
inductive Action
  | fetchData | loadMore | pullToRefresh
  deriving DecidableEq, Repr

/-- A data task that has not answered: the values its completion captured, and
the page it asked for. -/
structure Request where
  action : Action
  index : Nat
  category : CategoryType
  page : Nat
  deriving DecidableEq, Repr

/-- An alert on the Home screen. Only the one `scrollToCategory` raises has a
handler on its Ok button. -/
inductive Alert
  | notice (message : String)
  | categoryError (message : String)
  deriving DecidableEq, Repr

/-- `displayed` is the tag of the child the page controller shows. -/
structure HomeViewController where
  viewModel : HomeViewModel := {}
  viewControllers : List HomeChildViewController := []
  displayed : Option Nat := none
  setting : SettingManager := {}
  outstanding : List Request := []
  alerts : List Alert := []
  deriving DecidableEq, Repr

/-- A completion closure `(done, message)` and what it does to the screen. -/
abbrev Completion := Bool → String → HomeViewController → Option HomeViewController

namespace HomeViewController

def categories (s : HomeViewController) : List CategoryType := s.setting.categories

/-! ## Array writes -/

def setArticles (s : HomeViewController) (index : Nat) (articles : List News) :
    Option HomeViewController := do
  let articlesArray ← assign s.viewModel.articlesArray index articles
  return { s with viewModel := { s.viewModel with articlesArray } }

def setIsLoading (s : HomeViewController) (index : Nat) (value : Bool) :
    Option HomeViewController := do
  let isLoading ← assign s.viewModel.isLoading index value
  return { s with viewModel := { s.viewModel with isLoading } }

def setCurrentPageParam (s : HomeViewController) (index : Nat) (value : Nat) :
    Option HomeViewController := do
  let currentPageParam ← assign s.viewModel.currentPageParam index value
  return { s with viewModel := { s.viewModel with currentPageParam } }

def setCanLoadMore (s : HomeViewController) (index : Nat) (value : Bool) :
    Option HomeViewController := do
  let canLoadMore ← assign s.viewModel.canLoadMore index value
  return { s with viewModel := { s.viewModel with canLoadMore } }

def setError (s : HomeViewController) (index : Nat) (value : String) :
    Option HomeViewController := do
  let errors ← assign s.viewModel.errors index value
  return { s with viewModel := { s.viewModel with errors } }

def setIsRefreshing (s : HomeViewController) (value : Bool) : HomeViewController :=
  { s with viewModel := { s.viewModel with isRefreshing := value } }

def setChild (s : HomeViewController) (index : Nat) (child : HomeChildViewController) :
    Option HomeViewController := do
  let viewControllers ← assign s.viewControllers index child
  return { s with viewControllers }

def alert (s : HomeViewController) (a : Alert) : HomeViewController :=
  { s with alerts := s.alerts ++ [a] }

/-! ## The responses of `HomeViewModel`'s requests -/

def fecthDataResponse (index : Nat) (category : CategoryType) (completion : Completion)
    (result : APIResult News) (s : HomeViewController) : Option HomeViewController := do
  let s ← match result with
    | .failure error => completion false error.localizedDescription s
    | .success response =>
      if response.articles.isEmpty then completion false "Empty data" s
      else do
        let s ← s.setArticles index (setCategoryInNews response.articles category)
        completion true "" s
  s.setIsLoading index false

def refreshDataResponse (index : Nat) (category : CategoryType) (completion : Completion)
    (result : APIResult News) (s : HomeViewController) : Option HomeViewController := do
  let s ← match result with
    | .failure error => completion false error.localizedDescription s
    | .success response => do
      let s ← s.setArticles index (setCategoryInNews response.articles category)
      let s ← s.setCanLoadMore index true
      let s ← s.setCurrentPageParam index 1
      completion true "" s
  return s.setIsRefreshing false

def loadMoreApiResponse (index : Nat) (category : CategoryType) (completion : Completion)
    (result : APIResult News) (s : HomeViewController) : Option HomeViewController := do
  let s ← match result with
    | .failure error => completion false error.localizedDescription s
    | .success response =>
      if response.articles.length > 0 then do
        let articles ← s.viewModel.articlesArray[index]?
        let s ← s.setArticles index (articles ++ setCategoryInNews response.articles category)
        completion true "" s
      else do
        let s ← s.setCanLoadMore index false
        completion false "Can't loadmore!" s
  s.setIsLoading index false

/-! ## The completions of `viewController(_:needPerform:)` -/

/-- Copy the model's list for `index` into its child. -/
def showArticles (s : HomeViewController) (index : Nat) : Option HomeViewController := do
  let articles ← s.viewModel.articlesArray[index]?
  let child ← s.viewControllers[index]?
  s.setChild index (child.setArticles articles)

def fetchDataDone (index : Nat) : Completion := fun done message s =>
  if done then s.showArticles index else s.setError index message

/-- The completions of `pullToRefresh` and `loadMore` are the same. The `print`
after the alert subscripts `categories`. -/
def actionDone (index : Nat) : Completion := fun done message s =>
  if done then s.showArticles index
  else do
    let s := s.alert (.notice message)
    let _ ← s.categories[index]?
    return s

/-- Run the completion of the data task that answers. -/
def respond (r : Request) (result : APIResult News) (s : HomeViewController) :
    Option HomeViewController :=
  match r.action with
  | .fetchData => fecthDataResponse r.index r.category (fetchDataDone r.index) result s
  | .pullToRefresh => refreshDataResponse r.index r.category (actionDone r.index) result s
  | .loadMore => loadMoreApiResponse r.index r.category (actionDone r.index) result s

/-! ## Requests -/

section Requests

variable (isURL : String → Bool)

/-- `getTopHeadlines` with the completion of `r`. -/
def send (r : Request) (s : HomeViewController) : Option HomeViewController :=
  match APIManager.getTopHeadlines isURL r.page r.category.param "us" with
  | some result => respond r result s
  | none => some { s with outstanding := s.outstanding ++ [r] }

def fecthData (index : Nat) (category : CategoryType) (s : HomeViewController) :
    Option HomeViewController :=
  send isURL ⟨.fetchData, index, category, 1⟩ s

def refreshData (index : Nat) (category : CategoryType) (s : HomeViewController) :
    Option HomeViewController :=
  send isURL ⟨.pullToRefresh, index, category, 1⟩ (s.setIsRefreshing true)

def loadMoreApi (index : Nat) (category : CategoryType) (s : HomeViewController) :
    Option HomeViewController := do
  let s ← s.setIsLoading index true
  let page ← s.viewModel.currentPageParam[index]?
  let s ← s.setCurrentPageParam index (page + 1)
  send isURL ⟨.loadMore, index, category, page + 1⟩ s

/-- `viewController(_:needPerform:)`, with its guards. -/
def needPerform (action : Action) (index : Nat) (category : CategoryType)
    (s : HomeViewController) : Option HomeViewController :=
  match action with
  | .pullToRefresh => do
    let isLoading ← s.viewModel.isLoading[index]?
    if isLoading then return s else refreshData isURL index category s
  | .loadMore => do
    let isLoading ← s.viewModel.isLoading[index]?
    if isLoading then return s
    else do
      let canLoadMore ← s.viewModel.canLoadMore[index]?
      if canLoadMore then loadMoreApi isURL index category s else return s
  | .fetchData => fecthData isURL index category s

/-- `refreshHomeChildVC` of the child at `position`, whose refresh control the
pull has started. -/
def refreshHomeChildVC (s : HomeViewController) (position : Nat) : Option HomeViewController := do
  let child ← s.viewControllers[position]?
  let s ← s.setChild position { child with refreshControlIsRefreshing := true }
  needPerform isURL .pullToRefresh child.viewModel.index child.viewModel.category s

/-- `loadMore` of the child at `position`, from its `scrollViewDidScroll`. -/
def loadMore (s : HomeViewController) (position : Nat) : Option HomeViewController := do
  let child ← s.viewControllers[position]?
  needPerform isURL .loadMore child.viewModel.index child.viewModel.category s

/-! ## Building the children -/

/-- One turn of the loop in `configHomeChildViewController`. Setting `view.tag`
loads the view, so `viewDidLoad` fetches before the child is in the array. -/
def loadChild (index : Nat) (s : HomeViewController) :
    Option (HomeViewController × HomeChildViewController) := do
  let viewModel ← s.viewModel.getHomeChildViewModel s.categories index
  let child := ({} : HomeChildViewController).setViewModel viewModel
  let s ← needPerform isURL .fetchData child.viewModel.index child.viewModel.category s
  return (s, { child.configLoadingView with isViewLoaded := true, tag := index })

def loadChildren : List Nat → HomeViewController →
    Option (HomeViewController × List HomeChildViewController)
  | [], s => some (s, [])
  | index :: rest, s => do
    let (s, child) ← loadChild isURL index s
    let (s, children) ← loadChildren rest s
    return (s, child :: children)

def configHomeChildViewController (s : HomeViewController) : Option HomeViewController := do
  let (s, newViewControllers) ← loadChildren isURL (List.range s.categories.length) s
  let s := { s with viewControllers := newViewControllers }
  match s.viewControllers with
  | [] => return s
  | first :: _ => return { s with displayed := some first.tag }

/-- `viewDidLoad`: `setupData`, then `setupUI`. -/
def viewDidLoad (setting : SettingManager) : Option HomeViewController :=
  let s : HomeViewController := { setting }
  configHomeChildViewController isURL { s with viewModel := s.viewModel.configData s.categories }

def fetchDataSetting (s : HomeViewController) : Option HomeViewController := do
  let s ← configHomeChildViewController isURL
    { s with viewModel := s.viewModel.configData s.categories }
  return { s with viewModel := s.viewModel.setCurrentPage 0 }

/-- A tap on Save in the settings screen, up to the observers of the notification. -/
def saveSettingSubTabs (s : HomeViewController) (screen : SettingSubTabsViewModel) :
    Option HomeViewController :=
  match screen.saveSettingSubTabs s.setting with
  | (_, setting, true) => fetchDataSetting isURL { s with setting }
  | (_, setting, false) => some { s with setting }

end Requests

/-! ## Pages -/

def scrollToCategory (s : HomeViewController) : Option HomeViewController := do
  let error ← s.viewModel.errors[s.viewModel.currentPage]?
  if error ≠ "" then return s.alert (.categoryError error) else return s

/-- `didSelectItemAt`. -/
def didSelectItemAt (s : HomeViewController) (row : Nat) : Option HomeViewController :=
  if s.viewModel.currentPage ≠ row then do
    let s := { s with viewModel := s.viewModel.setCurrentPage row }
    let child ← s.viewControllers[s.viewModel.currentPage]?
    scrollToCategory { s with displayed := some child.tag }
  else some s

/-- `viewControllerBefore`, for the child with this tag. -/
def viewControllerBefore (s : HomeViewController) (tag : Nat) :
    Option (Option HomeChildViewController) :=
  if tag = 0 then some none else do
    let child ← s.viewControllers[tag - 1]?
    return some child

/-- `viewControllerAfter`, for the child with this tag. -/
def viewControllerAfter (s : HomeViewController) (tag : Nat) :
    Option (Option HomeChildViewController) :=
  if tag + 1 = s.categories.length then some none else do
    let child ← s.viewControllers[tag + 1]?
    return some child

/-- Where a swipe ends: on a neighbour, or back where it began. -/
inductive Swipe
  | before | after | back
  deriving DecidableEq, Repr

/-- The child a swipe brings in: none past either end, or when it goes back. -/
def swipeTarget (s : HomeViewController) (tag : Nat) :
    Swipe → Option (Option HomeChildViewController)
  | .before => s.viewControllerBefore tag
  | .after => s.viewControllerAfter tag
  | .back => some none

/-- A swipe of the page controller up to `didFinishAnimating`. -/
def swipe (s : HomeViewController) (direction : Swipe) : Option HomeViewController :=
  match s.displayed with
  | none => some s
  | some tag => do
    let target ← s.swipeTarget tag direction
    let shown := (target.map (·.tag)).getD tag
    scrollToCategory { s with displayed := some shown, viewModel := s.viewModel.setCurrentPage shown }

/-- Ok on an alert: the handler of `scrollToCategory` empties the current child. -/
def confirm (s : HomeViewController) (a : Alert) : Option HomeViewController :=
  let s := { s with alerts := s.alerts.erase a }
  match a with
  | .notice _ => some s
  | .categoryError _ => do
    let child ← s.viewControllers[s.viewModel.currentPage]?
    s.setChild s.viewModel.currentPage (child.setArticles [])

end HomeViewController

/-! ## Runs -/

/-- What happens to the Home screen from outside. A position is that of a child
in `viewControllers`. -/
inductive HomeEvent
  | saveSettingSubTabs (screen : SettingSubTabsViewModel)
  | refreshHomeChildVC (position : Nat)
  | loadMore (position : Nat)
  | respond (r : Request) (result : APIResult News)
  | didSelectItemAt (row : Nat)
  | swipe (direction : HomeViewController.Swipe)
  | confirm (a : Alert)
  deriving DecidableEq, Repr

namespace HomeViewController

def Allowed (s : HomeViewController) : HomeEvent → Prop
  | .saveSettingSubTabs screen => screen.Permitted
  | .refreshHomeChildVC position => position < s.viewControllers.length
  | .loadMore position => position < s.viewControllers.length
  | .respond r _ => r ∈ s.outstanding
  | .didSelectItemAt row => row < s.categories.length
  | .swipe _ => True
  | .confirm a => a ∈ s.alerts

instance (s : HomeViewController) : (e : HomeEvent) → Decidable (s.Allowed e)
  | .saveSettingSubTabs screen => inferInstanceAs (Decidable screen.Permitted)
  | .refreshHomeChildVC position | .loadMore position =>
    inferInstanceAs (Decidable (position < s.viewControllers.length))
  | .respond r _ => inferInstanceAs (Decidable (r ∈ s.outstanding))
  | .didSelectItemAt row => inferInstanceAs (Decidable (row < s.categories.length))
  | .swipe _ => .isTrue trivial
  | .confirm a => inferInstanceAs (Decidable (a ∈ s.alerts))

/-- Handle one event. A data task that answers is no longer outstanding. -/
def handle (isURL : String → Bool) (s : HomeViewController) : HomeEvent → Option HomeViewController
  | .saveSettingSubTabs screen => s.saveSettingSubTabs isURL screen
  | .refreshHomeChildVC position => s.refreshHomeChildVC isURL position
  | .loadMore position => s.loadMore isURL position
  | .respond r result => respond r result { s with outstanding := s.outstanding.erase r }
  | .didSelectItemAt row => s.didSelectItemAt row
  | .swipe direction => s.swipe direction
  | .confirm a => s.confirm a

/-- The Home screen as a machine: its runs interleave all events in any order,
and end at a trap. -/
def machine (isURL : String → Bool) : Machine HomeViewController HomeEvent where
  allowed := Allowed
  step := handle isURL

instance (isURL : String → Bool) (s : HomeViewController) (e : HomeEvent) :
    Decidable ((machine isURL).allowed s e) :=
  inferInstanceAs (Decidable (s.Allowed e))

/-- The screen as it first appears, whatever categories were stored. -/
def Launched (isURL : String → Bool) (s : HomeViewController) : Prop :=
  ∃ setting, viewDidLoad isURL setting = some s

end HomeViewController

end NewsReader
