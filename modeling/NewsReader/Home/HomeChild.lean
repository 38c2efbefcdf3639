import NewsReader.News

/-!
# One page of the Home feed

`HomeChildViewController` with the parts of its view that code reads or writes.
-/

namespace NewsReader

structure HomeChildViewModel where
  category : CategoryType := .us
  articles : List News := []
  isLoading : Bool := false
  index : Nat := 0
  deriving DecidableEq, Repr

def HomeChildViewModel.numberOfListNews (vm : HomeChildViewModel) : Nat := vm.articles.length

/-- `isViewLoaded` is `tableView != nil`; `tableRows` is the row count the table
was last given, and `none` before it asks. -/
structure HomeChildViewController where
  viewModel : HomeChildViewModel := {}
  tag : Nat := 0
  isViewLoaded : Bool := false
  tableRows : Option Nat := none
  loadingViewIsHidden : Bool := false
  errorViewIsHidden : Bool := false
  activityIndicatorIsAnimating : Bool := true
  refreshControlIsRefreshing : Bool := false
  deriving DecidableEq, Repr

namespace HomeChildViewController

def configLoadingView (vc : HomeChildViewController) : HomeChildViewController :=
  { vc with errorViewIsHidden := true, activityIndicatorIsAnimating := true }

def reloadData (vc : HomeChildViewController) : HomeChildViewController :=
  { vc with tableRows := some vc.viewModel.numberOfListNews }

def fetchData (vc : HomeChildViewController) : HomeChildViewController :=
  let vc := { vc with activityIndicatorIsAnimating := false }
  let vc :=
    if vc.viewModel.articles.length > 1 then { vc with loadingViewIsHidden := true }.reloadData
    else { vc with errorViewIsHidden := false }
  { vc with refreshControlIsRefreshing := false }

/-- Assigning `viewModel`: its `didSet` fetches once the view is loaded. -/
def setViewModel (vc : HomeChildViewController) (viewModel : HomeChildViewModel) :
    HomeChildViewController :=
  let vc := { vc with viewModel }
  if vc.isViewLoaded then vc.fetchData else vc

/-- `viewModel.articles = articles` followed by `viewModel` assigned to itself,
as the controller's completions do. -/
def setArticles (vc : HomeChildViewController) (articles : List News) : HomeChildViewController :=
  vc.setViewModel { vc.viewModel with articles }

theorem fetchData_frame (vc : HomeChildViewController) :
    vc.fetchData.viewModel = vc.viewModel ∧ vc.fetchData.tag = vc.tag ∧
    vc.fetchData.isViewLoaded = vc.isViewLoaded := by
  unfold fetchData reloadData
  dsimp only
  split <;> exact ⟨rfl, rfl, rfl⟩

@[simp] theorem setViewModel_viewModel (vc : HomeChildViewController) (vm : HomeChildViewModel) :
    (vc.setViewModel vm).viewModel = vm := by
  unfold setViewModel
  dsimp only
  split
  · exact (fetchData_frame _).1
  · rfl

@[simp] theorem setViewModel_tag (vc : HomeChildViewController) (vm : HomeChildViewModel) :
    (vc.setViewModel vm).tag = vc.tag := by
  unfold setViewModel
  dsimp only
  split
  · exact (fetchData_frame _).2.1
  · rfl

@[simp] theorem setViewModel_isViewLoaded (vc : HomeChildViewController)
    (vm : HomeChildViewModel) : (vc.setViewModel vm).isViewLoaded = vc.isViewLoaded := by
  unfold setViewModel
  dsimp only
  split
  · exact (fetchData_frame _).2.2
  · rfl

@[simp] theorem setArticles_viewModel (vc : HomeChildViewController) (articles : List News) :
    (vc.setArticles articles).viewModel = { vc.viewModel with articles } :=
  setViewModel_viewModel _ _

@[simp] theorem setArticles_tag (vc : HomeChildViewController) (articles : List News) :
    (vc.setArticles articles).tag = vc.tag := setViewModel_tag _ _

@[simp] theorem setArticles_isViewLoaded (vc : HomeChildViewController) (articles : List News) :
    (vc.setArticles articles).isViewLoaded = vc.isViewLoaded := setViewModel_isViewLoaded _ _

end HomeChildViewController

end NewsReader
