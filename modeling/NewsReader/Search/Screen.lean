import NewsReader.Bookmarks.Screens
import NewsReader.Cells
import NewsReader.Search.Answers
import NewsReader.UserDefaults

/-!
# What Search shows

The controller of Search with its views: the collection view, which learns its number of
items from `reloadData` and may ask for any item below it afterwards, the placeholder with
its message, the alerts, and the images its cells have asked for.

* `screen_in_step`: a run of the screen is a run of the controller, no subscript of it is out
  of range, and the views show what the view model holds;
* `images_asked_for`: an item without its image has asked for it, and waits or was refused.
-/

namespace NewsReader

structure SearchNewsCellViewModel where
  news : News
  row : Nat
  deriving DecidableEq, Repr

structure SearchNewsCell (Image : Type) where
  viewModel : SearchNewsCellViewModel
  newsTitleLabel : Option String
  nameSourceLabel : String
  newsImageView : CellImage Image

/-- An image that a cell has asked for, and that has not come. -/
structure ImageRequest where
  row : Nat
  urlString : String
  deriving DecidableEq, Repr

/-- The arguments of a completion that has been called. -/
def Call.completion : Call → Option (Bool × String)
  | .completed done message => some (done, message)
  | .running _ _ => none

namespace SearchNewsViewModel

def getNumberOfListNews (vm : SearchNewsViewModel) : Nat := vm.searchItems.length

def isEmmtySearchItems (vm : SearchNewsViewModel) : Bool := vm.searchItems.length == 0

def getSearchNewsCellViewModel (vm : SearchNewsViewModel) (row : Nat) :
    Option SearchNewsCellViewModel := do
  let news ← vm.searchItems[row]?
  return { news, row }

def getNewsDetailViewModel (vm : SearchNewsViewModel) (m : RealmManager) (row : Nat) :
    Option NewsDetailViewModel := do
  let news ← vm.searchItems[row]?
  NewsReader.getNewsDetailViewModel m (.unmanaged news)

def loadImage {Image : Type} (decode : Data → Option Image) (vm : SearchNewsViewModel)
    (storage : Storage) (row : Nat) : Option (ImageLoad Image) := do
  let news ← vm.searchItems[row]?
  return storage.loadImage decode news.urlImage

end SearchNewsViewModel

/-- What an event calls the completion of a search or a load-more with, if it does. -/
def SearchNewsViewController.completion (isURL : String → Bool) (s : SearchNewsViewController) :
    SearchEvent → Option (Bool × String)
  | .searchNews => if s.viewModel.isLoading then none else (s.viewModel.searchNews isURL).2.completion
  | .scrollViewDidScroll =>
    if s.viewModel.searchItems.isEmpty ∨ s.viewModel.isLoading ∨ ¬ s.viewModel.canLoadMore then none
    else (s.viewModel.loadMoreSearchNews isURL).2.completion
  | .respond task result =>
    match task.call with
    | .searchNews => some (s.viewModel.searchNewsResponse result).2
    | .loadMoreSearchNews => some (s.viewModel.loadMoreSearchNewsResponse result).2
  | .updateSearchResults _ | .searchBarCancelButtonClicked => none

/-- `numberOfItems` is what the collection view was last told. A cell is taken to be set up
whenever it comes on screen: cells that are set up ahead, or kept while they are off screen,
are left out. -/
structure SearchScreen (Image : Type) where
  controller : SearchNewsViewController := {}
  numberOfItems : Nat := 0
  cells : Cells (SearchNewsCell Image) := Table.empty _
  placeholdArticlesIsHidden : Bool := false
  messageSearchLabel : String := "Search for Articles above"
  alerts : List String := []
  imageRequests : List ImageRequest := []
  storage : Storage := {}

/-- What happens to the screen from outside. `storage` is what other screens do to the
defaults. -/
inductive SearchScreenEvent
  | controller (e : SearchEvent)
  | cellForItemAt (row : Nat)
  | didEndDisplaying (row : Nat)
  | didSelectItemAt (row : Nat) (m : RealmManager)
  | imageDownloaded (request : ImageRequest) (result : Result (Option Data))
  | storage (e : StorageEvent)

namespace SearchScreen

section Handlers

variable {Image : Type} (isURL : String → Bool) (decode : Data → Option Image)
  (s : SearchScreen Image)

def configMessageSearch : SearchScreen Image :=
  { s with messageSearchLabel := "Search for Articles above" }

/-- The text of `messageSearchLabel` where there is no item. -/
def noResults (queryString : String) : String :=
  let message := "Sorry, no results found for your\nsearch"
  message ++ ": " ++ queryString

/-- `reloadData` asks for the number of items, and then for each cell anew. -/
def reloadData : SearchScreen Image :=
  { s with numberOfItems := s.controller.viewModel.getNumberOfListNews, cells := Table.empty _ }

def reloadSearchNewsViewController : SearchScreen Image :=
  let s :=
    if s.controller.viewModel.isEmmtySearchItems then
      { s with
        placeholdArticlesIsHidden := false
        messageSearchLabel := noResults s.controller.viewModel.queryString }
    else { s with placeholdArticlesIsHidden := true }
  s.reloadData

/-- The completions of `searchNews` and `loadMoreSearchNews` are the same. -/
def complete : Option (Bool × String) → SearchScreen Image
  | some (true, _) => s.reloadSearchNewsViewController
  | some (false, message) => { s with alerts := s.alerts ++ [message] }
  | none => s

def controllerHandles (e : SearchEvent) : SearchScreen Image :=
  let completion := s.controller.completion isURL e
  let s := { s with controller := s.controller.handle isURL e }
  match e with
  | .searchBarCancelButtonClicked => s.reloadSearchNewsViewController.configMessageSearch
  | _ => s.complete completion

/-- The collection view must have the item, and as many items as it was told. -/
def reloadItems (row : Nat) : Option (SearchScreen Image) :=
  if row < s.numberOfItems ∧ s.controller.viewModel.getNumberOfListNews = s.numberOfItems then
    some { s with cells := s.cells.endDisplaying row }
  else none

/-- What `loadImage` of a cell runs when it is done. -/
def loadImageDone (row : Nat) (image : Option Image) : Option (SearchScreen Image) :=
  if row < s.controller.viewModel.searchItems.length then
    match image with
    | some _ => s.reloadItems row
    | none => some s
  else some s

/-- `cell(_:needPerform:)`. A string that is no URL completes at once. -/
def needPerform (row : Nat) : Option (SearchScreen Image) := do
  match ← s.controller.viewModel.loadImage decode s.storage row with
  | .completes image => s.loadImageDone row image
  | .downloadImage urlString =>
    if isURL urlString then
      return { s with imageRequests := s.imageRequests ++ [⟨row, urlString⟩] }
    else s.loadImageDone row none

/-- `SearchNewsCell.updateUI()`, as far as the labels and the image go. -/
def updateUI (vm : SearchNewsCellViewModel) : SearchNewsCell Image where
  viewModel := vm
  newsTitleLabel := vm.news.titleNews
  nameSourceLabel := (vm.news.source.bind (·.name)).getD ""
  newsImageView := s.storage.downloader.updateUI decode (vm.news.urlImage.getD "")

def cellForItemAt (row : Nat) : Option (SearchScreen Image) := do
  let vm ← s.controller.viewModel.getSearchNewsCellViewModel row
  let cell := s.updateUI decode vm
  let s ← match cell.newsImageView with
    | .shows _ => some s
    | .loadImage => s.needPerform isURL decode vm.row
  return { s with cells := s.cells.display row cell }

def didSelectItemAt (row : Nat) (m : RealmManager) : Option (SearchScreen Image) := do
  let _ ← s.controller.viewModel.getNewsDetailViewModel m row
  return s

/-- A download that ends saves what came, and completes with the image it decodes to. -/
def imageDownloaded (request : ImageRequest) (result : Result (Option Data)) :
    Option (SearchScreen Image) := do
  let s := { s with imageRequests := s.imageRequests.erase request }
  let storage ← s.storage.downloadImage isURL request.urlString result
  loadImageDone { s with storage } request.row
    (Downloader.completion isURL decode request.urlString result)

def handle : SearchScreenEvent → Option (SearchScreen Image)
  | .controller e => some (s.controllerHandles isURL e)
  | .cellForItemAt row => s.cellForItemAt isURL decode row
  | .didEndDisplaying row => some { s with cells := s.cells.endDisplaying row }
  | .didSelectItemAt row m => s.didSelectItemAt row m
  | .imageDownloaded request result => s.imageDownloaded isURL decode request result
  | .storage e => do
    let storage ← s.storage.handle isURL e
    return { s with storage }

end Handlers

variable {Image : Type}

/-- The collection view asks below the number of items it was last told. -/
def Allowed (s : SearchScreen Image) : SearchScreenEvent → Prop
  | .controller e => s.controller.Allowed e
  | .cellForItemAt row => row < s.numberOfItems
  | .didSelectItemAt row _ => row < s.numberOfItems
  | .imageDownloaded request _ => request ∈ s.imageRequests
  | .didEndDisplaying _ | .storage _ => True

instance (s : SearchScreen Image) : (e : SearchScreenEvent) → Decidable (s.Allowed e)
  | .controller e => inferInstanceAs (Decidable (s.controller.Allowed e))
  | .cellForItemAt row => inferInstanceAs (Decidable (row < s.numberOfItems))
  | .didSelectItemAt row _ => inferInstanceAs (Decidable (row < s.numberOfItems))
  | .imageDownloaded request _ => inferInstanceAs (Decidable (request ∈ s.imageRequests))
  | .didEndDisplaying _ | .storage _ => .isTrue trivial

def machine (isURL : String → Bool) (decode : Data → Option Image) :
    Machine (SearchScreen Image) SearchScreenEvent where
  allowed := Allowed
  step := handle isURL decode

instance (isURL : String → Bool) (decode : Data → Option Image) (s : SearchScreen Image)
    (e : SearchScreenEvent) : Decidable ((machine isURL decode).allowed s e) :=
  inferInstanceAs (Decidable (s.Allowed e))

/-- The screen as it loads, on defaults that hold no data under a key of its own. -/
def Opened (s : SearchScreen Image) : Prop :=
  ∃ storage : Storage, (∀ key, storage.defaults.data key = none) ∧ s = { storage }

/-! ## What is shown -/

section Shown

variable {isURL : String → Bool} {decode : Data → Option Image} {s t : SearchScreen Image}

/-- The cell is that of the item at its row. -/
structure Shows (items : List News) (row : Nat) (cell : SearchNewsCell Image) : Prop where
  news : items[row]? = some cell.viewModel.news
  row : cell.viewModel.row = row
  newsTitleLabel : cell.newsTitleLabel = cell.viewModel.news.titleNews
  nameSourceLabel : cell.nameSourceLabel = (cell.viewModel.news.source.bind (·.name)).getD ""

/-- The views show what the view model holds. -/
structure InStep (s : SearchScreen Image) : Prop where
  counted : s.numberOfItems = s.controller.viewModel.searchItems.length
  cells : s.cells.All (Shows s.controller.viewModel.searchItems)
  placeholder : s.placeholdArticlesIsHidden = true ↔ s.controller.viewModel.searchItems ≠ []

theorem reload_inStep (s : SearchScreen Image) : s.reloadSearchNewsViewController.InStep := by
  unfold reloadSearchNewsViewController
  by_cases empty : s.controller.viewModel.searchItems = []
  · have shown : s.controller.viewModel.isEmmtySearchItems = true := by
      simp [SearchNewsViewModel.isEmmtySearchItems, empty]
    rw [if_pos shown]
    exact ⟨rfl, Cells.all_empty, by simp [reloadData, empty]⟩
  · have hidden : ¬ s.controller.viewModel.isEmmtySearchItems = true := by
      simpa [SearchNewsViewModel.isEmmtySearchItems] using empty
    rw [if_neg hidden]
    exact ⟨rfl, Cells.all_empty, by simp [reloadData, empty]⟩

@[simp] theorem reload_storage (s : SearchScreen Image) :
    s.reloadSearchNewsViewController.storage = s.storage := by
  unfold reloadSearchNewsViewController
  split <;> rfl

@[simp] theorem reload_controller (s : SearchScreen Image) :
    s.reloadSearchNewsViewController.controller = s.controller := by
  unfold reloadSearchNewsViewController
  split <;> rfl

@[simp] theorem reload_cells (s : SearchScreen Image) :
    s.reloadSearchNewsViewController.cells = Table.empty _ := by
  unfold reloadSearchNewsViewController
  split <;> rfl

/-- A completion succeeds with a search that is answered, or with more articles. -/
theorem completion_done {controller : SearchNewsViewController} {e : SearchEvent}
    {message : String} (done : controller.completion isURL e = some (true, message)) :
    ∃ task response, e = .respond task (.success response) ∧
      (task.call = .searchNews ∨ response.articles ≠ []) := by
  cases e with
  | updateSearchResults | searchBarCancelButtonClicked => cases done
  | searchNews =>
    simp only [SearchNewsViewController.completion] at done
    split at done
    · cases done
    · obtain ⟨-, called⟩ | ⟨-, error, called⟩ | ⟨-, called⟩ :=
        controller.viewModel.searchNews_cases isURL <;>
      simp [called, Call.completion] at done
  | scrollViewDidScroll =>
    simp only [SearchNewsViewController.completion] at done
    split at done
    · cases done
    · obtain ⟨-, called⟩ | ⟨-, error, called⟩ | ⟨-, called⟩ :=
        controller.viewModel.loadMoreSearchNews_cases isURL <;>
      simp [called, Call.completion] at done
  | respond task result =>
    cases result with
    | failure error =>
      cases call : task.call <;>
      simp [SearchNewsViewController.completion, call, SearchNewsViewModel.searchNewsResponse,
        SearchNewsViewModel.loadMoreSearchNewsResponse] at done
    | success response =>
      refine ⟨task, response, rfl, ?_⟩
      cases call : task.call with
      | searchNews => exact Or.inl rfl
      | loadMoreSearchNews =>
        refine Or.inr fun empty => ?_
        simp [SearchNewsViewController.completion, call,
          SearchNewsViewModel.loadMoreSearchNewsResponse, empty] at done

/-- A response that reloads the views. -/
def Reloads : SearchEvent → Prop
  | .respond task (.success response) => task.call = .searchNews ∨ response.articles ≠ []
  | _ => False

/-- The items change only where the views are reloaded. -/
theorem items_of_not_reloads {controller : SearchNewsViewController} {e : SearchEvent}
    (other : e ≠ .searchBarCancelButtonClicked) (quiet : ¬ Reloads e) :
    (controller.handle isURL e).viewModel.searchItems = controller.viewModel.searchItems := by
  cases e with
  | updateSearchResults text => cases text <;> rfl
  | searchNews => exact SearchNewsViewController.searchNews_searchItems isURL _
  | scrollViewDidScroll => exact SearchNewsViewController.scrollViewDidScroll_searchItems isURL _
  | searchBarCancelButtonClicked => exact absurd rfl other
  | respond task result =>
    cases result with
    | failure error =>
      simp [SearchNewsViewController.handle, SearchNewsViewController.respond,
        SearchNewsViewController.answered_failure]
    | success response =>
      cases call : task.call with
      | searchNews => exact absurd (Or.inl call) quiet
      | loadMoreSearchNews =>
        have empty : response.articles = [] := by
          by_contra some
          exact quiet (Or.inr some)
        simp [SearchNewsViewController.handle, SearchNewsViewController.respond,
          SearchNewsViewController.answered_more _ call, empty]

/-- **What an event of the controller is to the views**: Cancel and what is found reload them,
and anything else leaves the items. -/
theorem controllerHandles_cases (isURL : String → Bool) (s : SearchScreen Image)
    (e : SearchEvent) :
    (e = .searchBarCancelButtonClicked ∧ s.controllerHandles isURL e =
      (reloadSearchNewsViewController
        { s with controller := s.controller.handle isURL e }).configMessageSearch) ∨
    (Reloads e ∧ s.controllerHandles isURL e =
      reloadSearchNewsViewController { s with controller := s.controller.handle isURL e }) ∨
    (e ≠ .searchBarCancelButtonClicked ∧ ¬ Reloads e ∧
      ∃ alerts, s.controllerHandles isURL e =
        { s with controller := s.controller.handle isURL e, alerts }) := by
  by_cases cancel : e = .searchBarCancelButtonClicked
  · subst cancel
    exact Or.inl ⟨rfl, rfl⟩
  · have completes : s.controllerHandles isURL e =
        complete { s with controller := s.controller.handle isURL e }
          (s.controller.completion isURL e) := by
      cases e with
      | searchBarCancelButtonClicked => exact absurd rfl cancel
      | updateSearchResults | searchNews | scrollViewDidScroll | respond => rfl
    rw [completes]
    by_cases reloads : Reloads e
    · refine Or.inr (Or.inl ⟨reloads, ?_⟩)
      cases e with
      | respond task result =>
        cases result with
        | failure error => exact absurd reloads id
        | success response =>
          cases call : task.call with
          | searchNews =>
            simp [SearchNewsViewController.completion, call,
              SearchNewsViewModel.searchNewsResponse, complete]
          | loadMoreSearchNews =>
            have some : response.articles ≠ [] := by
              obtain search | some := reloads
              · cases call.symm.trans search
              · exact some
            simp [SearchNewsViewController.completion, call,
              SearchNewsViewModel.loadMoreSearchNewsResponse, List.length_pos_iff.mpr some, complete]
      | _ => exact absurd reloads id
    · refine Or.inr (Or.inr ⟨cancel, reloads, ?_⟩)
      cases called : s.controller.completion isURL e with
      | none => exact ⟨_, rfl⟩
      | some arguments =>
        obtain ⟨_ | _, message⟩ := arguments
        · exact ⟨_, rfl⟩
        · obtain ⟨task, response, rfl, done⟩ := completion_done called
          exact absurd done reloads

/-- The views are reloaded, or keep to the same items. -/
theorem reloaded_or_kept (isURL : String → Bool) (s : SearchScreen Image) (e : SearchEvent) :
    (∃ message, s.controllerHandles isURL e =
      { reloadSearchNewsViewController { s with controller := s.controller.handle isURL e } with
        messageSearchLabel := message }) ∨
    ((s.controller.handle isURL e).viewModel.searchItems = s.controller.viewModel.searchItems ∧
      ∃ alerts, s.controllerHandles isURL e =
        { s with controller := s.controller.handle isURL e, alerts }) := by
  obtain ⟨-, cleared⟩ | ⟨-, reloaded⟩ | ⟨other, quiet, kept⟩ := controllerHandles_cases isURL s e
  · exact Or.inl ⟨_, cleared⟩
  · exact Or.inl ⟨_, reloaded⟩
  · exact Or.inr ⟨items_of_not_reloads other quiet, kept⟩

theorem InStep.controllerHandles (h : s.InStep) (e : SearchEvent) :
    (s.controllerHandles isURL e).InStep := by
  obtain ⟨message, reloaded⟩ | ⟨items, alerts, kept⟩ := reloaded_or_kept isURL s e
  · rw [reloaded]
    obtain ⟨counted, cells, placeholder⟩ :=
      reload_inStep { s with controller := s.controller.handle isURL e }
    exact ⟨counted, cells, placeholder⟩
  · rw [kept]
    refine ⟨?_, ?_, ?_⟩
    · rw [items]
      exact h.counted
    · rw [items]
      exact h.cells
    · rw [items]
      exact h.placeholder

/-! ### Images -/

/-- An image that comes for an item reloads its cell. -/
theorem loadImageDone_eq (h : s.InStep) (row : Nat) (image : Option Image) :
    s.loadImageDone row image =
      some (if row < s.controller.viewModel.searchItems.length ∧ image.isSome = true then
        { s with cells := s.cells.endDisplaying row } else s) := by
  unfold loadImageDone reloadItems
  split
  · rename_i bound
    cases image with
    | none => simp
    | some image => simp [bound, h.counted, SearchNewsViewModel.getNumberOfListNews]
  · rename_i beyond
    simp [beyond]

/-- The url a cell asks for its image. -/
def urlImage (news : News) : String := news.urlImage.getD ""

theorem needPerform_eq (h : s.InStep) (empty : ∀ key, s.storage.defaults.data key = none)
    {row : Nat} {news : News} (found : s.controller.viewModel.searchItems[row]? = some news) :
    s.needPerform isURL decode row =
      some { s with
        imageRequests := if isURL (urlImage news) then s.imageRequests ++ [⟨row, urlImage news⟩]
          else s.imageRequests } := by
  have load : s.controller.viewModel.loadImage decode s.storage row =
      some (.downloadImage (urlImage news)) := by
    simp [SearchNewsViewModel.loadImage, found, Storage.loadImage, empty, urlImage]
  simp only [needPerform, load, Option.bind_eq_bind, Option.bind_some, loadImageDone_eq h]
  split <;> simp

/-- What is asked for by a cell of `news` at `row`, as it is set up. -/
def asking (isURL : String → Bool) (decode : Data → Option Image) (s : SearchScreen Image)
    (row : Nat) (news : News) : List ImageRequest :=
  match s.storage.downloader.updateUI decode (urlImage news) with
  | .shows _ => s.imageRequests
  | .loadImage => if isURL (urlImage news) then s.imageRequests ++ [⟨row, urlImage news⟩]
    else s.imageRequests

theorem cellForItemAt_eq (h : s.InStep) (empty : ∀ key, s.storage.defaults.data key = none)
    {row : Nat} {news : News} (found : s.controller.viewModel.searchItems[row]? = some news) :
    s.cellForItemAt isURL decode row = some { s with
      imageRequests := s.asking isURL decode row news
      cells := s.cells.display row (s.updateUI decode ⟨news, row⟩) } := by
  simp only [cellForItemAt, SearchNewsViewModel.getSearchNewsCellViewModel, found,
    Option.bind_eq_bind, Option.bind_some, Option.pure_def]
  simp only [asking, updateUI, urlImage]
  cases s.storage.downloader.updateUI decode (news.urlImage.getD "") with
  | shows image => rfl
  | loadImage =>
    simp only [needPerform_eq h empty found, Option.bind_some]
    rfl

/-! ## Events -/

/-- What an event does to the screen, in step and on defaults without data. -/
inductive Stepped (isURL : String → Bool) (decode : Data → Option Image) (s : SearchScreen Image) :
    SearchScreenEvent → SearchScreen Image → Prop
  | controller (e : SearchEvent) :
      Stepped isURL decode s (.controller e) (s.controllerHandles isURL e)
  | displayed {row : Nat} {news : News}
      (found : s.controller.viewModel.searchItems[row]? = some news) :
      Stepped isURL decode s (.cellForItemAt row) { s with
        imageRequests := s.asking isURL decode row news
        cells := s.cells.display row (s.updateUI decode ⟨news, row⟩) }
  | ended (row : Nat) :
      Stepped isURL decode s (.didEndDisplaying row)
        { s with cells := s.cells.endDisplaying row }
  | selected (row : Nat) (m : RealmManager) : Stepped isURL decode s (.didSelectItemAt row m) s
  | came {request : ImageRequest} {result : Result (Option Data)} {storage : Storage}
      (saved : s.storage.handle isURL (.image (.downloadImage request.urlString result)) =
        some storage) :
      Stepped isURL decode s (.imageDownloaded request result) { s with
        storage
        imageRequests := s.imageRequests.erase request
        cells :=
          if request.row < s.controller.viewModel.searchItems.length ∧
              (Downloader.completion isURL decode request.urlString result).isSome = true then
            s.cells.endDisplaying request.row
          else s.cells }
  | stored {e : StorageEvent} {storage : Storage}
      (handled : s.storage.handle isURL e = some storage) :
      Stepped isURL decode s (.storage e) { s with storage }

/-- **No event traps**, and what it does. -/
theorem handle_stepped (h : s.InStep) (empty : ∀ key, s.storage.defaults.data key = none)
    {e : SearchScreenEvent} (allowed : s.Allowed e) :
    ∃ t, s.handle isURL decode e = some t ∧ Stepped isURL decode s e t := by
  have item {row : Nat} (asked : row < s.numberOfItems) :
      ∃ news, s.controller.viewModel.searchItems[row]? = some news :=
    ⟨_, List.getElem?_eq_getElem (h.counted ▸ asked)⟩
  cases e with
  | controller e => exact ⟨_, rfl, .controller e⟩
  | cellForItemAt row =>
    obtain ⟨news, found⟩ := item allowed
    exact ⟨_, cellForItemAt_eq h empty found, .displayed found⟩
  | didEndDisplaying row => exact ⟨_, rfl, .ended row⟩
  | didSelectItemAt row m =>
    obtain ⟨news, found⟩ := item allowed
    refine ⟨s, ?_, .selected row m⟩
    simp [handle, didSelectItemAt, SearchNewsViewModel.getNewsDetailViewModel, found,
      getNewsDetailViewModel, NewsObject.urlNews]
  | imageDownloaded request result =>
    obtain ⟨storage, saved⟩ := Option.isSome_iff_exists.mp
      (s.storage.handle_isSome isURL (.image (.downloadImage request.urlString result)))
    have downloaded : s.storage.downloadImage isURL request.urlString result = some storage := saved
    have still : InStep { s with imageRequests := s.imageRequests.erase request, storage } :=
      ⟨h.counted, h.cells, h.placeholder⟩
    refine ⟨_, ?_, .came saved⟩
    simp only [handle, imageDownloaded, downloaded, Option.bind_eq_bind, Option.bind_some,
      loadImageDone_eq still]
    split <;> rfl
  | storage e =>
    obtain ⟨storage, handled⟩ := Option.isSome_iff_exists.mp (s.storage.handle_isSome isURL e)
    exact ⟨_, by rw [handle, handled]; rfl, .stored handled⟩

theorem Stepped.inStep {e : SearchScreenEvent} (h : s.InStep)
    (stepped : Stepped isURL decode s e t) : t.InStep := by
  have gone (row : Nat) : (s.cells.endDisplaying row).All
      (Shows s.controller.viewModel.searchItems) :=
    h.cells.endDisplaying fun _ _ _ shows => shows
  cases stepped with
  | controller e => exact h.controllerHandles e
  | displayed found =>
    have new : Shows s.controller.viewModel.searchItems _ (s.updateUI decode ⟨_, _⟩) :=
      ⟨found, rfl, rfl, rfl⟩
    exact ⟨h.counted, h.cells.display new fun _ _ _ shows => shows, h.placeholder⟩
  | ended row => exact ⟨h.counted, gone row, h.placeholder⟩
  | selected => exact h
  | came saved =>
    refine ⟨h.counted, ?_, h.placeholder⟩
    dsimp only
    split
    · exact gone _
    · exact h.cells
  | stored handled => exact ⟨h.counted, h.cells, h.placeholder⟩

theorem Stepped.empty {e : SearchScreenEvent} (stepped : Stepped isURL decode s e t)
    (empty : ∀ key, s.storage.defaults.data key = none) :
    ∀ key, t.storage.defaults.data key = none := by
  cases stepped with
  | controller e =>
    obtain ⟨message, reloaded⟩ | ⟨-, alerts, kept⟩ := reloaded_or_kept isURL s e
    · rw [reloaded, reload_storage]
      exact empty
    · rw [kept]
      exact empty
  | displayed | ended | selected => exact empty
  | came saved => exact Storage.data_handle saved empty
  | stored handled => exact Storage.data_handle handled empty

theorem Stepped.controller_eq {e : SearchScreenEvent} (stepped : Stepped isURL decode s e t) :
    t.controller = s.controller ∨
      ∃ e', e = .controller e' ∧ t.controller = s.controller.handle isURL e' := by
  cases stepped with
  | controller e =>
    refine Or.inr ⟨e, rfl, ?_⟩
    obtain ⟨message, reloaded⟩ | ⟨-, alerts, kept⟩ := reloaded_or_kept isURL s e
    · rw [reloaded, reload_controller]
    · rw [kept]
  | displayed | ended | selected | came | stored => exact Or.inl rfl

theorem reachable_inStep (h : (machine isURL decode).Reachable Opened s) :
    s.InStep ∧ ∀ key, s.storage.defaults.data key = none := by
  apply h.invariant (fun s => s.InStep ∧ ∀ key, s.storage.defaults.data key = none)
  · rintro s ⟨storage, empty, rfl⟩
    exact ⟨⟨rfl, Cells.all_empty, by simp⟩, empty⟩
  · rintro s e t - ⟨inStep, empty⟩ allowed handled
    obtain ⟨t', same, stepped⟩ :
        ∃ t', s.handle isURL decode e = some t' ∧ Stepped isURL decode s e t' :=
      handle_stepped inStep empty allowed
    obtain rfl : t' = t := Option.mem_unique same handled
    exact ⟨stepped.inStep inStep, stepped.empty empty⟩

/-- One event of a reachable screen. -/
theorem reachable_stepped (h : (machine isURL decode).Reachable Opened s) {e : SearchScreenEvent}
    (allowed : s.Allowed e) :
    ∃ t, s.handle isURL decode e = some t ∧ Stepped isURL decode s e t := by
  obtain ⟨inStep, empty⟩ := reachable_inStep h
  exact handle_stepped inStep empty allowed

/-- **The screen keeps in step with its view model**: it runs the controller as the
controller runs by itself, shows each item at its row and the placeholder where there is
none, and no event of it traps. -/
theorem screen_in_step (h : (machine isURL decode).Reachable Opened s) :
    (SearchNewsViewController.machine isURL).Reachable (· = {}) s.controller ∧
    s.InStep ∧ ∀ e, s.Allowed e → (s.handle isURL decode e).isSome = true := by
  refine ⟨?_, (reachable_inStep h).1, ?_⟩
  · apply h.component (fun s => some s.controller) _ _ rfl
    · rintro s controller ⟨storage, -, rfl⟩ ⟨⟩
      rfl
    · rintro s e t controller reached allowed handled ⟨⟩
      obtain ⟨t', same, stepped⟩ := reachable_stepped reached allowed
      obtain rfl : t' = t := Option.mem_unique same handled
      obtain kept | ⟨e', rfl, moved⟩ := stepped.controller_eq
      · exact Or.inr ⟨_, rfl, Or.inl kept⟩
      · exact Or.inr ⟨_, rfl, Or.inr ⟨e', allowed, congrArg some moved.symm⟩⟩
  · intro e allowed
    obtain ⟨t, handled, -⟩ := reachable_stepped h allowed
    exact Option.isSome_of_eq_some handled

/-- An article is searched for and found, and its cell displayed. -/
def marsFound : List SearchScreenEvent :=
  [.controller (.updateSearchResults (some "mars")), .controller .searchNews,
    .controller (.respond ⟨0, .searchNews, "mars", 1⟩ (.success ⟨"ok",
      [{ Bookmarks.searchArticle with urlImage := some "https://a.example/mars.png" }]⟩)),
    .cellForItemAt 0]

theorem opened_empty : Opened ({} : SearchScreen Data) := ⟨{}, fun _ => rfl, rfl⟩

theorem screen_in_step_mars : ∃ s : SearchScreen Data, s.cells.rows.length = 1 ∧
    s.numberOfItems = 1 ∧ s.placeholdArticlesIsHidden = true ∧ s.InStep := by
  have reached : (machine anyURL some).Reachable Opened
      (((machine anyURL some).run {} marsFound).getD {}) :=
    Machine.reachable_getD _ opened_empty (by decide)
  exact ⟨_, by decide, by decide, by decide, (screen_in_step reached).2.1⟩

/-! ## Images that are waited for -/

/-- The requests that have ended without an image. -/
def refused (isURL : String → Bool) (decode : Data → Option Image) (_ : SearchScreen Image) :
    SearchScreenEvent → List ImageRequest → List ImageRequest
  | .imageDownloaded request result, refused =>
    match Downloader.completion isURL decode request.urlString result with
    | some _ => refused
    | none => refused ++ [request]
  | _, refused => refused

/-- A cell without its image has asked for it. -/
def AskedFor (isURL : String → Bool) (s : SearchScreen Image) (refused : List ImageRequest)
    (row : Nat) (cell : SearchNewsCell Image) : Prop :=
  cell.newsImageView = .loadImage → isURL (urlImage cell.viewModel.news) = true →
    ⟨row, urlImage cell.viewModel.news⟩ ∈ s.imageRequests ∨
    ⟨row, urlImage cell.viewModel.news⟩ ∈ refused

theorem Stepped.askedFor {e : SearchScreenEvent} {requests : List ImageRequest} (h : s.InStep)
    (stepped : Stepped isURL decode s e t) (before : s.cells.All (s.AskedFor isURL requests)) :
    t.cells.All (t.AskedFor isURL (refused isURL decode s e requests)) := by
  cases stepped with
  | controller e =>
    obtain ⟨message, reloaded⟩ | ⟨-, alerts, kept⟩ := reloaded_or_kept isURL s e
    · rw [reloaded]
      dsimp only
      rw [reload_cells]
      exact Cells.all_empty
    · rw [kept]
      exact before
  | @displayed row news found =>
    refine before.display ?_ ?_
    · intro default url
      refine Or.inl ?_
      have lookup : s.storage.downloader.updateUI decode (urlImage news) = .loadImage := default
      have asks : isURL (urlImage news) = true := url
      simp only [asking, lookup, asks, ↓reduceIte]
      exact List.mem_append_right _ (List.mem_singleton_self _)
    · intro row' cell' other asked default url
      obtain waits | ended := asked default url
      · refine Or.inl ?_
        simp only [asking]
        split
        · exact waits
        · split
          · exact List.mem_append_left _ waits
          · exact waits
      · exact Or.inr ended
  | ended row => exact before.endDisplaying fun _ _ _ asked => asked
  | selected => exact before
  | @came request result storage saved =>
    -- a cell at another row than the request's has asked for another image
    have apart {row : Nat} {cell : SearchNewsCell Image} (other : row ≠ request.row)
        (asked : s.AskedFor isURL requests row cell) (default : cell.newsImageView = .loadImage)
        (url : isURL (urlImage cell.viewModel.news) = true) :
        ⟨row, urlImage cell.viewModel.news⟩ ∈ s.imageRequests.erase request ∨
        ⟨row, urlImage cell.viewModel.news⟩ ∈ requests := by
      obtain waits | ended := asked default url
      · refine Or.inl ((List.mem_erase_of_ne ?_).mpr waits)
        exact fun same => other (congrArg ImageRequest.row same)
      · exact Or.inr ended
    cases ended : Downloader.completion isURL decode request.urlString result with
    | some image =>
      have same : refused isURL decode s (.imageDownloaded request result) requests = requests := by
        simp only [refused, ended]
      rw [same]
      by_cases bound : request.row < s.controller.viewModel.searchItems.length
      · simp only [bound, Option.isSome_some, and_self, ↓reduceIte]
        exact before.endDisplaying fun row cell other asked => apart other asked
      · simp only [bound, false_and, ↓reduceIte]
        intro shown mem
        have item := (List.getElem?_eq_some_iff.mp (h.cells shown mem).news).1
        exact apart (by omega) (before shown mem)
    | none =>
      have more : refused isURL decode s (.imageDownloaded request result) requests =
          requests ++ [request] := by
        simp only [refused, ended]
      rw [more]
      simp only [Option.isSome_none, Bool.false_eq_true, and_false, ↓reduceIte]
      intro shown mem default url
      by_cases own : ⟨shown.row, urlImage shown.cell.viewModel.news⟩ = request
      · exact Or.inr (List.mem_append_right _ (List.mem_singleton.mpr own))
      · obtain waits | ended := before shown mem default url
        · exact Or.inl ((List.mem_erase_of_ne own).mpr waits)
        · exact Or.inr (List.mem_append_left _ ended)
  | stored handled => exact before

/-- **No image is given up**: an item on screen that shows the default image has asked for
its own, if that has a URL at all, and the download is out or has ended without an image. -/
theorem images_asked_for {requests : List ImageRequest}
    (h : ((machine isURL decode).observed (refused isURL decode)).Reachable
      (fun p => Opened p.1 ∧ p.2 = []) (s, requests)) :
    s.cells.All (s.AskedFor isURL requests) := by
  apply h.invariant (fun p => p.1.cells.All (p.1.AskedFor isURL p.2))
  · rintro ⟨s, requests⟩ ⟨⟨storage, -, rfl⟩, -⟩
    exact Cells.all_empty
  · rintro ⟨s, requests⟩ e ⟨t, requests'⟩ reached before allowed stepped
    obtain ⟨handled, rfl⟩ := Machine.observed_step.mp stepped
    have here : (machine isURL decode).Reachable Opened s :=
      (reached.mono fun p opened => opened.1).of_observed
    obtain ⟨t', same, moved⟩ := reachable_stepped here allowed
    obtain rfl : t' = t := Option.mem_unique same handled
    exact moved.askedFor (reachable_inStep here).1 before

/-- The image of the article does not come. -/
theorem images_asked_for_mars : ∃ s : SearchScreen Data, s.cells.rows.length = 1 ∧
    s.cells.All (s.AskedFor anyURL [⟨0, "https://a.example/mars.png"⟩]) := by
  have reached : ((machine anyURL some).observed (refused anyURL some)).Reachable
      (fun p => Opened p.1 ∧ p.2 = [])
      ((((machine anyURL some).observed (refused anyURL some)).run ({}, [])
        (marsFound ++ [.imageDownloaded ⟨0, "https://a.example/mars.png"⟩
          (.failure .errorNetwork)])).getD ({}, [])) :=
    Machine.reachable_getD _ ⟨opened_empty, rfl⟩ (by decide)
  exact ⟨_, by decide, images_asked_for reached⟩

end Shown

end SearchScreen

end NewsReader
