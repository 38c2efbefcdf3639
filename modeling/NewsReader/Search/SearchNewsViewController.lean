import NewsReader.Machine
import NewsReader.Search.SearchNewsViewModel

/-!
# The Search screen

`SearchNewsViewController` with its view model, the search `perform(_:with:afterDelay:)`
has scheduled and the data tasks that have not answered. Completions only drive
views that nothing reads back, so they leave no trace in the state.
-/

namespace NewsReader

/-- Which call a data task belongs to. -/
inductive SearchCall
  | searchNews | loadMoreSearchNews
  deriving DecidableEq, Repr

/-- A data task that has not answered. -/
structure SearchTask where
  taskIdentifier : Nat
  call : SearchCall
  query : String
  page : Nat
  deriving DecidableEq, Repr

structure SearchNewsViewController where
  viewModel : SearchNewsViewModel := {}
  searchIsScheduled : Bool := false
  dataTasks : List SearchTask := []
  nextTaskIdentifier : Nat := 0
  deriving DecidableEq, Repr

/-- What happens to the Search screen from outside. `searchNews` is the scheduled
search going off, and `scrollViewDidScroll` a scroll that reaches the end. -/
inductive SearchEvent
  | updateSearchResults (text : Option String)
  | searchNews
  | scrollViewDidScroll
  | searchBarCancelButtonClicked
  | respond (task : SearchTask) (result : APIResult News)
  deriving DecidableEq, Repr

namespace SearchNewsViewController

/-- Keep the data task of a call that is running. -/
def started (s : SearchNewsViewController) (call : SearchCall) :
    SearchNewsViewModel × Call → SearchNewsViewController
  | (viewModel, .completed _ _) => { s with viewModel }
  | (viewModel, .running query page) =>
    { s with
      viewModel
      dataTasks := s.dataTasks ++ [⟨s.nextTaskIdentifier, call, query, page⟩]
      nextTaskIdentifier := s.nextTaskIdentifier + 1 }

section Handlers

variable (isURL : String → Bool) (s : SearchNewsViewController)

def searchNews : SearchNewsViewController :=
  if s.viewModel.isLoading then s
  else s.started .searchNews (s.viewModel.searchNews isURL)

def loadMoreSearchNews : SearchNewsViewController :=
  if s.viewModel.isLoading then s
  else if s.viewModel.canLoadMore then
    s.started .loadMoreSearchNews (s.viewModel.loadMoreSearchNews isURL)
  else s

def searchBarCancelButtonClicked : SearchNewsViewController :=
  { s with viewModel := s.viewModel.cancelSearchNews }

/-- A new text takes the place of the search that was scheduled. -/
def updateSearchResults : Option String → SearchNewsViewController
  | none => s
  | some searchString =>
    let viewModel := { s.viewModel with queryString := searchString }
    { s with
      viewModel
      searchIsScheduled :=
        decide (viewModel.queryString ≠ viewModel.oldQueryString ∧ searchString ≠ "") }

def scrollViewDidScroll : SearchNewsViewController :=
  if s.viewModel.searchItems.isEmpty then s else s.loadMoreSearchNews isURL

/-- What the closure of a data task does to the view model. -/
def answered (task : SearchTask) (result : APIResult News) : SearchNewsViewModel :=
  match task.call with
  | .searchNews => (s.viewModel.searchNewsResponse result).1
  | .loadMoreSearchNews => (s.viewModel.loadMoreSearchNewsResponse result).1

/-- A data task that answers is no longer outstanding. -/
def respond (task : SearchTask) (result : APIResult News) : SearchNewsViewController :=
  { s with viewModel := s.answered task result, dataTasks := s.dataTasks.erase task }

def handle : SearchEvent → SearchNewsViewController
  | .updateSearchResults text => s.updateSearchResults text
  | .searchNews => searchNews isURL { s with searchIsScheduled := false }
  | .scrollViewDidScroll => s.scrollViewDidScroll isURL
  | .searchBarCancelButtonClicked => s.searchBarCancelButtonClicked
  | .respond task result => s.respond task result

end Handlers

def Allowed (s : SearchNewsViewController) : SearchEvent → Prop
  | .searchNews => s.searchIsScheduled = true
  | .respond task _ => task ∈ s.dataTasks
  | _ => True

instance (s : SearchNewsViewController) : (e : SearchEvent) → Decidable (s.Allowed e)
  | .searchNews => inferInstanceAs (Decidable (s.searchIsScheduled = true))
  | .respond task _ => inferInstanceAs (Decidable (task ∈ s.dataTasks))
  | .updateSearchResults _ | .scrollViewDidScroll | .searchBarCancelButtonClicked =>
    .isTrue trivial

/-- The Search screen as a machine. None of its handlers traps. -/
def machine (isURL : String → Bool) : Machine SearchNewsViewController SearchEvent where
  allowed := Allowed
  step s e := some (s.handle isURL e)

instance (isURL : String → Bool) (s : SearchNewsViewController) (e : SearchEvent) :
    Decidable ((machine isURL).allowed s e) :=
  inferInstanceAs (Decidable (s.Allowed e))

/-! ## What a handler does -/

/-- The screen once a call for `page` is running. -/
def awaiting (s : SearchNewsViewController) (call : SearchCall) (page currentPage : Nat) :
    SearchNewsViewController :=
  { s with
    viewModel := { s.viewModel with
      queryString := s.viewModel.query, isLoading := true, currentPage }
    dataTasks := s.dataTasks ++ [⟨s.nextTaskIdentifier, call, s.viewModel.query, page⟩]
    nextTaskIdentifier := s.nextTaskIdentifier + 1 }

/-- The screen after a call that no data task was created for. -/
def unsent (s : SearchNewsViewController) (currentPage : Nat) : SearchNewsViewController :=
  { s with viewModel := { s.viewModel with queryString := s.viewModel.query, currentPage } }

@[simp] theorem awaiting_query (s : SearchNewsViewController) (call : SearchCall)
    (page currentPage : Nat) :
    (s.awaiting call page currentPage).viewModel.query = s.viewModel.query :=
  trimmingCharacters_idem _

@[simp] theorem unsent_query (s : SearchNewsViewController) (currentPage : Nat) :
    (s.unsent currentPage).viewModel.query = s.viewModel.query := trimmingCharacters_idem _

section Fields

variable (s : SearchNewsViewController) (call : SearchCall) (page currentPage : Nat)

@[simp] theorem awaiting_searchItems :
    (s.awaiting call page currentPage).viewModel.searchItems = s.viewModel.searchItems := by
  simp only [awaiting]

@[simp] theorem awaiting_isLoading :
    (s.awaiting call page currentPage).viewModel.isLoading = true := by
  simp only [awaiting]

@[simp] theorem awaiting_currentPage :
    (s.awaiting call page currentPage).viewModel.currentPage = currentPage := by
  simp only [awaiting]

@[simp] theorem awaiting_canLoadMore :
    (s.awaiting call page currentPage).viewModel.canLoadMore = s.viewModel.canLoadMore := by
  simp only [awaiting]

@[simp] theorem awaiting_oldQueryString :
    (s.awaiting call page currentPage).viewModel.oldQueryString = s.viewModel.oldQueryString := by
  simp only [awaiting]

@[simp] theorem unsent_searchItems :
    (s.unsent currentPage).viewModel.searchItems = s.viewModel.searchItems := by
  simp only [unsent]

@[simp] theorem unsent_isLoading :
    (s.unsent currentPage).viewModel.isLoading = s.viewModel.isLoading := by
  simp only [unsent]

@[simp] theorem unsent_currentPage :
    (s.unsent currentPage).viewModel.currentPage = currentPage := by
  simp only [unsent]

@[simp] theorem unsent_canLoadMore :
    (s.unsent currentPage).viewModel.canLoadMore = s.viewModel.canLoadMore := by
  simp only [unsent]

@[simp] theorem unsent_oldQueryString :
    (s.unsent currentPage).viewModel.oldQueryString = s.viewModel.oldQueryString := by
  simp only [unsent]

@[simp] theorem unsent_dataTasks : (s.unsent currentPage).dataTasks = s.dataTasks := by
  simp only [unsent]

end Fields

theorem awaiting_dataTasks {s : SearchNewsViewController} (quiet : s.dataTasks = [])
    (call : SearchCall) (page currentPage : Nat) :
    (s.awaiting call page currentPage).dataTasks =
      [⟨s.nextTaskIdentifier, call, s.viewModel.query, page⟩] := by
  rw [awaiting, quiet, List.nil_append]

section Cases

variable (isURL : String → Bool) (s : SearchNewsViewController)

/-- What has to hold for a scroll to the end to ask for a page. -/
def CanAsk : Prop :=
  s.viewModel.searchItems ≠ [] ∧ s.viewModel.isLoading = false ∧ s.viewModel.canLoadMore = true

instance : Decidable s.CanAsk := by
  unfold CanAsk
  infer_instance

theorem searchNews_cases :
    (s.viewModel.isLoading = true ∧ s.searchNews isURL = s) ∨
    (s.viewModel.isLoading = false ∧
      (SearchNewsViewModel.Reaches isURL → s.viewModel.query = "") ∧
      s.searchNews isURL = s.unsent s.viewModel.currentPage) ∨
    (s.viewModel.isLoading = false ∧ s.viewModel.query ≠ "" ∧
      s.searchNews isURL = s.awaiting .searchNews 1 s.viewModel.currentPage) := by
  cases loading : s.viewModel.isLoading with
  | true => exact Or.inl ⟨rfl, by simp [searchNews, loading]⟩
  | false =>
    have fired : s.searchNews isURL = s.started .searchNews (s.viewModel.searchNews isURL) := by
      simp [searchNews, loading]
    rw [fired]
    obtain ⟨blank, called⟩ | ⟨cut, error, called⟩ | ⟨named, called⟩ :=
      s.viewModel.searchNews_cases isURL
    · exact Or.inr (Or.inl ⟨rfl, fun _ => blank, by simp [called, started, unsent]⟩)
    · exact Or.inr (Or.inl ⟨rfl, fun reaches => absurd reaches cut, by
        simp [called, started, unsent, loading]⟩)
    · exact Or.inr (Or.inr ⟨rfl, named, by simp [called, started, awaiting]⟩)

theorem scrollViewDidScroll_cases :
    (¬ s.CanAsk ∧ s.scrollViewDidScroll isURL = s) ∨
    (s.CanAsk ∧ ∃ page,
      (SearchNewsViewModel.Reaches isURL →
        s.viewModel.query = "" ∧ page = s.viewModel.currentPage) ∧
      s.scrollViewDidScroll isURL = s.unsent page) ∨
    (s.CanAsk ∧ s.viewModel.query ≠ "" ∧ s.scrollViewDidScroll isURL =
      s.awaiting .loadMoreSearchNews (s.viewModel.currentPage + 1)
        (s.viewModel.currentPage + 1)) := by
  by_cases asks : s.CanAsk
  · have ⟨items, loading, more⟩ := asks
    have scrolled : s.scrollViewDidScroll isURL =
        s.started .loadMoreSearchNews (s.viewModel.loadMoreSearchNews isURL) := by
      simp [scrollViewDidScroll, loadMoreSearchNews, items, loading, more]
    rw [scrolled]
    obtain ⟨blank, called⟩ | ⟨cut, error, called⟩ | ⟨named, called⟩ :=
      s.viewModel.loadMoreSearchNews_cases isURL
    · exact Or.inr (Or.inl ⟨asks, s.viewModel.currentPage, fun _ => ⟨blank, rfl⟩, by
        simp [called, started, unsent]⟩)
    · exact Or.inr (Or.inl ⟨asks, s.viewModel.currentPage + 1, fun reaches => absurd reaches cut,
        by simp [called, started, unsent, loading]⟩)
    · exact Or.inr (Or.inr ⟨asks, named, by simp [called, started, awaiting]⟩)
  · refine Or.inl ⟨asks, ?_⟩
    unfold scrollViewDidScroll loadMoreSearchNews
    split
    · rfl
    · rename_i items
      split
      · rfl
      · rename_i loading
        split
        · rename_i more
          exact absurd ⟨by simpa using items, by simpa using loading, more⟩ asks
        · rfl

/-- A search that goes out changes no item. -/
@[simp] theorem searchNews_searchItems :
    (s.searchNews isURL).viewModel.searchItems = s.viewModel.searchItems := by
  obtain ⟨-, fired⟩ | ⟨-, -, fired⟩ | ⟨-, -, fired⟩ := searchNews_cases isURL s <;>
  simp [fired]

@[simp] theorem scrollViewDidScroll_searchItems :
    (s.scrollViewDidScroll isURL).viewModel.searchItems = s.viewModel.searchItems := by
  obtain ⟨-, scrolled⟩ | ⟨-, _, -, scrolled⟩ | ⟨-, -, scrolled⟩ :=
    scrollViewDidScroll_cases isURL s <;>
  simp [scrolled]

variable {isURL s}

/-- A data task that was not there is the search's or the load-more's. -/
theorem mem_handle_dataTasks {e : SearchEvent} {task : SearchTask}
    (mem : task ∈ (s.handle isURL e).dataTasks) :
    task ∈ s.dataTasks ∨
    (e = .searchNews ∧ s.viewModel.query ≠ "" ∧
      task = ⟨s.nextTaskIdentifier, .searchNews, s.viewModel.query, 1⟩) ∨
    (e = .scrollViewDidScroll ∧ s.CanAsk ∧ s.viewModel.query ≠ "" ∧
      task = ⟨s.nextTaskIdentifier, .loadMoreSearchNews, s.viewModel.query,
        s.viewModel.currentPage + 1⟩) := by
  cases e with
  | updateSearchResults text => cases text <;> exact Or.inl mem
  | searchNews =>
    obtain ⟨-, fired⟩ | ⟨-, -, fired⟩ | ⟨-, named, fired⟩ :=
      searchNews_cases isURL { s with searchIsScheduled := false }
    · rw [handle, fired] at mem
      exact Or.inl mem
    · rw [handle, fired] at mem
      exact Or.inl mem
    · rw [handle, fired] at mem
      obtain before | new := List.mem_append.mp mem
      · exact Or.inl before
      · exact Or.inr (Or.inl ⟨rfl, named, List.mem_singleton.mp new⟩)
  | scrollViewDidScroll =>
    obtain ⟨-, scrolled⟩ | ⟨-, _, -, scrolled⟩ | ⟨asks, named, scrolled⟩ :=
      scrollViewDidScroll_cases isURL s
    · rw [handle, scrolled] at mem
      exact Or.inl mem
    · rw [handle, scrolled] at mem
      exact Or.inl mem
    · rw [handle, scrolled] at mem
      obtain before | new := List.mem_append.mp mem
      · exact Or.inl before
      · exact Or.inr (Or.inr ⟨rfl, asks, named, List.mem_singleton.mp new⟩)
  | searchBarCancelButtonClicked => exact Or.inl mem
  | respond answered result => exact Or.inl (List.mem_of_mem_erase mem)

end Cases

end SearchNewsViewController

end NewsReader
