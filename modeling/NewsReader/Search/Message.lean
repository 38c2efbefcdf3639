import NewsReader.Search.Screen

/-!
# The message of Search

Where nothing is found, the message names the text of the search bar. That is the query
that was asked for as long as nothing is typed while a task is outstanding
(`message_names_query`).
-/

namespace NewsReader

namespace SearchNewsViewController

/-- Every task outstanding asks for what is typed. -/
def AsksTyped (s : SearchNewsViewController) : Prop :=
  ∀ task ∈ s.dataTasks, s.viewModel.queryString = task.query ∧ s.viewModel.query = task.query

/-- Nothing is typed while a task is outstanding. -/
def TypesIdle (s : SearchNewsViewController) : SearchEvent → Prop
  | .updateSearchResults (some _) => s.dataTasks = []
  | _ => True

instance (s : SearchNewsViewController) : (e : SearchEvent) → Decidable (s.TypesIdle e)
  | .updateSearchResults (some _) => inferInstanceAs (Decidable (s.dataTasks = []))
  | .updateSearchResults none | .searchNews | .scrollViewDidScroll
  | .searchBarCancelButtonClicked | .respond .. => .isTrue trivial

variable {isURL : String → Bool} {s : SearchNewsViewController} {e : SearchEvent}

/-- Trimming what is typed keeps what it asks for. -/
theorem AsksTyped.unsent (h : s.AsksTyped) (page : Nat) : (s.unsent page).AsksTyped := by
  intro task mem
  have asked := (h task mem).2
  exact ⟨asked, (unsent_query s page).trans asked⟩

theorem AsksTyped.awaiting (h : s.AsksTyped) (call : SearchCall) (page currentPage : Nat) :
    (s.awaiting call page currentPage).AsksTyped := by
  intro task mem
  have asked : s.viewModel.query = task.query := by
    obtain before | new := List.mem_append.mp mem
    · exact (h task before).2
    · rw [List.mem_singleton.mp new]
  exact ⟨asked, (awaiting_query s call page currentPage).trans asked⟩

theorem AsksTyped.step (h : s.AsksTyped) (idle : s.TypesIdle e) :
    (s.handle isURL e).AsksTyped := by
  cases e with
  | updateSearchResults text =>
    cases text with
    | none => exact h
    | some text =>
      intro task mem
      have none : s.dataTasks = [] := idle
      rw [show (s.handle isURL (.updateSearchResults (some text))).dataTasks = s.dataTasks from rfl,
        none] at mem
      cases mem
  | searchNews =>
    have before : AsksTyped { s with searchIsScheduled := false } := h
    obtain ⟨-, fired⟩ | ⟨-, -, fired⟩ | ⟨-, -, fired⟩ :=
      searchNews_cases isURL { s with searchIsScheduled := false }
    · rw [handle, fired]
      exact before
    · rw [handle, fired]
      exact before.unsent _
    · rw [handle, fired]
      exact before.awaiting _ _ _
  | scrollViewDidScroll =>
    obtain ⟨-, scrolled⟩ | ⟨-, page, -, scrolled⟩ | ⟨-, -, scrolled⟩ :=
      scrollViewDidScroll_cases isURL s
    · rw [handle, scrolled]
      exact h
    · rw [handle, scrolled]
      exact h.unsent page
    · rw [handle, scrolled]
      exact h.awaiting _ _ _
  | searchBarCancelButtonClicked => exact h
  | respond task result =>
    intro other mem
    have asked := h other (List.mem_of_mem_erase mem)
    have kept : (s.handle isURL (.respond task result)).viewModel.queryString =
        s.viewModel.queryString := answered_queryString s result
    exact ⟨kept.trans asked.1, (congrArg trimmingCharacters kept).trans asked.2⟩

end SearchNewsViewController

namespace SearchScreen

variable {Image : Type} {isURL : String → Bool} {decode : Data → Option Image}
  {s t : SearchScreen Image} {last : Option SearchTask}

/-- The search that what is shown came from. There is none before the first and after Cancel. -/
def lastSearch (_ : SearchScreen Image) :
    SearchScreenEvent → Option SearchTask → Option SearchTask
  | .controller (.respond task (.success _)), last =>
    if task.call = .searchNews then some task else last
  | .controller .searchBarCancelButtonClicked, _ => none
  | _, last => last

/-- What is to be said where no item is shown. -/
def message : Option SearchTask → String
  | none => "Search for Articles above"
  | some task => noResults task.query

/-- Nothing is typed on the screen while a task is outstanding. -/
def TypesIdle (s : SearchScreen Image) : SearchScreenEvent → Prop
  | .controller e => s.controller.TypesIdle e
  | _ => True

instance (s : SearchScreen Image) : (e : SearchScreenEvent) → Decidable (s.TypesIdle e)
  | .controller e => inferInstanceAs (Decidable (s.controller.TypesIdle e))
  | .cellForItemAt _ | .didEndDisplaying _ | .didSelectItemAt .. | .imageDownloaded ..
  | .storage _ => .isTrue trivial

/-- A reload says what is typed where it finds no item. -/
theorem reload_message (empty : s.controller.viewModel.searchItems = []) :
    s.reloadSearchNewsViewController.messageSearchLabel =
      noResults s.controller.viewModel.queryString := by
  have shown : s.controller.viewModel.isEmmtySearchItems = true := by
    simp [SearchNewsViewModel.isEmmtySearchItems, empty]
  rw [reloadSearchNewsViewController, if_pos shown]
  rfl

/-- A search that finds nothing is said to be for what is typed. -/
theorem message_of_search {task : SearchTask} (search : task.call = .searchNews)
    {response : Response News} (empty : response.articles = []) :
    (s.controllerHandles isURL (.respond task (.success response))).messageSearchLabel =
      noResults s.controller.viewModel.queryString := by
  obtain ⟨other, -⟩ | ⟨-, reloaded⟩ | ⟨-, quiet, -⟩ :=
    controllerHandles_cases isURL s (.respond task (.success response))
  · cases other
  · rw [reloaded, reload_message]
    · simp [SearchNewsViewController.handle, SearchNewsViewController.respond]
    · simp [SearchNewsViewController.handle, SearchNewsViewController.respond,
        SearchNewsViewController.answered_search _ search, empty]
  · exact absurd (Or.inl search) quiet

theorem noResults_inj {query query' : String} :
    noResults query = noResults query' ↔ query = query' :=
  ⟨(String.append_right_inj _).mp, congrArg noResults⟩

/-- Where no item is shown, the message is that of the last search. -/
structure Tells (s : SearchScreen Image) (last : Option SearchTask) : Prop where
  asks : s.controller.AsksTyped
  message : s.placeholdArticlesIsHidden = false → s.messageSearchLabel = message last

/-- What does not reload the views is no search that is answered, and no Cancel. -/
theorem lastSearch_of_quiet {e : SearchEvent} (other : e ≠ .searchBarCancelButtonClicked)
    (quiet : ¬ Reloads e) : s.lastSearch (.controller e) last = last := by
  cases e with
  | searchBarCancelButtonClicked => exact absurd rfl other
  | respond task result =>
    cases result with
    | failure error => rfl
    | success response => exact if_neg fun search => quiet (Or.inl search)
  | updateSearchResults | searchNews | scrollViewDidScroll => rfl

theorem Tells.controllerHandles (h : s.Tells last) {e : SearchEvent}
    (allowed : s.controller.Allowed e) (idle : s.controller.TypesIdle e) :
    (s.controllerHandles isURL e).Tells (s.lastSearch (.controller e) last) := by
  have asks : (s.controller.handle isURL e).AsksTyped := h.asks.step idle
  obtain ⟨rfl, cleared⟩ | ⟨reloads, reloaded⟩ | ⟨other, quiet, alerts, kept⟩ :=
    controllerHandles_cases isURL s e
  · rw [cleared]
    exact ⟨by rw [configMessageSearch, reload_controller]; exact asks, fun _ => rfl⟩
  · refine ⟨by rw [reloaded, reload_controller]; exact asks, ?_⟩
    intro shown
    have empty : (s.controller.handle isURL e).viewModel.searchItems = [] := by
      have inStep := reload_inStep { s with controller := s.controller.handle isURL e }
      rw [reloaded] at shown
      by_contra some
      have hidden := inStep.placeholder.mpr (by rw [reload_controller]; exact some)
      cases hidden.symm.trans shown
    cases e with
    | respond task result =>
      cases result with
      | failure error => exact absurd reloads id
      | success response =>
        cases call : task.call with
        | searchNews =>
          have none : response.articles = [] := by
            simpa [SearchNewsViewController.handle, SearchNewsViewController.respond,
              SearchNewsViewController.answered_search _ call] using empty
          rw [message_of_search call none, lastSearch, if_pos call, (h.asks task allowed).1]
          rfl
        | loadMoreSearchNews =>
          have none : s.controller.viewModel.searchItems ++ response.articles = [] := by
            simpa [SearchNewsViewController.handle, SearchNewsViewController.respond,
              SearchNewsViewController.answered_more _ call] using empty
          obtain search | some := reloads
          · cases call.symm.trans search
          · exact absurd (List.append_eq_nil_iff.mp none).2 some
    | _ => exact absurd reloads id
  · rw [kept, lastSearch_of_quiet other quiet]
    exact ⟨asks, h.message⟩

theorem Stepped.tells {e : SearchScreenEvent} (h : s.Tells last) (allowed : s.Allowed e)
    (idle : s.TypesIdle e) (stepped : Stepped isURL decode s e t) :
    t.Tells (s.lastSearch e last) := by
  cases stepped with
  | controller e => exact h.controllerHandles allowed idle
  | displayed | ended | selected | came | stored => exact ⟨h.asks, h.message⟩

/-- **The message names the query** that nothing was found for, in every run in which nothing
is typed while a task is outstanding. What is typed meanwhile takes its place. -/
theorem message_names_query (s : SearchScreen Image) :
    (∀ last, (((machine isURL decode).given TypesIdle).observed lastSearch).Reachable
        (fun p => Opened p.1 ∧ p.2 = none) (s, last) →
      s.placeholdArticlesIsHidden = false → s.messageSearchLabel = message last) ∧
    ∀ task response, task.call = .searchNews → response.articles = [] →
      ((s.controllerHandles isURL (.respond task (.success response))).messageSearchLabel =
        message (some task) ↔ s.controller.viewModel.queryString = task.query) := by
  constructor
  · intro last reached shown
    have tells : s.Tells last := by
      apply reached.invariant (fun p => p.1.Tells p.2)
      · rintro ⟨s, last⟩ ⟨⟨storage, -, rfl⟩, rfl⟩
        exact ⟨nofun, fun _ => rfl⟩
      · rintro ⟨s, last⟩ e ⟨t, last'⟩ reached before ⟨allowed, idle⟩ stepped
        obtain ⟨handled, rfl⟩ := Machine.observed_step.mp stepped
        have here : (machine isURL decode).Reachable Opened s :=
          (reached.mono fun p opened => opened.1).of_observed.of_given
        obtain ⟨t', same, moved⟩ := reachable_stepped here allowed
        obtain rfl : t' = t := Option.mem_unique same handled
        exact moved.tells before allowed idle
    exact tells.message shown
  · intro task response search empty
    rw [message_of_search search empty, message, noResults_inj]

/-- Nothing is found for a query. -/
def marsMissed : List SearchScreenEvent :=
  [.controller (.updateSearchResults (some " mars")), .controller .searchNews,
    .controller (.respond ⟨0, .searchNews, "mars", 1⟩ (.success ⟨"ok", []⟩))]

def missed : SearchScreen Data × Option SearchTask :=
  ((((machine anyURL some).given TypesIdle).observed lastSearch).run ({}, none) marsMissed).getD
    ({}, none)

theorem missed_reachable : (((machine anyURL some).given TypesIdle).observed lastSearch).Reachable
    (fun p => Opened p.1 ∧ p.2 = none) missed :=
  Machine.reachable_getD _ ⟨opened_empty, rfl⟩ (by decide)

theorem message_names_query_missed : missed.1.messageSearchLabel = message missed.2 ∧
    missed.2 = some ⟨0, .searchNews, "mars", 1⟩ :=
  ⟨(@message_names_query _ anyURL some missed.1).1 missed.2 missed_reachable (by decide),
    by decide⟩

end SearchScreen

end NewsReader
