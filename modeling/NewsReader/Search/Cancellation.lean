import NewsReader.Search.TypedQueries

/-!
# Cancelled requests

Cancel does not cancel data tasks. A task created before it is stale: it still
answers into the same view model. Its answer goes unnoticed exactly when it finds
the screen as it would leave it (`cancel_isolates_iff`), and then the run is the
run without it.
-/

namespace NewsReader

namespace SearchNewsViewController

/-- The answer to a task created before identifier `n`. -/
def isStale (n : Nat) : SearchEvent → Bool
  | .respond task _ => decide (task.taskIdentifier < n)
  | _ => false

/-- The screen without the tasks created before identifier `n`. -/
def withoutStale (n : Nat) (s : SearchNewsViewController) : SearchNewsViewController :=
  { s with dataTasks := s.dataTasks.filter fun task => decide (n ≤ task.taskIdentifier) }

/-- What a stale answer may not touch. -/
def Untouched (s t : SearchNewsViewController) : Prop :=
  t.viewModel.searchItems = s.viewModel.searchItems ∧
  t.viewModel.canLoadMore = s.viewModel.canLoadMore ∧
  t.viewModel.oldQueryString = s.viewModel.oldQueryString ∧
  t.viewModel.isLoading = s.viewModel.isLoading

/-- An answer that finds the screen idle, and either fails, repeats the items
shown, or is an empty page where load-more is off already; a success also finds
`oldQueryString` up to date. -/
def Unnoticed (s : SearchNewsViewController) : SearchEvent → Prop
  | .respond _ (.failure _) => s.viewModel.isLoading = false
  | .respond task (.success response) =>
    s.viewModel.isLoading = false ∧ s.viewModel.queryString = s.viewModel.oldQueryString ∧
    match task.call with
    | .searchNews => response.articles = s.viewModel.searchItems
    | .loadMoreSearchNews => response.articles = [] ∧ s.viewModel.canLoadMore = false
  | _ => True

instance (s : SearchNewsViewController) : (e : SearchEvent) → Decidable (s.Unnoticed e)
  | .respond _ (.failure _) => inferInstanceAs (Decidable (s.viewModel.isLoading = false))
  | .respond ⟨_, .searchNews, _, _⟩ (.success response) =>
    inferInstanceAs (Decidable (s.viewModel.isLoading = false ∧
      s.viewModel.queryString = s.viewModel.oldQueryString ∧
      response.articles = s.viewModel.searchItems))
  | .respond ⟨_, .loadMoreSearchNews, _, _⟩ (.success response) =>
    inferInstanceAs (Decidable (s.viewModel.isLoading = false ∧
      s.viewModel.queryString = s.viewModel.oldQueryString ∧
      response.articles = [] ∧ s.viewModel.canLoadMore = false))
  | .updateSearchResults _ | .searchNews | .scrollViewDidScroll
  | .searchBarCancelButtonClicked => .isTrue trivial

section Steps

variable {isURL : String → Bool} {s : SearchNewsViewController} {n : Nat}

theorem untouched_iff (task : SearchTask) (result : APIResult News) :
    s.Untouched (s.respond task result) ↔ s.Unnoticed (.respond task result) := by
  cases result with
  | failure error =>
    simp only [Untouched, Unnoticed, respond, answered_failure, true_and]
    exact eq_comm
  | success response =>
    cases call : task.call with
    | searchNews =>
      simp only [Untouched, Unnoticed, respond, answered_search s call, call, true_and]
      constructor
      · rintro ⟨items, old, flag⟩
        exact ⟨flag.symm, old, items⟩
      · rintro ⟨flag, old, items⟩
        exact ⟨items, old, flag.symm⟩
    | loadMoreSearchNews =>
      simp only [Untouched, Unnoticed, respond, answered_more s call, call,
        List.append_right_eq_self]
      constructor
      · rintro ⟨items, more, old, flag⟩
        rw [if_pos items] at more
        exact ⟨flag.symm, old, items, more.symm⟩
      · rintro ⟨flag, old, items, more⟩
        rw [if_pos items]
        exact ⟨items, more.symm, old, flag.symm⟩

/-- A stale answer that goes unnoticed leaves nothing behind. -/
theorem withoutStale_respond {task : SearchTask} {result : APIResult News}
    (stale : task.taskIdentifier < n) (unnoticed : s.Unnoticed (.respond task result)) :
    (s.respond task result).withoutStale n = s.withoutStale n := by
  obtain ⟨items, more, old, flag⟩ := (untouched_iff task result).mpr unnoticed
  have viewModel : (s.respond task result).viewModel = s.viewModel :=
    SearchNewsViewModel.ext items (answered_queryString s result) old more flag
      (answered_currentPage s result)
  have gone : task ∉ s.dataTasks.filter fun task => decide (n ≤ task.taskIdentifier) := by
    simp [stale]
  have tasks : ((s.respond task result).dataTasks.filter fun task =>
      decide (n ≤ task.taskIdentifier)) =
      s.dataTasks.filter fun task => decide (n ≤ task.taskIdentifier) := by
    rw [respond, ← List.erase_filter, List.erase_of_not_mem gone]
  rw [withoutStale, viewModel, tasks]
  rfl

@[simp] theorem withoutStale_viewModel : (s.withoutStale n).viewModel = s.viewModel := rfl

theorem withoutStale_started (bound : n ≤ s.nextTaskIdentifier) (call : SearchCall)
    (called : SearchNewsViewModel × Call) :
    (s.withoutStale n).started call called = (s.started call called).withoutStale n := by
  obtain ⟨viewModel, completed | running⟩ := called
  · rfl
  · simp [started, withoutStale, List.filter_append, bound]

theorem withoutStale_searchNews (bound : n ≤ s.nextTaskIdentifier) :
    (s.withoutStale n).searchNews isURL = (s.searchNews isURL).withoutStale n := by
  cases held : s.viewModel.isLoading with
  | true => simp [searchNews, held]
  | false => simp [searchNews, held, withoutStale_started bound]

theorem withoutStale_loadMoreSearchNews (bound : n ≤ s.nextTaskIdentifier) :
    (s.withoutStale n).loadMoreSearchNews isURL = (s.loadMoreSearchNews isURL).withoutStale n := by
  cases held : s.viewModel.isLoading with
  | true => simp [loadMoreSearchNews, held]
  | false =>
    cases more : s.viewModel.canLoadMore with
    | true => simp [loadMoreSearchNews, held, more, withoutStale_started bound]
    | false => simp [loadMoreSearchNews, held, more]

/-- Everything but a stale answer runs the same without the stale tasks. -/
theorem withoutStale_handle (bound : n ≤ s.nextTaskIdentifier) (e : SearchEvent) :
    (s.withoutStale n).handle isURL e = (s.handle isURL e).withoutStale n := by
  cases e with
  | updateSearchResults text => cases text <;> rfl
  | searchNews =>
    exact withoutStale_searchNews (s := { s with searchIsScheduled := false }) bound
  | scrollViewDidScroll =>
    cases empty : s.viewModel.searchItems.isEmpty with
    | true => simp [handle, scrollViewDidScroll, empty]
    | false =>
      simpa [handle, scrollViewDidScroll, empty] using withoutStale_loadMoreSearchNews bound
  | searchBarCancelButtonClicked => rfl
  | respond task result =>
    simp only [handle, respond, withoutStale, List.erase_filter]
    rfl

theorem withoutStale_allowed {e : SearchEvent} (allowed : s.Allowed e)
    (fresh : isStale n e = false) : (s.withoutStale n).Allowed e := by
  cases e with
  | searchNews => exact allowed
  | respond task result => exact List.mem_filter.mpr ⟨allowed, by simpa [isStale] using fresh⟩
  | _ => trivial

/-- An event hands out the next identifier, or creates no task. -/
theorem nextTaskIdentifier_cases (isURL : String → Bool) (s : SearchNewsViewController)
    (e : SearchEvent) :
    ((s.handle isURL e).nextTaskIdentifier = s.nextTaskIdentifier ∧
      ∀ task ∈ (s.handle isURL e).dataTasks, task ∈ s.dataTasks) ∨
    (s.handle isURL e).nextTaskIdentifier = s.nextTaskIdentifier + 1 := by
  cases e with
  | updateSearchResults text => cases text <;> exact Or.inl ⟨rfl, fun _ mem => mem⟩
  | searchNews =>
    obtain ⟨-, fired⟩ | ⟨-, -, fired⟩ | ⟨-, -, fired⟩ :=
      searchNews_cases isURL { s with searchIsScheduled := false } <;> rw [handle, fired]
    · exact Or.inl ⟨rfl, fun _ mem => mem⟩
    · exact Or.inl ⟨by simp only [unsent], fun _ mem => by simpa only [unsent] using mem⟩
    · exact Or.inr rfl
  | scrollViewDidScroll =>
    obtain ⟨-, scrolled⟩ | ⟨-, _, -, scrolled⟩ | ⟨-, -, scrolled⟩ :=
      scrollViewDidScroll_cases isURL s <;> rw [handle, scrolled]
    · exact Or.inl ⟨rfl, fun _ mem => mem⟩
    · exact Or.inl ⟨by simp only [unsent], fun _ mem => by simpa only [unsent] using mem⟩
    · exact Or.inr rfl
  | searchBarCancelButtonClicked => exact Or.inl ⟨rfl, fun _ mem => mem⟩
  | respond task result => exact Or.inl ⟨rfl, fun _ mem => List.mem_of_mem_erase mem⟩

theorem le_nextTaskIdentifier (bound : n ≤ s.nextTaskIdentifier) (e : SearchEvent) :
    n ≤ (s.handle isURL e).nextTaskIdentifier := by
  obtain ⟨same, -⟩ | next := s.nextTaskIdentifier_cases isURL e <;> omega

/-- Identifiers are handed out in order. -/
theorem taskIdentifier_lt (h : (machine isURL).Reachable (· = {}) s) :
    ∀ task ∈ s.dataTasks, task.taskIdentifier < s.nextTaskIdentifier := by
  refine h.invariant
    (fun s => ∀ task ∈ s.dataTasks, task.taskIdentifier < s.nextTaskIdentifier) ?_ ?_
  · rintro s rfl task mem
    cases mem
  · intro s e t _ bound _ stepped task mem
    obtain rfl := Option.some.inj stepped
    obtain ⟨same, old⟩ | next := s.nextTaskIdentifier_cases isURL e
    · exact same ▸ bound task (old task mem)
    · rw [next]
      obtain before | ⟨-, -, rfl⟩ | ⟨-, -, -, rfl⟩ := mem_handle_dataTasks mem
      · exact Nat.lt_succ_of_lt (bound task before)
      · exact Nat.lt_succ_self _
      · exact Nat.lt_succ_self _

end Steps

/-- No stale answer of the run touches the screen, and the run ends where the run
without the cancelled requests ends. -/
def Isolated (isURL : String → Bool) (s : SearchNewsViewController) (es : List SearchEvent)
    (t : SearchNewsViewController) : Prop :=
  let n := s.nextTaskIdentifier
  (machine isURL).Throughout (fun s e => isStale n e = true → s.Untouched (s.handle isURL e)) s es ∧
  (machine isURL).run { s with dataTasks := [] } (es.filter (! isStale n ·)) =
    some (t.withoutStale n)

/-- **Cancelled requests.** A run from a Cancel is isolated from what was asked
before it exactly when every answer to that goes unnoticed. -/
theorem cancel_isolates_iff (isURL : String → Bool) {s t : SearchNewsViewController}
    (h : (machine isURL).Reachable (· = {}) s) (es : List SearchEvent)
    (ran : (machine isURL).run s.searchBarCancelButtonClicked es = some t) :
    Isolated isURL s.searchBarCancelButtonClicked es t ↔
      (machine isURL).Throughout
        (fun u e => isStale s.nextTaskIdentifier e = true → u.Unnoticed e)
        s.searchBarCancelButtonClicked es := by
  have same : (fun u e => isStale s.nextTaskIdentifier e = true → Untouched u (u.handle isURL e)) =
      fun u e => isStale s.nextTaskIdentifier e = true → Unnoticed u e := by
    funext u e
    refine propext (imp_congr_right fun stale => ?_)
    cases e with
    | respond task result => exact untouched_iff task result
    | _ => cases stale
  have cancelled : s.searchBarCancelButtonClicked.withoutStale s.nextTaskIdentifier =
      { s.searchBarCancelButtonClicked with dataTasks := [] } := by
    have none : (s.dataTasks.filter fun task =>
        decide (s.nextTaskIdentifier ≤ task.taskIdentifier)) = [] := by
      rw [List.filter_eq_nil_iff]
      intro task mem
      simp [taskIdentifier_lt h task mem]
    exact congrArg (fun dataTasks => { s.searchBarCancelButtonClicked with dataTasks }) none
  constructor
  · rintro ⟨untouched, -⟩
    exact same ▸ untouched
  · intro unnoticed
    refine ⟨same ▸ unnoticed, ?_⟩
    rw [← cancelled]
    refine Machine.run_erase (fun u => s.nextTaskIdentifier ≤ u.nextTaskIdentifier)
      ?_ ?_ ?_ (Nat.le_refl _) unnoticed ran
    · intro u e v bound _ stepped
      exact Option.some.inj stepped ▸ le_nextTaskIdentifier bound e
    · intro u e v bound allowed fresh stepped
      obtain rfl := Option.some.inj stepped
      exact ⟨withoutStale_allowed allowed fresh, congrArg some (withoutStale_handle bound e)⟩
    · intro u e v _ _ stale quiet stepped
      obtain rfl := Option.some.inj stepped
      cases e with
      | respond task result => exact withoutStale_respond (of_decide_eq_true stale) quiet
      | _ => cases stale

/-- A search for mars is outstanding. -/
def marsAsked : SearchNewsViewController :=
  ((machine anyURL).run {} [.updateSearchResults (some "mars"), .searchNews]).getD {}

theorem marsAsked_reachable : (machine anyURL).Reachable (· = {}) marsAsked :=
  Machine.reachable_getD _ rfl (by decide)

/-- The cancelled search fails after Cancel, and venus is searched for. -/
def venusAfterFailure : List SearchEvent :=
  [.respond ⟨0, .searchNews, "mars", 1⟩ (.failure .errorNetwork),
    .updateSearchResults (some "venus"), .searchNews,
    .respond ⟨1, .searchNews, "venus", 1⟩ (.success ⟨"ok", twoPages "venus" 1⟩)]

theorem cancel_isolates_iff_venus :
    ∃ t, (machine anyURL).run marsAsked.searchBarCancelButtonClicked venusAfterFailure = some t ∧
      Isolated anyURL marsAsked.searchBarCancelButtonClicked venusAfterFailure t := by
  obtain ⟨t, ran⟩ := Option.isSome_iff_exists.mp
    (show ((machine anyURL).run marsAsked.searchBarCancelButtonClicked
      venusAfterFailure).isSome = true by decide)
  refine ⟨t, ran, (cancel_isolates_iff anyURL marsAsked_reachable _ ran).mpr ?_⟩
  refine ⟨fun _ => by decide, fun _ _ => ⟨nofun, fun _ _ => ⟨nofun, fun _ stepped => ?_⟩⟩⟩
  exact ⟨nofun, fun _ _ => trivial⟩

/-- The cancelled search answers after Cancel. -/
def marsAnswers : List SearchEvent :=
  [.respond ⟨0, .searchNews, "mars", 1⟩ (.success ⟨"ok", twoPages "mars" 1⟩)]

theorem cancelled_search_answers :
    ¬ ∀ s es t, (machine anyURL).Reachable (· = {}) s →
      (machine anyURL).run s.searchBarCancelButtonClicked es = some t →
      Isolated anyURL s.searchBarCancelButtonClicked es t := by
  intro isolated
  obtain ⟨⟨untouched, -⟩, -⟩ := isolated marsAsked marsAnswers
    (((machine anyURL).run marsAsked.searchBarCancelButtonClicked marsAnswers).getD {})
    marsAsked_reachable rfl
  have items := (untouched (by decide)).1
  revert items
  decide

end SearchNewsViewController

end NewsReader
