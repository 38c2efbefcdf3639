import NewsReader.Search.Paging

/-!
# Failed requests of a search

A search that fails leaves the list, and the next load-more for it asks for the first
page that is missing. A load-more that fails does not: the counter has counted its page.
-/

namespace NewsReader

namespace SearchNewsViewController

/-- The answers shown are pages 1 to `n` of a query that can be asked for. -/
structure Asked (q : String) (n : Nat) (answers : List Answer) : Prop where
  named : q ≠ ""
  trimmed : trimmingCharacters q = q
  pages : answers.map Answer.asked = (List.range' 1 n).map (q, ·)

/-- The screen between requests, during a search and during a load-more. -/
inductive Tracked (s : SearchNewsViewController) (answers : List Answer) : Prop
  | idle (tasks : s.dataTasks = []) (flag : s.viewModel.isLoading = false)
      (shown : answers ≠ [] → ∃ q, Asked q s.viewModel.currentPage answers)
  | searching (task : SearchTask) (tasks : s.dataTasks = [task])
      (call : task.call = .searchNews) (first : task.page = 1) (named : task.query ≠ "")
      (trimmed : trimmingCharacters task.query = task.query)
      (flag : s.viewModel.isLoading = true)
      (shown : answers ≠ [] → ∃ q, Asked q s.viewModel.currentPage answers)
  | loadingMore (task : SearchTask) (n : Nat) (tasks : s.dataTasks = [task])
      (call : task.call = .loadMoreSearchNews) (next : task.page = n + 1)
      (flag : s.viewModel.isLoading = true) (items : s.viewModel.searchItems ≠ [])
      (more : s.viewModel.canLoadMore = true) (counter : s.viewModel.currentPage = n + 1)
      (shown : Asked task.query n answers)

/-- A load-more goes out for the query of the list. Cancel comes with nothing outstanding. A
search succeeds with the counter at 1, and a load-more does not fail. -/
def Orderly (p : Session) : SearchEvent → Prop
  | .scrollViewDidScroll => p.1.CanAsk →
    p.1.viewModel.query = "" ∨ ∀ a ∈ p.2, a.task.query = p.1.viewModel.query
  | .searchBarCancelButtonClicked => p.1.dataTasks = []
  | .respond task (.success _) => task.call = .searchNews → p.1.viewModel.currentPage = 1
  | .respond task (.failure _) => task.call = .searchNews
  | _ => True

instance (p : Session) : (e : SearchEvent) → Decidable (Orderly p e)
  | .scrollViewDidScroll => inferInstanceAs (Decidable (p.1.CanAsk →
    p.1.viewModel.query = "" ∨ ∀ a ∈ p.2, a.task.query = p.1.viewModel.query))
  | .searchBarCancelButtonClicked => inferInstanceAs (Decidable (p.1.dataTasks = []))
  | .respond task (.success _) =>
    inferInstanceAs (Decidable (task.call = .searchNews → p.1.viewModel.currentPage = 1))
  | .respond task (.failure _) => inferInstanceAs (Decidable (task.call = .searchNews))
  | .updateSearchResults _ | .searchNews => .isTrue trivial

section Steps

variable {isURL : String → Bool} {s t : SearchNewsViewController} {answers : List Answer}

/-- Only the tasks, the lock, the counter and the list matter. -/
theorem Tracked.congr (h : s.Tracked answers) (tasks : t.dataTasks = s.dataTasks)
    (flag : t.viewModel.isLoading = s.viewModel.isLoading)
    (counter : t.viewModel.currentPage = s.viewModel.currentPage)
    (items : t.viewModel.searchItems = s.viewModel.searchItems)
    (more : t.viewModel.canLoadMore = s.viewModel.canLoadMore) : t.Tracked answers := by
  cases h with
  | idle none idle shown => exact .idle (tasks.trans none) (flag.trans idle) (counter ▸ shown)
  | searching task one call first named trimmed loading shown =>
    exact .searching task (tasks.trans one) call first named trimmed (flag.trans loading)
      (counter ▸ shown)
  | loadingMore task n one call next loading nonempty grows count shown =>
    exact .loadingMore task n (tasks.trans one) call next (flag.trans loading) (items ▸ nonempty)
      (more.trans grows) (counter.trans count) shown

theorem Tracked.of_free (h : s.Tracked answers) (free : s.viewModel.isLoading = false) :
    s.dataTasks = [] ∧ (answers ≠ [] → ∃ q, Asked q s.viewModel.currentPage answers) := by
  cases h with
  | idle tasks _ shown => exact ⟨tasks, shown⟩
  | searching _ _ _ _ _ _ flag => cases flag.symm.trans free
  | loadingMore _ _ _ _ _ flag => cases flag.symm.trans free

theorem Tracked.unsent (h : s.Tracked answers) :
    (s.unsent s.viewModel.currentPage).Tracked answers := by
  apply h.congr <;> simp

theorem tracked_searchNews (h : s.Tracked answers) : (s.searchNews isURL).Tracked answers := by
  obtain ⟨-, fired⟩ | ⟨-, -, fired⟩ | ⟨free, named, fired⟩ := searchNews_cases isURL s
  · rw [fired]
    exact h
  · rw [fired]
    exact h.unsent
  · rw [fired]
    obtain ⟨none, shown⟩ := h.of_free free
    refine .searching _ (awaiting_dataTasks none _ _ _) rfl rfl named (trimmingCharacters_idem _)
      (awaiting_isLoading ..) ?_
    rw [awaiting_currentPage]
    exact shown

theorem Asked.query {q : String} {n : Nat} (h : Asked q n answers) :
    ∀ a ∈ answers, a.task.query = q := by
  intro a mem
  have asked : a.asked ∈ (List.range' 1 n).map (q, ·) := h.pages ▸ List.mem_map_of_mem mem
  obtain ⟨page, -, same⟩ := List.mem_map.mp asked
  exact (congrArg Prod.fst same).symm

theorem Asked.query_eq {q q' : String} {n : Nat} (h : Asked q n answers) (nonempty : answers ≠ [])
    (all : ∀ a ∈ answers, a.task.query = q') : q = q' := by
  obtain ⟨a, mem⟩ := List.exists_mem_of_ne_nil answers nonempty
  exact (h.query a mem).symm.trans (all a mem)

theorem Asked.page {q : String} {n : Nat} (h : Asked q n answers) :
    answers.map (·.task.page) = List.range' 1 n := by
  have pages := congrArg (List.map Prod.snd) h.pages
  simpa [Answer.asked, Function.comp_def] using pages

theorem tracked_scrollViewDidScroll (reaches : SearchNewsViewModel.Reaches isURL)
    (h : s.Tracked answers) (shows : Shows (s, answers))
    (orderly : Orderly (s, answers) .scrollViewDidScroll) :
    (s.scrollViewDidScroll isURL).Tracked answers := by
  obtain ⟨-, scrolled⟩ | ⟨-, page, blank, scrolled⟩ | ⟨asks, named, scrolled⟩ :=
    scrollViewDidScroll_cases isURL s
  · rw [scrolled]
    exact h
  · obtain ⟨-, rfl⟩ := blank reaches
    rw [scrolled]
    exact h.unsent
  · have nonempty : answers ≠ [] := by
      rintro rfl
      exact asks.1 shows
    obtain ⟨none, shown⟩ := h.of_free asks.2.1
    obtain ⟨q, asked⟩ := shown nonempty
    have same : q = s.viewModel.query :=
      asked.query_eq nonempty ((orderly asks).resolve_left named)
    rw [scrolled]
    apply Tracked.loadingMore _ s.viewModel.currentPage (awaiting_dataTasks none _ _ _) rfl rfl
      (awaiting_isLoading ..)
    · simpa using asks.1
    · simpa using asks.2.2
    · rw [awaiting_currentPage]
    · rw [← same]
      exact asked

theorem tracked_respond {task : SearchTask} {result : APIResult News} (h : s.Tracked answers)
    (mem : task ∈ s.dataTasks) (orderly : Orderly (s, answers) (.respond task result)) :
    (s.respond task result).Tracked (s.observe (.respond task result) answers) := by
  have free : (s.respond task result).viewModel.isLoading = false := answered_isLoading s result
  have count : (s.respond task result).viewModel.currentPage = s.viewModel.currentPage :=
    answered_currentPage s result
  cases h with
  | idle none => simp [none] at mem
  | searching task' tasks call first named trimmed flag shown =>
    obtain rfl := List.mem_singleton.mp (tasks ▸ mem)
    have none : (s.respond task result).dataTasks = [] := by simp [respond, tasks]
    cases result with
    | failure error => exact .idle none free (count ▸ shown)
    | success response =>
      refine .idle none free fun _ => ⟨task.query, named, trimmed, ?_⟩
      rw [count, orderly call]
      simp [observe, call, Answer.asked, first]
  | loadingMore task' n tasks call next flag items more counter shown =>
    obtain rfl := List.mem_singleton.mp (tasks ▸ mem)
    have none : (s.respond task result).dataTasks = [] := by simp [respond, tasks]
    cases result with
    | failure error => cases call.symm.trans orderly
    | success response =>
      refine .idle none free fun _ => ⟨task.query, shown.named, shown.trimmed, ?_⟩
      rw [count, counter, List.range'_1_concat]
      simp [observe, call, shown.pages, Answer.asked, next, Nat.add_comm]

/-- **One event** of an orderly run keeps the pages of the list in order. -/
theorem tracked_step (reaches : SearchNewsViewModel.Reaches isURL) {e : SearchEvent}
    (h : s.Tracked answers) (shows : Shows (s, answers)) (allowed : s.Allowed e)
    (orderly : Orderly (s, answers) e) : (s.handle isURL e).Tracked (s.observe e answers) := by
  cases e with
  | updateSearchResults text => cases text <;> exact h.congr rfl rfl rfl rfl rfl
  | searchNews =>
    have waiting : Tracked { s with searchIsScheduled := false } answers :=
      h.congr rfl rfl rfl rfl rfl
    exact tracked_searchNews waiting
  | scrollViewDidScroll => exact tracked_scrollViewDidScroll reaches h shows orderly
  | searchBarCancelButtonClicked => exact .idle orderly rfl fun shown => absurd rfl shown
  | respond task result => exact tracked_respond h allowed orderly

theorem tracked_of_reachable (reaches : SearchNewsViewModel.Reaches isURL) {p : Session}
    (h : ((session isURL).given Orderly).Reachable Opened p) : p.1.Tracked p.2 := by
  apply h.invariant (fun p => p.1.Tracked p.2)
  · rintro p rfl
    exact .idle rfl rfl fun shown => absurd rfl shown
  · rintro ⟨s, answers⟩ e p reached tracked ⟨allowed, orderly⟩ stepped
    obtain rfl := session_step.mp stepped
    exact tracked_step reaches tracked (items_of_answers reached.of_given) allowed orderly

/-! ## What a failure leaves -/

/-- The user types the text, and scrolls to the end. -/
def scrolledFor (isURL : String → Bool) (s : SearchNewsViewController) (text : String) :
    SearchNewsViewController :=
  (s.handle isURL (.updateSearchResults (some text))).handle isURL .scrollViewDidScroll

/-- From `s` to `t` the list stays as it is and the lock is free, and the next load-more for
the query of `answers` asks for the first page that is not among them. -/
structure Retried (isURL : String → Bool) (s t : SearchNewsViewController)
    (answers : List Answer) : Prop where
  searchItems : t.viewModel.searchItems = s.viewModel.searchItems
  canLoadMore : t.viewModel.canLoadMore = s.viewModel.canLoadMore
  oldQueryString : t.viewModel.oldQueryString = s.viewModel.oldQueryString
  isLoading : t.viewModel.isLoading = false
  next : ∀ text task, (∀ a ∈ answers, a.task.query = trimmingCharacters text) →
    (t.scrolledFor isURL text).dataTasks = t.dataTasks ++ [task] →
      FirstMissing (answers.map (·.task.page)) task.page

/-- A load-more that goes out asks for the page after the counter. -/
theorem page_of_scroll {task : SearchTask}
    (asked : (s.scrollViewDidScroll isURL).dataTasks = s.dataTasks ++ [task]) :
    s.CanAsk ∧ task.page = s.viewModel.currentPage + 1 := by
  obtain ⟨-, scrolled⟩ | ⟨-, page, -, scrolled⟩ | ⟨asks, -, scrolled⟩ :=
    scrollViewDidScroll_cases isURL s
  · rw [scrolled] at asked
    simp at asked
  · rw [scrolled, unsent_dataTasks] at asked
    simp at asked
  · rw [scrolled] at asked
    simp only [awaiting, List.append_cancel_left_eq, List.cons.injEq, and_true] at asked
    exact ⟨asks, asked ▸ rfl⟩

theorem scroll_asks (reaches : SearchNewsViewModel.Reaches isURL) (asks : s.CanAsk)
    (named : s.viewModel.query ≠ "") :
    (s.scrollViewDidScroll isURL).dataTasks =
      s.dataTasks ++ [⟨s.nextTaskIdentifier, .loadMoreSearchNews, s.viewModel.query,
        s.viewModel.currentPage + 1⟩] := by
  obtain ⟨stuck, -⟩ | ⟨-, page, blank, -⟩ | ⟨-, -, scrolled⟩ := scrollViewDidScroll_cases isURL s
  · exact absurd asks stuck
  · exact absurd (blank reaches).1 named
  · rw [scrolled]
    rfl

/-- After a search has failed, a load-more asks for the page after those that are shown. -/
theorem retried_search (h : s.Tracked answers) (shows : Shows (s, answers)) {task : SearchTask}
    (mem : task ∈ s.dataTasks) (call : task.call = .searchNews) (error : APIError) :
    Retried isURL s (s.respond task (.failure error)) answers := by
  have model := answered_failure s task error
  refine ⟨?_, ?_, ?_, ?_, ?_⟩
  · simp [respond, model]
  · simp [respond, model]
  · simp [respond, model]
  · simp [respond, model]
  · intro text task' named asked
    obtain ⟨asks, page⟩ := page_of_scroll asked
    have items : s.viewModel.searchItems ≠ [] := by
      have shown := asks.1
      simpa [handle, updateSearchResults, respond, model] using shown
    have count : task'.page = s.viewModel.currentPage + 1 := by
      rw [page]
      simp [handle, updateSearchResults, respond, model]
    have nonempty : answers ≠ [] := by
      rintro rfl
      exact items shows
    cases h with
    | idle none => simp [none] at mem
    | searching _ _ _ _ _ _ _ shown =>
      obtain ⟨q, pages⟩ := shown nonempty
      rw [pages.page, firstMissing_range']
      exact count
    | loadingMore other n tasks more =>
      obtain rfl := List.mem_singleton.mp (tasks ▸ mem)
      cases call.symm.trans more

/-- After a load-more has failed, the user goes on with the query of the list: its page is
counted, and the next one is asked for. -/
theorem not_retried_loadMore (reaches : SearchNewsViewModel.Reaches isURL) {task : SearchTask}
    {n : Nat} (items : s.viewModel.searchItems ≠ []) (more : s.viewModel.canLoadMore = true)
    (counter : s.viewModel.currentPage = n + 1) (shown : Asked task.query n answers)
    (error : APIError) : ¬ Retried isURL s (s.respond task (.failure error)) answers := by
  intro retried
  have model := answered_failure s task error
  let u := (s.respond task (.failure error)).updateSearchResults (some task.query)
  have asks : u.CanAsk := by
    refine ⟨?_, ?_, ?_⟩ <;> simp [u, updateSearchResults, respond, model, items, more]
  have query : u.viewModel.query = task.query := shown.trimmed
  have asked := scroll_asks reaches asks (query.symm ▸ shown.named)
  have count : u.viewModel.currentPage = n + 1 := by
    simp [u, updateSearchResults, respond, model, counter]
  have missing := retried.next task.query _ (fun a mem => (shown.query a mem).trans
    shown.trimmed.symm) asked
  rw [shown.page, firstMissing_range'] at missing
  simp only [count] at missing
  omega

/-- **A failed call** is asked for again exactly where it is a search. -/
theorem retried_iff (reaches : SearchNewsViewModel.Reaches isURL) (h : s.Tracked answers)
    (shows : Shows (s, answers)) {task : SearchTask} (mem : task ∈ s.dataTasks)
    (error : APIError) :
    Retried isURL s (s.handle isURL (.respond task (.failure error))) answers ↔
      task.call = .searchNews := by
  constructor
  · intro retried
    cases h with
    | idle none => simp [none] at mem
    | searching task' tasks call =>
      obtain rfl := List.mem_singleton.mp (tasks ▸ mem)
      exact call
    | loadingMore task' n tasks call next flag items more counter shown =>
      obtain rfl := List.mem_singleton.mp (tasks ▸ mem)
      exact absurd retried (not_retried_loadMore reaches items more counter shown error)
  · intro call
    exact retried_search h shows mem call error

/-- The event clears the list, or is a success. -/
def Brings : SearchEvent → Prop
  | .searchBarCancelButtonClicked => True
  | .respond _ (.success _) => True
  | _ => False

instance : (e : SearchEvent) → Decidable (Brings e)
  | .searchBarCancelButtonClicked | .respond _ (.success _) => .isTrue trivial
  | .respond _ (.failure _) | .updateSearchResults _ | .searchNews | .scrollViewDidScroll =>
    .isFalse id

theorem list_step (isURL : String → Bool) (s : SearchNewsViewController) {e : SearchEvent}
    (kept : ¬ Brings e) :
    (s.handle isURL e).viewModel.searchItems = s.viewModel.searchItems ∧
      (s.handle isURL e).viewModel.canLoadMore = s.viewModel.canLoadMore ∧
      (s.handle isURL e).viewModel.oldQueryString = s.viewModel.oldQueryString := by
  cases e with
  | updateSearchResults text => cases text <;> exact ⟨rfl, rfl, rfl⟩
  | searchNews =>
    obtain ⟨-, fired⟩ | ⟨-, -, fired⟩ | ⟨-, -, fired⟩ :=
      searchNews_cases isURL { s with searchIsScheduled := false } <;>
    simp [handle, fired]
  | scrollViewDidScroll =>
    obtain ⟨-, scrolled⟩ | ⟨-, _, -, scrolled⟩ | ⟨-, -, scrolled⟩ :=
      scrollViewDidScroll_cases isURL s <;>
    simp [handle, scrolled]
  | searchBarCancelButtonClicked => exact absurd trivial kept
  | respond task result =>
    cases result with
    | failure error =>
      simp [handle, respond, answered_failure]
    | success response => exact absurd trivial kept

/-- **The list stays as it is** through any events that bring it nothing, failures among them. -/
theorem list_kept {p q : Session}
    (h : ((session isURL).given fun _ e => ¬ Brings e).Reachable (· = p) q) :
    q.1.viewModel.searchItems = p.1.viewModel.searchItems ∧
      q.1.viewModel.canLoadMore = p.1.viewModel.canLoadMore ∧
      q.1.viewModel.oldQueryString = p.1.viewModel.oldQueryString := by
  induction h with
  | start same =>
    subst same
    exact ⟨rfl, rfl, rfl⟩
  | next _ allowed stepped ih =>
    obtain ⟨items, more, old⟩ := ih
    obtain rfl := session_step.mp stepped
    obtain ⟨items', more', old'⟩ := list_step isURL _ allowed.2
    exact ⟨items'.trans items, more'.trans more, old'.trans old⟩

/-- A call that goes out and fails, in an orderly run that brings the list nothing in
between, is asked for again exactly where it is a search. -/
theorem retried_after (reaches : SearchNewsViewModel.Reaches isURL) {p q : Session}
    (reached : ((session isURL).given Orderly).Reachable Opened p)
    (since : ((session isURL).given fun p e => Orderly p e ∧ ¬ Brings e).Reachable (· = p) q)
    {task : SearchTask} (mem : task ∈ q.1.dataTasks) (error : APIError) :
    Retried isURL p.1 (q.1.handle isURL (.respond task (.failure error))) q.2 ↔
      task.call = .searchNews := by
  have reached' := reached.trans (since.weaken fun _ _ => And.left)
  obtain ⟨items, more, old⟩ := list_kept (since.weaken fun _ _ => And.right)
  rw [← retried_iff reaches (tracked_of_reachable reaches reached')
    (items_of_answers reached'.of_given) mem error]
  constructor
  · rintro ⟨list, grows, query, free, next⟩
    exact ⟨list.trans items.symm, grows.trans more.symm, query.trans old.symm, free, next⟩
  · rintro ⟨list, grows, query, free, next⟩
    exact ⟨list.trans items, grows.trans more, query.trans old, free, next⟩

end Steps

end SearchNewsViewController

end NewsReader
