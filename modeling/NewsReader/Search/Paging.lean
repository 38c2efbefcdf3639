import NewsReader.Pages
import NewsReader.Search.Answers

/-!
# Pages of a search

Runs in which every answer comes before the next action. A search asks for page 1
but leaves `currentPage` and `canLoadMore` as the searches before it left them, and a
load-more asks for what is typed, searched or not. So the pages stay in order only while
every search starts with these two fresh, and every load-more asks for the search that is
shown (`search_pages_in_order`).
-/

namespace NewsReader

/-- The result is the server's page for the task. -/
def SearchTask.Served (server : String → Nat → List News) (task : SearchTask) :
    APIResult News → Prop
  | .failure _ => False
  | .success response => response.articles = server task.query task.page

/-- What an answer was asked for. -/
def Answer.asked (a : Answer) : String × Nat := (a.task.query, a.task.page)

namespace SearchNewsViewController

/-- Every answer comes before the next action, with the server's page. -/
def Sequential (server : String → Nat → List News) (p : Session) : SearchEvent → Prop
  | .respond task result => task.Served server result
  | _ => p.1.dataTasks = []

/-- A search goes out with the counter at 1 and load-more on. While a search is scheduled, a
load-more that goes out is for the search that is shown. -/
def StartsAfresh (p : Session) : SearchEvent → Prop
  | .searchNews => p.1.viewModel.query ≠ "" →
    p.1.viewModel.currentPage = 1 ∧ p.1.viewModel.canLoadMore = true
  | .scrollViewDidScroll => p.1.searchIsScheduled = true → p.1.CanAsk →
    p.1.viewModel.query ≠ "" → p.1.viewModel.query = p.1.viewModel.oldQueryString
  | _ => True

/-- The answers shown are pages 1 to `n` of `q`, and load-more is off only after
an empty one. -/
structure Sequence (server : String → Nat → List News) (q : String) (n : Nat) (p : Session) :
    Prop where
  asked : p.2.map Answer.asked = (List.range' 1 n).map (q, ·)
  items : p.1.viewModel.searchItems = pagesUpTo (server q) n
  ended : p.1.viewModel.canLoadMore = false →
    ∃ a ∈ p.2, a.task.call = .loadMoreSearchNews ∧ a.articles = []

/-- With nothing outstanding, a search that is shown is shown up to its counter. -/
def InSequence (server : String → Nat → List News) (p : Session) : Prop :=
  p.1.dataTasks = [] → p.2 ≠ [] →
    ∃ q n, Sequence server q n p ∧ p.1.viewModel.currentPage = n

/-- The text typed is that of the sequence, or blank, unless a search is scheduled. -/
structure Typed (q : String) (s : SearchNewsViewController) : Prop where
  trimmed : trimmingCharacters q = q
  old : s.viewModel.oldQueryString = q
  typed : s.searchIsScheduled = false → s.viewModel.query = "" ∨ s.viewModel.query = q

/-- A sequential run between actions, during a search and during a load-more. -/
inductive Stage (server : String → Nat → List News) (p : Session) : Prop
  | idle (tasks : p.1.dataTasks = []) (flag : p.1.viewModel.isLoading = false)
      (shown : p.2 ≠ [] → ∃ q n, Sequence server q n p ∧ p.1.viewModel.currentPage = n ∧
        p.1.Typed q)
  | searching (task : SearchTask) (tasks : p.1.dataTasks = [task])
      (call : task.call = .searchNews) (first : task.page = 1)
      (text : p.1.viewModel.queryString = task.query)
      (trimmed : trimmingCharacters task.query = task.query)
      (counter : p.1.viewModel.currentPage = 1) (more : p.1.viewModel.canLoadMore = true)
  | loadingMore (task : SearchTask) (n : Nat) (tasks : p.1.dataTasks = [task])
      (call : task.call = .loadMoreSearchNews) (next : task.page = n + 1)
      (text : p.1.viewModel.queryString = task.query)
      (trimmed : trimmingCharacters task.query = task.query)
      (counter : p.1.viewModel.currentPage = n + 1) (more : p.1.viewModel.canLoadMore = true)
      (shown : Sequence server task.query n p)

section Steps

variable {isURL : String → Bool} {server : String → Nat → List News}
  {s : SearchNewsViewController} {answers : List Answer}

theorem Stage.inSequence {p : Session} (stage : Stage server p) : InSequence server p := by
  intro quiet nonempty
  cases stage with
  | idle _ _ shown =>
    obtain ⟨q, n, sequence, counter, -⟩ := shown nonempty
    exact ⟨q, n, sequence, counter⟩
  | searching task tasks => simp [quiet] at tasks
  | loadingMore task n tasks => simp [quiet] at tasks

/-- Between actions the lock is free. -/
theorem Stage.of_quiet (stage : Stage server (s, answers)) (quiet : s.dataTasks = []) :
    s.viewModel.isLoading = false ∧ (answers ≠ [] → ∃ q n, Sequence server q n (s, answers) ∧
      s.viewModel.currentPage = n ∧ s.Typed q) := by
  cases stage with
  | idle _ flag shown => exact ⟨flag, shown⟩
  | searching task tasks => simp [quiet] at tasks
  | loadingMore task n tasks => simp [quiet] at tasks

theorem stage_updateSearchResults (stage : Stage server (s, answers)) (quiet : s.dataTasks = [])
    (text : Option String) : Stage server (s.updateSearchResults text, answers) := by
  cases text with
  | none => exact stage
  | some text =>
    obtain ⟨flag, shown⟩ := stage.of_quiet quiet
    refine .idle quiet flag fun nonempty => ?_
    obtain ⟨q, n, ⟨asked, items, ended⟩, counter, ⟨trimmed, old, -⟩⟩ := shown nonempty
    refine ⟨q, n, ⟨asked, items, ended⟩, counter, trimmed, old, fun unscheduled => ?_⟩
    have same : text = s.viewModel.oldQueryString ∨ text = "" := by
      by_contra other
      simp only [updateSearchResults, decide_eq_false_iff_not] at unscheduled
      exact unscheduled ⟨fun h => other (Or.inl h), fun h => other (Or.inr h)⟩
    obtain rfl | rfl := same
    · exact Or.inr ((congrArg trimmingCharacters old).trans trimmed)
    · exact Or.inl trimmingCharacters_empty

/-- A call for a blank query only trims it. -/
theorem stage_unsent (stage : Stage server (s, answers)) (quiet : s.dataTasks = [])
    (blank : s.viewModel.query = "") (searchIsScheduled : Bool) :
    Stage server
      (unsent { s with searchIsScheduled } s.viewModel.currentPage, answers) := by
  obtain ⟨flag, shown⟩ := stage.of_quiet quiet
  refine .idle ?_ ?_ fun nonempty => ?_
  · simpa only [unsent] using quiet
  · simpa only [unsent] using flag
  obtain ⟨q, n, ⟨asked, items, ended⟩, counter, ⟨trimmed, old, -⟩⟩ := shown nonempty
  refine ⟨q, n, ⟨asked, ?_, ?_⟩, ?_, trimmed, ?_, fun _ => Or.inl ?_⟩
  · simpa only [unsent] using items
  · simpa only [unsent] using ended
  · simpa only [unsent] using counter
  · simpa only [unsent] using old
  · rw [unsent_query]
    exact blank

theorem stage_searchNews (reaches : SearchNewsViewModel.Reaches isURL)
    (stage : Stage server (s, answers)) (quiet : s.dataTasks = [])
    (fresh : StartsAfresh (s, answers) .searchNews) :
    Stage server (s.handle isURL .searchNews, answers) := by
  obtain ⟨flag, -⟩ := stage.of_quiet quiet
  obtain ⟨held, -⟩ | ⟨-, blank, fired⟩ | ⟨-, named, fired⟩ := searchNews_cases isURL
    { s with searchIsScheduled := false }
  · exact nomatch held.symm.trans flag
  · rw [handle, fired]
    exact stage_unsent stage quiet (blank reaches) false
  · rw [handle, fired]
    obtain ⟨counter, more⟩ := fresh named
    have none : ({ s with searchIsScheduled := false } : SearchNewsViewController).dataTasks = [] :=
      quiet
    refine .searching _ (awaiting_dataTasks none _ _ _) rfl rfl ?_ (trimmingCharacters_idem _) ?_ ?_
    · simp only [awaiting]
    · simpa only [awaiting] using counter
    · simpa only [awaiting] using more

theorem stage_scrollViewDidScroll (reaches : SearchNewsViewModel.Reaches isURL)
    (stage : Stage server (s, answers)) (quiet : s.dataTasks = []) (shows : Shows (s, answers))
    (fresh : StartsAfresh (s, answers) .scrollViewDidScroll) :
    Stage server (s.handle isURL .scrollViewDidScroll, answers) := by
  obtain ⟨-, scrolled⟩ | ⟨-, page, blank, scrolled⟩ | ⟨asks, named, scrolled⟩ :=
    scrollViewDidScroll_cases isURL s
  · rw [handle, scrolled]
    exact stage
  · obtain ⟨empty, rfl⟩ := blank reaches
    rw [handle, scrolled]
    exact stage_unsent stage quiet empty s.searchIsScheduled
  · have nonempty : answers ≠ [] := by
      rintro rfl
      exact asks.1 shows
    obtain ⟨q, n, ⟨asked, items, ended⟩, counter, ⟨trimmed, old, typed⟩⟩ :=
      (stage.of_quiet quiet).2 nonempty
    have query : s.viewModel.query = q := by
      cases scheduled : s.searchIsScheduled with
      | true => exact (fresh scheduled asks named).trans old
      | false => exact (typed scheduled).resolve_left named
    rw [handle, scrolled]
    refine .loadingMore _ n (awaiting_dataTasks quiet _ _ _) rfl (congrArg (· + 1) counter) ?_
      (trimmingCharacters_idem _) ?_ ?_ ⟨?_, ?_, ?_⟩
    · simp only [awaiting]
    · simpa only [awaiting] using congrArg (· + 1) counter
    · simpa only [awaiting] using asks.2.2
    · rw [query]
      exact asked
    · rw [query]
      simpa only [awaiting] using items
    · simpa only [awaiting] using ended

theorem stage_respond {task : SearchTask} {response : Response News}
    (stage : Stage server (s, answers)) (mem : task ∈ s.dataTasks)
    (page : response.articles = server task.query task.page) :
    Stage server (s.handle isURL (.respond task (.success response)),
      s.observe (.respond task (.success response)) answers) := by
  cases stage with
  | idle tasks =>
    have none : s.dataTasks = [] := tasks
    simp [none] at mem
  | searching task' tasks call first text trimmed counter more =>
    dsimp only at tasks text counter more
    obtain rfl : task = task' := List.mem_singleton.mp (tasks ▸ mem)
    refine .idle ?_ (answered_isLoading s _) fun _ =>
      ⟨task.query, 1, ⟨?_, ?_, ?_⟩, ?_, trimmed, ?_, fun _ => Or.inr ?_⟩
    · simp [handle, respond, tasks]
    · simp [observe, call, Answer.asked, first]
    · simp [handle, respond, answered_search s call, page, first]
    · simp [handle, respond, answered_search s call, more]
    · simp [handle, respond, counter]
    · simp [handle, respond, answered_search s call, text]
    · simp [handle, respond, SearchNewsViewModel.query, text, trimmed]
  | loadingMore task' n tasks call next text trimmed counter more shown =>
    obtain ⟨asked, items, ended⟩ := shown
    dsimp only at tasks text counter more asked items
    obtain rfl : task = task' := List.mem_singleton.mp (tasks ▸ mem)
    refine .idle ?_ (answered_isLoading s _) fun _ =>
      ⟨task.query, n + 1, ⟨?_, ?_, ?_⟩, ?_, trimmed, ?_, fun _ => Or.inr ?_⟩
    · simp [handle, respond, tasks]
    · simp [observe, call, asked, Answer.asked, next, List.range'_1_concat, Nat.add_comm]
    · simp [handle, respond, answered_more s call, page, next, items, pagesUpTo_succ]
    · intro off
      refine ⟨⟨task, response.articles⟩, by simp [observe, call], call, ?_⟩
      by_contra some
      simp [handle, respond, answered_more s call, some, more] at off
    · simp [handle, respond, counter]
    · simp [handle, respond, answered_more s call, text]
    · simp [handle, respond, SearchNewsViewModel.query, text, trimmed]

theorem stage_step (reaches : SearchNewsViewModel.Reaches isURL) {e : SearchEvent}
    (stage : Stage server (s, answers)) (shows : Shows (s, answers)) (allowed : s.Allowed e)
    (sequential : Sequential server (s, answers) e) (fresh : StartsAfresh (s, answers) e) :
    Stage server (s.handle isURL e, s.observe e answers) := by
  cases e with
  | updateSearchResults text => exact stage_updateSearchResults stage sequential text
  | searchNews => exact stage_searchNews reaches stage sequential fresh
  | scrollViewDidScroll =>
    exact stage_scrollViewDidScroll reaches stage sequential shows fresh
  | searchBarCancelButtonClicked => exact .idle sequential rfl fun shown => absurd rfl shown
  | respond task result =>
    cases result with
    | failure error => cases sequential
    | success response => exact stage_respond stage allowed sequential

theorem stage_of_reachable (reaches : SearchNewsViewModel.Reaches isURL) {p : Session}
    (h : ((session isURL).given fun p e =>
      Sequential server p e ∧ StartsAfresh p e).Reachable Opened p) : Stage server p := by
  apply h.invariant (Stage server)
  · rintro p rfl
    exact .idle rfl rfl fun shown => absurd rfl shown
  · rintro ⟨s, answers⟩ e p reached stage ⟨allowed, sequential, fresh⟩ stepped
    obtain rfl := session_step.mp stepped
    exact stage_step reaches stage (items_of_answers reached.of_given) allowed sequential fresh

/-- Answers in sequence are for one query. -/
theorem Sequence.query {q : String} {n : Nat} {p : Session} (h : Sequence server q n p) {a : Answer}
    (mem : a ∈ p.2) : a.task.query = q := by
  have asked : a.asked ∈ (List.range' 1 n).map (q, ·) := h.asked ▸ List.mem_map_of_mem mem
  obtain ⟨page, -, same⟩ := List.mem_map.mp asked
  exact (congrArg Prod.fst same).symm

/-- A load-more that is answered in sequence was for the search shown before. -/
theorem query_of_inSequence (stage : Stage server (s, answers)) (quiet : s.dataTasks = [])
    (shown : answers ≠ []) {a : Answer} (query : a.task.query = s.viewModel.query)
    {t : SearchNewsViewController} (free : t.dataTasks = [])
    (sequence : InSequence server (t, answers ++ [a])) :
    s.viewModel.query = s.viewModel.oldQueryString := by
  obtain ⟨q, n, before, -, ⟨-, old, -⟩⟩ := (stage.of_quiet quiet).2 shown
  obtain ⟨q', n', after, -⟩ := sequence free (by simp)
  obtain ⟨first, mem⟩ := List.exists_mem_of_ne_nil answers shown
  have same : q = q' :=
    (before.query mem).symm.trans (after.query (List.mem_append_left _ mem))
  have more : a.task.query = q' :=
    after.query (List.mem_append_right _ (List.mem_singleton_self a))
  rw [← query, more, ← same, old]

/-- A search asks for page 1. -/
theorem searchNews_page {p : Session} (h : (session isURL).Reachable Opened p) :
    ∀ task ∈ p.1.dataTasks, task.call = .searchNews → task.page = 1 := by
  refine h.invariant
    (fun p => ∀ task ∈ p.1.dataTasks, task.call = .searchNews → task.page = 1) ?_ ?_
  · rintro p rfl task mem
    cases mem
  · rintro ⟨s, answers⟩ e p - first - stepped task mem search
    obtain rfl := session_step.mp stepped
    obtain before | ⟨-, -, rfl⟩ | ⟨-, -, -, rfl⟩ := mem_handle_dataTasks mem
    · exact first task before search
    · rfl
    · cases search

end Steps

/-- A search that is answered is in sequence exactly if it has gone out afresh. -/
theorem inSequence_search_iff {isURL : String → Bool} {server : String → Nat → List News}
    {p p' : Session} (reached : (session isURL).Reachable Opened p) {task : SearchTask}
    {response : Response News} (tasks : p.1.dataTasks = [task]) (call : task.call = .searchNews)
    (page : response.articles = server task.query task.page)
    (stepped : (session isURL).step p (.respond task (.success response)) = some p') :
    InSequence server p' ↔
      p.1.viewModel.currentPage = 1 ∧ p.1.viewModel.canLoadMore = true := by
  obtain ⟨s, answers⟩ := p
  obtain rfl := session_step.mp stepped
  dsimp only at tasks
  have first := searchNews_page reached task (by simp [tasks]) call
  constructor
  · intro sequence
    obtain ⟨q, n, ⟨asked, -, ended⟩, counter⟩ := sequence (by simp [handle, respond, tasks])
      (by simp [observe, call])
    have one : n = 1 := by simpa [observe, call] using (congrArg List.length asked).symm
    refine ⟨by simpa [handle, respond, one] using counter, ?_⟩
    by_contra off
    obtain ⟨a, mem, more, -⟩ := ended (by
      simpa [handle, respond, answered_search s call] using off)
    simp [observe, call] at mem
    simp [mem, call] at more
  · rintro ⟨counter, more⟩ - -
    dsimp only at counter more
    refine ⟨task.query, 1, ⟨?_, ?_, ?_⟩, ?_⟩
    · simp [observe, call, Answer.asked, first]
    · simp [handle, respond, answered_search s call, page, first]
    · simp [handle, respond, answered_search s call, more]
    · simp [handle, respond, counter]

/-- **Searches in sequence.** In every sequential run whose searches start afresh, what a
search shows is its pages 1 to `currentPage`. A search that does not start afresh is out of
sequence as soon as it answers, and so is a load-more that is not for the search shown. -/
theorem search_pages_in_order (isURL : String → Bool) (server : String → Nat → List News)
    (p : Session) (reaches : SearchNewsViewModel.Reaches isURL) :
    (((session isURL).given fun p e => Sequential server p e ∧ StartsAfresh p e).Reachable
      Opened p → InSequence server p) ∧
    (((session isURL).given (Sequential server)).Reachable Opened p →
      ∀ task response p', p.1.dataTasks = [task] → task.call = .searchNews →
        task.Served server (.success response) →
        (session isURL).step p (.respond task (.success response)) = some p' →
        (InSequence server p' ↔
          p.1.viewModel.currentPage = 1 ∧ p.1.viewModel.canLoadMore = true)) ∧
    (((session isURL).given fun p e => Sequential server p e ∧ StartsAfresh p e).Reachable
      Opened p → ∀ task response p' p'', p.1.dataTasks = [] →
        (session isURL).step p .scrollViewDidScroll = some p' → p'.1.dataTasks = [task] →
        task.Served server (.success response) →
        (session isURL).step p' (.respond task (.success response)) = some p'' →
        (InSequence server p'' ↔
          p.1.viewModel.query = p.1.viewModel.oldQueryString)) := by
  refine ⟨fun h => (stage_of_reachable reaches h).inSequence, ?_, ?_⟩
  · intro h task response p' tasks call served stepped
    exact inSequence_search_iff h.of_given tasks call served stepped
  · intro h task response p' p'' quiet scrolled tasks served answered
    constructor
    · intro sequence
      obtain ⟨s, answers⟩ := p
      obtain rfl := session_step.mp scrolled
      obtain rfl := session_step.mp answered
      have shows : Shows (s, answers) := items_of_answers h.of_given
      obtain before | ⟨other, -⟩ | ⟨-, can, named, rfl⟩ :=
        mem_handle_dataTasks (tasks ▸ List.mem_singleton_self task)
      · cases quiet ▸ before
      · cases other
      · have shown : answers ≠ [] := by
          rintro rfl
          exact can.1 shows
        refine query_of_inSequence (stage_of_reachable reaches h) quiet shown rfl ?_ sequence
        simp only [handle, respond] at tasks ⊢
        simp [tasks]
    · intro query
      let answer : SearchEvent := .respond task (.success response)
      have out : task ∈ p'.1.dataTasks := tasks ▸ List.mem_singleton_self task
      have asks : (session isURL).allowed p .scrollViewDidScroll ∧
          Sequential server p .scrollViewDidScroll ∧ StartsAfresh p .scrollViewDidScroll :=
        ⟨trivial, quiet, fun _ _ _ => query⟩
      have answers : (session isURL).allowed p' answer ∧ Sequential server p' answer ∧
          StartsAfresh p' answer :=
        ⟨out, served, trivial⟩
      have last := (h.next asks scrolled).next answers answered
      exact (stage_of_reachable reaches last).inSequence

theorem reaches_anyURL : SearchNewsViewModel.Reaches anyURL := fun _ _ _ _ => rfl

/-- Two pages of one article for every query, and none after. -/
def twoPages (q : String) : Nat → List News
  | 1 => [{ titleNews := some q, urlNews := some "https://a.example/1" }]
  | 2 => [{ titleNews := some q, urlNews := some "https://a.example/2" }]
  | _ => []

instance (server : String → Nat → List News) (task : SearchTask) (result : APIResult News) :
    Decidable (task.Served server result) :=
  match result with
  | .failure _ => .isFalse id
  | .success response =>
    inferInstanceAs (Decidable (response.articles = server task.query task.page))

instance (server : String → Nat → List News) (p : Session) :
    (e : SearchEvent) → Decidable (Sequential server p e)
  | .respond task result => inferInstanceAs (Decidable (task.Served server result))
  | .updateSearchResults _ | .searchNews | .scrollViewDidScroll | .searchBarCancelButtonClicked =>
    inferInstanceAs (Decidable (p.1.dataTasks = []))

instance (p : Session) : (e : SearchEvent) → Decidable (StartsAfresh p e)
  | .searchNews => inferInstanceAs (Decidable (p.1.viewModel.query ≠ "" →
    p.1.viewModel.currentPage = 1 ∧ p.1.viewModel.canLoadMore = true))
  | .scrollViewDidScroll => inferInstanceAs (Decidable (p.1.searchIsScheduled = true →
    p.1.CanAsk → p.1.viewModel.query ≠ "" →
    p.1.viewModel.query = p.1.viewModel.oldQueryString))
  | .updateSearchResults _ | .searchBarCancelButtonClicked | .respond .. => .isTrue trivial

/-- Page 1 of mars is found, and with it page 2. -/
def marsPages : List SearchEvent :=
  [.updateSearchResults (some "mars"), .searchNews,
    .respond ⟨0, .searchNews, "mars", 1⟩ (.success ⟨"ok", twoPages "mars" 1⟩),
    .scrollViewDidScroll,
    .respond ⟨1, .loadMoreSearchNews, "mars", 2⟩ (.success ⟨"ok", twoPages "mars" 2⟩)]

/-- Both pages of mars are shown. -/
def marsShown : Session :=
  (((session anyURL).given fun p e => Sequential twoPages p e ∧ StartsAfresh p e).run ({}, [])
    marsPages).getD ({}, [])

/-- A search for venus is outstanding after the two pages of mars. -/
def venusAsked : Session :=
  (((session anyURL).given (Sequential twoPages)).run ({}, [])
    (marsPages ++ [.updateSearchResults (some "venus"), .searchNews])).getD ({}, [])

theorem venusAsked_reachable :
    ((session anyURL).given (Sequential twoPages)).Reachable Opened venusAsked :=
  Machine.reachable_getD _ rfl (by decide)

/-- Venus is typed over page 1 of mars, and the screen scrolls before the search goes out. -/
def venusOverMars : Session :=
  (((session anyURL).given fun p e => Sequential twoPages p e ∧ StartsAfresh p e).run ({}, [])
    [.updateSearchResults (some "mars"), .searchNews,
      .respond ⟨0, .searchNews, "mars", 1⟩ (.success ⟨"ok", twoPages "mars" 1⟩),
      .updateSearchResults (some "venus")]).getD ({}, [])

theorem search_pages_in_order_mars :
    InSequence twoPages marsShown ∧ marsShown.1.viewModel.searchItems =
      twoPages "mars" 1 ++ twoPages "mars" 2 ∧
    (∀ p', (session anyURL).step venusAsked
        (.respond ⟨2, .searchNews, "venus", 1⟩ (.success ⟨"ok", twoPages "venus" 1⟩)) = some p' →
      ¬ InSequence twoPages p') ∧
    ∀ p' p'', (session anyURL).step venusOverMars .scrollViewDidScroll = some p' →
      p'.1.dataTasks = [⟨1, .loadMoreSearchNews, "venus", 2⟩] →
      (session anyURL).step p' (.respond ⟨1, .loadMoreSearchNews, "venus", 2⟩
        (.success ⟨"ok", twoPages "venus" 2⟩)) = some p'' →
      ¬ InSequence twoPages p'' := by
  obtain ⟨inOrder, -, -⟩ := search_pages_in_order anyURL twoPages marsShown reaches_anyURL
  obtain ⟨-, search, -⟩ := search_pages_in_order anyURL twoPages venusAsked reaches_anyURL
  obtain ⟨-, -, more⟩ := search_pages_in_order anyURL twoPages venusOverMars reaches_anyURL
  refine ⟨inOrder (Machine.reachable_getD _ rfl (by decide)), by decide, ?_, ?_⟩
  · intro p' stepped
    rw [search venusAsked_reachable ⟨2, .searchNews, "venus", 1⟩ ⟨"ok", twoPages "venus" 1⟩ p'
      (by decide) rfl rfl stepped]
    decide
  · intro p' p'' scrolled tasks answered
    rw [more (Machine.reachable_getD _ rfl (by decide)) ⟨1, .loadMoreSearchNews, "venus", 2⟩
      ⟨"ok", twoPages "venus" 2⟩ p' p'' (by decide) scrolled tasks rfl answered]
    decide

/-- The search for venus answers: its page 1 is shown with the counter at 2. -/
def venusShown : Session :=
  (((session anyURL).given (Sequential twoPages)).run ({}, [])
    (marsPages ++ [.updateSearchResults (some "venus"), .searchNews,
      .respond ⟨2, .searchNews, "venus", 1⟩ (.success ⟨"ok", twoPages "venus" 1⟩)])).getD ({}, [])

theorem second_search_skips_a_page :
    ¬ ∀ p, ((session anyURL).given (Sequential twoPages)).Reachable Opened p →
      InSequence twoPages p := by
  intro inSequence
  obtain ⟨q, n, ⟨asked, -, -⟩, counter⟩ :=
    inSequence venusShown (Machine.reachable_getD _ rfl (by decide)) (by decide) (by decide)
  have one : n = 1 := by
    have length := congrArg List.length asked
    rw [List.length_map, List.length_map, List.length_range'] at length
    exact length.symm
  rw [one] at counter
  revert counter
  decide

end SearchNewsViewController

end NewsReader
