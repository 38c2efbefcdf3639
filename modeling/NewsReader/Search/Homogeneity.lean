import NewsReader.Search.Paging

/-!
# One query at a time

A load-more asks for whatever is typed when the screen scrolls, and Cancel leaves
tasks running. Only a load-more for the query already shown, and a Cancel with no
task outstanding, keep all items from one query (`items_of_one_query`).
-/

namespace NewsReader

namespace SearchNewsViewController

/-- The answers that brought articles are all for one query. -/
def Homogeneous (p : Session) : Prop :=
  ∃ q, ∀ a ∈ p.2, a.articles ≠ [] → a.task.query = q

/-- A scroll asks for more of the query that is shown, and Cancel is pressed with
no task outstanding. -/
def AsksForShown (p : Session) : SearchEvent → Prop
  | .scrollViewDidScroll => p.1.CanAsk → p.1.viewModel.query ≠ "" →
    ∀ a ∈ p.2, a.articles ≠ [] → a.task.query = p.1.viewModel.query
  | .searchBarCancelButtonClicked => p.1.dataTasks = []
  | _ => True

instance (p : Session) : (e : SearchEvent) → Decidable (AsksForShown p e)
  | .scrollViewDidScroll => inferInstanceAs (Decidable (p.1.CanAsk → p.1.viewModel.query ≠ "" →
    ∀ a ∈ p.2, a.articles ≠ [] → a.task.query = p.1.viewModel.query))
  | .searchBarCancelButtonClicked => inferInstanceAs (Decidable (p.1.dataTasks = []))
  | .updateSearchResults _ | .searchNews | .respond .. => .isTrue trivial

/-- A load-more that is outstanding asks for what is shown. -/
structure OneQuery (p : Session) : Prop where
  locked : p.1.Locked
  homogeneous : Homogeneous p
  more : ∀ task ∈ p.1.dataTasks, task.call = .loadMoreSearchNews →
    ∀ a ∈ p.2, a.articles ≠ [] → a.task.query = task.query

section Steps

variable {isURL : String → Bool} {s : SearchNewsViewController} {answers : List Answer}

theorem oneQuery_respond (h : OneQuery (s, answers)) {task : SearchTask}
    (mem : task ∈ s.dataTasks) (result : APIResult News) :
    OneQuery (s.handle isURL (.respond task result),
      s.observe (.respond task result) answers) := by
  have locked : (s.handle isURL (.respond task result)).Locked :=
    locked_step h.locked mem trivial
  have only : s.dataTasks = [task] := h.locked.only mem
  have none : (s.handle isURL (.respond task result)).dataTasks = [] := by
    simp [handle, respond, only]
  refine ⟨locked, ?_, by simp [none]⟩
  cases result with
  | failure error => exact h.homogeneous
  | success response =>
    cases call : task.call with
    | searchNews => exact ⟨task.query, by simp [observe, call]⟩
    | loadMoreSearchNews =>
      refine ⟨task.query, fun a shown some => ?_⟩
      simp only [observe, call, List.mem_append, List.mem_singleton] at shown
      obtain before | rfl := shown
      · exact h.more task mem call a before some
      · rfl

theorem oneQuery_step {e : SearchEvent} (h : OneQuery (s, answers)) (allowed : s.Allowed e)
    (asks : AsksForShown (s, answers) e) :
    OneQuery (s.handle isURL e, s.observe e answers) := by
  have locked : s.CancelsIdle e → (s.handle isURL e).Locked := locked_step h.locked allowed
  have more (kept : s.observe e answers = answers) : ∀ task ∈ (s.handle isURL e).dataTasks,
      task.call = .loadMoreSearchNews →
      ∀ a ∈ s.observe e answers, a.articles ≠ [] → a.task.query = task.query := by
    intro task mem call
    rw [kept]
    obtain before | ⟨-, -, rfl⟩ | ⟨rfl, can, named, rfl⟩ := mem_handle_dataTasks mem
    · exact h.more task before call
    · cases call
    · exact asks can named
  cases e with
  | updateSearchResults text => exact ⟨locked trivial, h.homogeneous, more rfl⟩
  | searchNews => exact ⟨locked trivial, h.homogeneous, more rfl⟩
  | scrollViewDidScroll => exact ⟨locked trivial, h.homogeneous, more rfl⟩
  | searchBarCancelButtonClicked =>
    exact ⟨locked asks, ⟨"", by simp [observe]⟩, by simp [observe]⟩
  | respond task result => exact oneQuery_respond h allowed result

theorem oneQuery_of_reachable {p : Session}
    (h : ((session isURL).given AsksForShown).Reachable Opened p) : OneQuery p := by
  apply h.invariant OneQuery
  · rintro p rfl
    exact ⟨.free rfl rfl, ⟨"", by simp⟩, by simp⟩
  · rintro ⟨s, answers⟩ e p - one ⟨allowed, asks⟩ stepped
    obtain rfl := session_step.mp stepped
    exact oneQuery_step one allowed asks

/-- A load-more for another query than the one shown mixes the two when it brings
articles. -/
theorem mixed_by_scroll (one : OneQuery (s, answers)) {task : SearchTask} {response : Response News}
    (other : ¬ AsksForShown (s, answers) .scrollViewDidScroll)
    (mem : task ∈ (s.handle isURL .scrollViewDidScroll).dataTasks)
    (some : response.articles ≠ []) (t : SearchNewsViewController) :
    ¬ Homogeneous (t, (s.handle isURL .scrollViewDidScroll).observe
      (.respond task (.success response)) answers) := by
  simp only [AsksForShown, not_forall] at other
  obtain ⟨can, -, a, shown, full, different⟩ := other
  have quiet : s.dataTasks = [] := one.locked.free_of can.2.1
  obtain before | ⟨wrong, -⟩ | ⟨-, -, -, rfl⟩ := mem_handle_dataTasks mem
  · simp [quiet] at before
  · cases wrong
  · rintro ⟨q, same⟩
    apply different
    rw [same a (List.mem_append_left _ shown) full]
    have added := same ⟨⟨s.nextTaskIdentifier, .loadMoreSearchNews, s.viewModel.query,
      s.viewModel.currentPage + 1⟩, response.articles⟩ (by simp [observe]) some
    exact added.symm

end Steps

/-- **Items of one query** in every run whose load-mores ask for what is shown and
whose Cancels find no task outstanding. A load-more that asks for another query
mixes the two as soon as it brings articles. -/
theorem items_of_one_query (isURL : String → Bool) (p : Session) :
    (((session isURL).given AsksForShown).Reachable Opened p →
      p.1.viewModel.searchItems = p.2.flatMap (·.articles) ∧ Homogeneous p) ∧
    (((session isURL).given AsksForShown).Reachable Opened p →
      ¬ AsksForShown p .scrollViewDidScroll →
      ∀ task response p' p'', (session isURL).step p .scrollViewDidScroll = some p' →
        task ∈ p'.1.dataTasks → response.articles ≠ [] →
        (session isURL).step p' (.respond task (.success response)) = some p'' →
        ¬ Homogeneous p'') := by
  constructor
  · intro h
    exact ⟨items_of_answers h.of_given, (oneQuery_of_reachable h).homogeneous⟩
  · obtain ⟨s, answers⟩ := p
    intro h other task response p' p'' scrolled mem some answered
    obtain rfl := session_step.mp scrolled
    obtain rfl := session_step.mp answered
    exact mixed_by_scroll (oneQuery_of_reachable h) other mem some _

/-- Page 1 of mars is shown; venus is typed, and its search has not gone off. -/
def venusTyped : Session :=
  (((session anyURL).given AsksForShown).run ({}, [])
    [.updateSearchResults (some "mars"), .searchNews,
      .respond ⟨0, .searchNews, "mars", 1⟩ (.success ⟨"ok", twoPages "mars" 1⟩),
      .updateSearchResults (some "venus")]).getD ({}, [])

theorem venusTyped_reachable : ((session anyURL).given AsksForShown).Reachable Opened venusTyped :=
  Machine.reachable_getD _ rfl (by decide)

theorem items_of_one_query_venusTyped :
    Homogeneous venusTyped ∧ venusTyped.1.viewModel.searchItems = twoPages "mars" 1 ∧
    ∀ p' p'', (session anyURL).step venusTyped .scrollViewDidScroll = some p' →
      ⟨1, .loadMoreSearchNews, "venus", 2⟩ ∈ p'.1.dataTasks →
      (session anyURL).step p' (.respond ⟨1, .loadMoreSearchNews, "venus", 2⟩
        (.success ⟨"ok", twoPages "venus" 2⟩)) = some p'' →
      ¬ Homogeneous p'' := by
  obtain ⟨one, mixed⟩ := items_of_one_query anyURL venusTyped
  refine ⟨(one venusTyped_reachable).2, by decide, fun p' p'' scrolled mem answered => ?_⟩
  exact mixed venusTyped_reachable (by decide) _ ⟨"ok", twoPages "venus" 2⟩ p' p'' scrolled mem
    (by decide) answered

/-- The screen scrolls before the search for venus goes off. -/
def venusMixed : Session :=
  ((session anyURL).run venusTyped
    [.scrollViewDidScroll,
      .respond ⟨1, .loadMoreSearchNews, "venus", 2⟩ (.success ⟨"ok", twoPages "venus" 2⟩)]).getD
    ({}, [])

theorem scroll_before_search_mixes :
    ¬ ∀ p, (session anyURL).Reachable Opened p → Homogeneous p := by
  intro homogeneous
  have reached : (session anyURL).Reachable Opened venusMixed := by
    obtain ⟨p, ran⟩ := Option.isSome_iff_exists.mp
      (show ((session anyURL).run venusTyped [.scrollViewDidScroll, .respond
        ⟨1, .loadMoreSearchNews, "venus", 2⟩ (.success ⟨"ok", twoPages "venus" 2⟩)]).isSome = true by
          decide)
    rw [venusMixed, ran]
    exact venusTyped_reachable.of_given.run ran
  obtain ⟨q, same⟩ := homogeneous venusMixed reached
  have mars := same ⟨⟨0, .searchNews, "mars", 1⟩, twoPages "mars" 1⟩ (by decide) (by decide)
  have venus := same ⟨⟨1, .loadMoreSearchNews, "venus", 2⟩, twoPages "venus" 2⟩ (by decide)
    (by decide)
  exact absurd (mars.trans venus.symm) (by decide)

end SearchNewsViewController

end NewsReader
