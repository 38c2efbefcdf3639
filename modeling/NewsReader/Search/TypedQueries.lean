import NewsReader.Search.Homogeneity

/-!
# Typed queries

A typed query is searched for by a timer, unless `oldQueryString` or the lock
suppresses the search. Neither is kept up with what is shown: Cancel clears the
items and keeps `oldQueryString`. A run loses no query when what is suppressed is
shown or asked for already (`no_query_lost`).
-/

namespace NewsReader

namespace SearchNewsViewController

/-- What is shown is the results of a search for `q`, with more pages of it. -/
def ShowsResultsOf (q : String) : List Answer → Prop
  | [] => False
  | a :: more => a.task.call = .searchNews ∧ a.task.query = q ∧
    ∀ b ∈ more, b.articles ≠ [] → b.task.query = q

instance (q : String) : (answers : List Answer) → Decidable (ShowsResultsOf q answers)
  | [] => .isFalse id
  | a :: more => inferInstanceAs (Decidable (a.task.call = .searchNews ∧ a.task.query = q ∧
    ∀ b ∈ more, b.articles ≠ [] → b.task.query = q))

/-- With no search scheduled and no task outstanding, the results shown are those
of the query typed. -/
def NothingLost (p : Session) : Prop :=
  p.1.searchIsScheduled = false → p.1.dataTasks = [] → p.1.viewModel.query ≠ "" →
    ShowsResultsOf p.1.viewModel.query p.2

instance (p : Session) : Decidable (NothingLost p) := by
  unfold NothingLost
  infer_instance

/-- The results of `q` are shown, or will be once the task outstanding answers. Results that
a search for another query will replace do not count, nor does a load-more of `q` over the
items of another query. -/
def Served (q : String) (p : Session) : Prop :=
  match p.1.dataTasks with
  | [] => ShowsResultsOf q p.2
  | [task] => task.query = q ∧ (task.call = .searchNews ∨ ShowsResultsOf q p.2)
  | _ => False

instance (q : String) (p : Session) : Decidable (Served q p) := by
  unfold Served
  split <;> infer_instance

/-- Every answer is a success. -/
def Succeeds (_ : Session) : SearchEvent → Prop
  | .respond _ (.failure _) => False
  | _ => True

instance (p : Session) : (e : SearchEvent) → Decidable (Succeeds p e)
  | .respond _ (.failure _) => .isFalse id
  | .respond _ (.success _) | .updateSearchResults _ | .searchNews | .scrollViewDidScroll
  | .searchBarCancelButtonClicked => .isTrue trivial

/-- A search is suppressed only when its results are shown or asked for, and
Cancel is pressed with no task outstanding and nothing typed or a search to come. -/
def Heeds (p : Session) : SearchEvent → Prop
  | .updateSearchResults (some text) => text = p.1.viewModel.oldQueryString →
    trimmingCharacters text ≠ "" → Served (trimmingCharacters text) p
  | .searchNews => p.1.viewModel.isLoading = true → p.1.viewModel.query ≠ "" →
    Served p.1.viewModel.query p
  | .searchBarCancelButtonClicked =>
    p.1.dataTasks = [] ∧ (p.1.viewModel.query = "" ∨ p.1.searchIsScheduled = true)
  | _ => True

instance (p : Session) : (e : SearchEvent) → Decidable (Heeds p e)
  | .updateSearchResults (some text) => inferInstanceAs (Decidable (
    text = p.1.viewModel.oldQueryString → trimmingCharacters text ≠ "" →
      Served (trimmingCharacters text) p))
  | .searchNews => inferInstanceAs (Decidable (p.1.viewModel.isLoading = true →
    p.1.viewModel.query ≠ "" → Served p.1.viewModel.query p))
  | .searchBarCancelButtonClicked => inferInstanceAs (Decidable (
    p.1.dataTasks = [] ∧ (p.1.viewModel.query = "" ∨ p.1.searchIsScheduled = true)))
  | .updateSearchResults none | .scrollViewDidScroll | .respond .. => .isTrue trivial

/-- What is typed is scheduled or served. -/
structure Kept (p : Session) : Prop where
  locked : p.1.Locked
  typed : p.1.viewModel.query ≠ "" → p.1.searchIsScheduled = false → Served p.1.viewModel.query p

section Steps

variable {isURL : String → Bool} {s : SearchNewsViewController} {answers : List Answer}

theorem served_of_quiet {q : String} {p : Session} (quiet : p.1.dataTasks = []) :
    Served q p ↔ ShowsResultsOf q p.2 := by
  rw [Served, quiet]

theorem served_of_only {q : String} {p : Session} {task : SearchTask}
    (only : p.1.dataTasks = [task]) :
    Served q p ↔ task.query = q ∧ (task.call = .searchNews ∨ ShowsResultsOf q p.2) := by
  rw [Served, only]

theorem Kept.nothingLost {p : Session} (h : Kept p) : NothingLost p := fun unscheduled quiet named =>
  (served_of_quiet quiet).mp (h.typed named unscheduled)

/-- Only a text that is blank or searched for last schedules no search. -/
theorem updateSearchResults_unscheduled {text : String}
    (unscheduled : (s.updateSearchResults (some text)).searchIsScheduled = false) :
    text = s.viewModel.oldQueryString ∨ text = "" := by
  simp only [updateSearchResults, decide_eq_false_iff_not] at unscheduled
  by_contra other
  exact unscheduled ⟨fun h => other (Or.inl h), fun h => other (Or.inr h)⟩

theorem kept_updateSearchResults (h : Kept (s, answers)) (text : Option String)
    (heeds : Heeds (s, answers) (.updateSearchResults text)) :
    Kept (s.updateSearchResults text, answers) := by
  cases text with
  | none => exact h
  | some text =>
    refine ⟨locked_updateSearchResults h.locked (some text), fun named unscheduled => ?_⟩
    obtain same | rfl := updateSearchResults_unscheduled unscheduled
    · exact heeds same named
    · exact absurd trimmingCharacters_empty named

theorem kept_searchNews (reaches : SearchNewsViewModel.Reaches isURL) (h : Kept (s, answers))
    (allowed : s.Allowed .searchNews) (heeds : Heeds (s, answers) .searchNews) :
    Kept (s.handle isURL .searchNews, answers) := by
  refine ⟨locked_step h.locked allowed trivial, fun named _ => ?_⟩
  obtain ⟨held, fired⟩ | ⟨-, blank, fired⟩ | ⟨flag, -, fired⟩ := searchNews_cases isURL
    { s with searchIsScheduled := false }
  · rw [handle, fired] at named ⊢
    exact heeds held named
  · rw [handle, fired, unsent_query] at named
    exact absurd (blank reaches) named
  · have quiet : ({ s with searchIsScheduled := false } : SearchNewsViewController).dataTasks = [] :=
      h.locked.free_of flag
    rw [handle, fired, awaiting_query,
      served_of_only (awaiting_dataTasks quiet .searchNews 1 s.viewModel.currentPage)]
    exact ⟨rfl, Or.inl rfl⟩

theorem kept_scrollViewDidScroll (reaches : SearchNewsViewModel.Reaches isURL)
    (h : Kept (s, answers)) : Kept (s.handle isURL .scrollViewDidScroll, answers) := by
  refine ⟨locked_step (e := .scrollViewDidScroll) h.locked trivial trivial, ?_⟩
  intro named unscheduled
  obtain ⟨-, scrolled⟩ | ⟨-, page, blank, scrolled⟩ | ⟨asks, -, scrolled⟩ :=
    scrollViewDidScroll_cases isURL s
  · rw [handle, scrolled] at named unscheduled ⊢
    exact h.typed named unscheduled
  · rw [handle, scrolled, unsent_query] at named
    exact absurd (blank reaches).1 named
  · rw [handle, scrolled] at named unscheduled ⊢
    rw [awaiting_query] at named ⊢
    have quiet : s.dataTasks = [] := h.locked.free_of asks.2.1
    have shown : ShowsResultsOf s.viewModel.query answers :=
      (served_of_quiet (p := (s, answers)) quiet).mp (h.typed named unscheduled)
    rw [served_of_only (awaiting_dataTasks quiet _ _ _)]
    exact ⟨rfl, Or.inr shown⟩

/-- A load-more of the query shown adds to its results. -/
theorem ShowsResultsOf.append {q : String} (h : ShowsResultsOf q answers) {a : Answer}
    (same : a.task.query = q) : ShowsResultsOf q (answers ++ [a]) := by
  cases answers with
  | nil => cases h
  | cons first more =>
    obtain ⟨search, query, rest⟩ := h
    refine ⟨search, query, fun b mem full => ?_⟩
    obtain before | last := List.mem_append.mp mem
    · exact rest b before full
    · exact List.mem_singleton.mp last ▸ same

theorem kept_respond (h : Kept (s, answers)) {task : SearchTask} (mem : task ∈ s.dataTasks)
    (response : Response News) :
    Kept (s.handle isURL (.respond task (.success response)),
      s.observe (.respond task (.success response)) answers) := by
  have only : s.dataTasks = [task] := h.locked.only mem
  have none : (s.handle isURL (.respond task (.success response))).dataTasks = [] := by
    simp [handle, respond, only]
  have same : (s.handle isURL (.respond task (.success response))).viewModel.query =
      s.viewModel.query := congrArg trimmingCharacters (answered_queryString s _)
  refine ⟨locked_respond h.locked mem _, fun named unscheduled => ?_⟩
  dsimp only at named unscheduled ⊢
  rw [same] at named ⊢
  obtain ⟨query, before⟩ :=
    (served_of_only (p := (s, answers)) only).mp (h.typed named unscheduled)
  rw [served_of_quiet none]
  cases call : task.call with
  | searchNews =>
    simp only [observe, call]
    exact ⟨call, query, by simp⟩
  | loadMoreSearchNews =>
    simp only [observe, call]
    exact (before.resolve_left (by simp [call])).append query

theorem kept_step (reaches : SearchNewsViewModel.Reaches isURL) {e : SearchEvent}
    (h : Kept (s, answers)) (allowed : s.Allowed e) (succeeds : Succeeds (s, answers) e)
    (heeds : Heeds (s, answers) e) : Kept (s.handle isURL e, s.observe e answers) := by
  cases e with
  | updateSearchResults text => exact kept_updateSearchResults h text heeds
  | searchNews => exact kept_searchNews reaches h allowed heeds
  | scrollViewDidScroll => exact kept_scrollViewDidScroll reaches h
  | searchBarCancelButtonClicked =>
    obtain ⟨quiet, blank | scheduled⟩ := heeds
    · exact ⟨.free quiet rfl, fun named => absurd blank named⟩
    · exact ⟨.free quiet rfl, fun _ unscheduled => nomatch scheduled.symm.trans unscheduled⟩
  | respond task result =>
    cases result with
    | failure error => cases succeeds
    | success response => exact kept_respond h allowed response

theorem kept_of_reachable (reaches : SearchNewsViewModel.Reaches isURL) {p : Session}
    (h : ((session isURL).given fun p e => Succeeds p e ∧ Heeds p e).Reachable Opened p) :
    Kept p := by
  apply h.invariant Kept
  · rintro p rfl
    exact ⟨.free rfl rfl, fun named => absurd trimmingCharacters_empty named⟩
  · rintro ⟨s, answers⟩ e p - kept ⟨allowed, succeeds, heeds⟩ stepped
    obtain rfl := session_step.mp stepped
    exact kept_step reaches kept allowed succeeds heeds

end Steps

/-- **No query is lost** in every run that suppresses only searches whose results
are shown or asked for. With no task outstanding, any other step loses one at once. -/
theorem no_query_lost (isURL : String → Bool) (p : Session)
    (reaches : SearchNewsViewModel.Reaches isURL) :
    (((session isURL).given fun p e => Succeeds p e ∧ Heeds p e).Reachable Opened p →
      NothingLost p) ∧
    (((session isURL).given fun p e => Succeeds p e ∧ Heeds p e).Reachable Opened p →
      p.1.dataTasks = [] → ∀ e p', ¬ Heeds p e → (session isURL).step p e = some p' →
      ¬ NothingLost p') := by
  refine ⟨fun h => (kept_of_reachable reaches h).nothingLost, fun h quiet e p' heedless stepped => ?_⟩
  have kept := kept_of_reachable reaches h
  obtain ⟨s, answers⟩ := p
  obtain rfl := session_step.mp stepped
  intro nothingLost
  apply heedless
  cases e with
  | updateSearchResults text =>
    cases text with
    | none => trivial
    | some text =>
      intro same named
      have unscheduled : (s.updateSearchResults (some text)).searchIsScheduled = false :=
        decide_eq_false fun other => other.1 same
      exact (served_of_quiet quiet).mpr (nothingLost unscheduled quiet named)
  | searchNews =>
    intro held
    cases kept.locked with
    | free _ flag => exact nomatch held.symm.trans flag
    | held task tasks => exact nomatch tasks.symm.trans quiet
  | scrollViewDidScroll => trivial
  | searchBarCancelButtonClicked =>
    refine ⟨quiet, ?_⟩
    by_contra neither
    obtain ⟨named, scheduled⟩ := not_or.mp neither
    have unscheduled : s.searchIsScheduled = false := by simpa using scheduled
    exact nothingLost unscheduled quiet named
  | respond task result => trivial

/-- Mars is found, then the text is cleared and Cancel pressed. -/
def marsCleared : List SearchEvent :=
  [.updateSearchResults (some "mars"), .searchNews,
    .respond ⟨0, .searchNews, "mars", 1⟩ (.success ⟨"ok", twoPages "mars" 1⟩),
    .updateSearchResults (some ""), .searchBarCancelButtonClicked]

/-- The results of mars are shown. -/
def marsFound : Session :=
  (((session anyURL).given fun p e => Succeeds p e ∧ Heeds p e).run ({}, [])
    (marsCleared.take 3)).getD ({}, [])

/-- Nothing is typed and nothing shown, but `oldQueryString` is still mars. -/
def marsCancelled : Session :=
  (((session anyURL).given fun p e => Succeeds p e ∧ Heeds p e).run ({}, [])
    marsCleared).getD ({}, [])

theorem marsCancelled_reachable :
    ((session anyURL).given fun p e => Succeeds p e ∧ Heeds p e).Reachable Opened marsCancelled :=
  Machine.reachable_getD _ rfl (by decide)

theorem no_query_lost_mars :
    (marsFound.1.viewModel.query = "mars" ∧ marsFound.1.dataTasks = [] ∧ NothingLost marsFound) ∧
    ∀ p', (session anyURL).step marsCancelled (.updateSearchResults (some "mars")) = some p' →
      ¬ NothingLost p' := by
  obtain ⟨kept, -⟩ := no_query_lost anyURL marsFound reaches_anyURL
  obtain ⟨-, lost⟩ := no_query_lost anyURL marsCancelled reaches_anyURL
  refine ⟨⟨by decide, by decide, kept (Machine.reachable_getD _ rfl (by decide))⟩, ?_⟩
  exact fun p' => lost marsCancelled_reachable (by decide) _ p' (by decide)

/-- Mars is typed again. -/
def marsRetyped : Session :=
  (((session anyURL).given Succeeds).run ({}, [])
    (marsCleared ++ [.updateSearchResults (some "mars")])).getD ({}, [])

theorem retyped_query_is_lost :
    ¬ ∀ p, ((session anyURL).given Succeeds).Reachable Opened p → NothingLost p := by
  intro nothingLost
  have kept := nothingLost marsRetyped (Machine.reachable_getD _ rfl (by decide))
  revert kept
  decide

end SearchNewsViewController

end NewsReader
