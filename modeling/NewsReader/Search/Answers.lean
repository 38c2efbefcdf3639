import NewsReader.Search.SearchNewsViewController

/-!
# The answers on screen

The screen does not record which requests its items came from. The session keeps
that beside it: the answers whose articles are shown, in the order they came
(`items_of_answers`). It also has the lock of the screen: unless Cancel frees it
under an outstanding task, `isLoading` is set exactly while one task is.
-/

namespace NewsReader

/-- What a data task brought. -/
structure Answer where
  task : SearchTask
  articles : List News
  deriving DecidableEq, Repr

abbrev Session := SearchNewsViewController × List Answer

namespace SearchNewsViewController

/-- A search replaces what is shown, a load-more adds to it, Cancel clears it. -/
def observe (_ : SearchNewsViewController) : SearchEvent → List Answer → List Answer
  | .respond task (.success response), answers =>
    match task.call with
    | .searchNews => [⟨task, response.articles⟩]
    | .loadMoreSearchNews => answers ++ [⟨task, response.articles⟩]
  | .searchBarCancelButtonClicked, _ => []
  | _, answers => answers

def session (isURL : String → Bool) : Machine Session SearchEvent :=
  (machine isURL).observed observe

instance (isURL : String → Bool) (p : Session) (e : SearchEvent) :
    Decidable ((session isURL).allowed p e) :=
  inferInstanceAs (Decidable (p.1.Allowed e))

/-- The screen as it first appears: nothing typed, nothing shown. -/
def Opened (p : Session) : Prop := p = ({}, [])

variable {isURL : String → Bool} {s : SearchNewsViewController} {answers : List Answer}

theorem session_step {e : SearchEvent} {p : Session} :
    (session isURL).step (s, answers) e = some p ↔
      p = (s.handle isURL e, s.observe e answers) := by
  simp only [session, Machine.observed, machine, Option.map_some, Option.some.injEq]
  exact eq_comm

/-- The states of sessions are those of the screen: every run has its answers. -/
theorem reachable_iff_session : (machine isURL).Reachable (· = {}) s ↔
    ∃ answers, (session isURL).Reachable Opened (s, answers) := by
  constructor
  · intro h
    obtain ⟨answers, reached⟩ : ∃ answers, (session isURL).Reachable
      (fun p => p.1 = {} ∧ p.2 = []) (s, answers) := h.exists_history []
    refine ⟨answers, reached.mono fun p opened => ?_⟩
    exact Prod.ext opened.1 opened.2
  · rintro ⟨answers, h⟩
    refine (h.mono fun p opened => ?_).of_observed
    exact congrArg Prod.fst opened

/-! ## Answers to tasks -/

section Answered

variable (s) (task : SearchTask)

theorem answered_failure (error : APIError) :
    s.answered task (.failure error) = { s.viewModel with isLoading := false } := by
  unfold answered
  cases task.call <;> rfl

variable {task}

theorem answered_search (search : task.call = .searchNews) (response : Response News) :
    s.answered task (.success response) =
      { s.viewModel with
        searchItems := response.articles
        oldQueryString := s.viewModel.queryString
        isLoading := false } := by
  rw [answered, search]
  rfl

theorem answered_more (more : task.call = .loadMoreSearchNews) (response : Response News) :
    s.answered task (.success response) =
      { s.viewModel with
        searchItems := s.viewModel.searchItems ++ response.articles
        oldQueryString := s.viewModel.queryString
        canLoadMore := if response.articles = [] then false else s.viewModel.canLoadMore
        isLoading := false } := by
  rw [answered, more]
  by_cases empty : response.articles = []
  · simp [SearchNewsViewModel.loadMoreSearchNewsResponse, empty]
  · simp [SearchNewsViewModel.loadMoreSearchNewsResponse, empty, List.length_pos_iff.mpr empty]

@[simp] theorem answered_isLoading (result : APIResult News) :
    (s.answered task result).isLoading = false := by
  cases result with
  | failure error => simp [answered_failure]
  | success response =>
    cases call : task.call with
    | searchNews => simp [answered_search s call]
    | loadMoreSearchNews => simp [answered_more s call]

@[simp] theorem answered_queryString (result : APIResult News) :
    (s.answered task result).queryString = s.viewModel.queryString := by
  cases result with
  | failure error => simp [answered_failure]
  | success response =>
    cases call : task.call with
    | searchNews => simp [answered_search s call]
    | loadMoreSearchNews => simp [answered_more s call]

@[simp] theorem answered_currentPage (result : APIResult News) :
    (s.answered task result).currentPage = s.viewModel.currentPage := by
  cases result with
  | failure error => simp [answered_failure]
  | success response =>
    cases call : task.call with
    | searchNews => simp [answered_search s call]
    | loadMoreSearchNews => simp [answered_more s call]

end Answered

/-! ## What is shown -/

/-- The items are the articles of the answers shown. -/
def Shows (p : Session) : Prop := p.1.viewModel.searchItems = p.2.flatMap (·.articles)

theorem items_of_answers {p : Session} (h : (session isURL).Reachable Opened p) : Shows p := by
  apply h.invariant Shows
  · rintro p rfl
    rfl
  · rintro ⟨s, answers⟩ e p - shown - stepped
    obtain rfl := session_step.mp stepped
    have items : s.viewModel.searchItems = answers.flatMap (·.articles) := shown
    cases e with
    | updateSearchResults text => cases text <;> exact items
    | searchNews => simpa [Shows, handle, observe] using items
    | scrollViewDidScroll => simpa [Shows, handle, observe] using items
    | searchBarCancelButtonClicked => rfl
    | respond task result =>
      cases result with
      | failure error => simpa [Shows, handle, respond, answered_failure, observe] using items
      | success response =>
        cases call : task.call with
        | searchNews => simp [Shows, handle, respond, answered_search s call, observe, call]
        | loadMoreSearchNews =>
          simp [Shows, handle, respond, answered_more s call, observe, call, items]

/-- An item was there before, or a response has just brought it. -/
theorem mem_items_handle {e : SearchEvent} {news : News}
    (mem : news ∈ (s.handle isURL e).viewModel.searchItems) :
    news ∈ s.viewModel.searchItems ∨
      ∃ task response, e = .respond task (.success response) ∧ news ∈ response.articles := by
  cases e with
  | updateSearchResults text => cases text <;> exact Or.inl mem
  | searchNews =>
    rw [handle, searchNews_searchItems] at mem
    exact Or.inl mem
  | scrollViewDidScroll =>
    rw [handle, scrollViewDidScroll_searchItems] at mem
    exact Or.inl mem
  | searchBarCancelButtonClicked => cases mem
  | respond task result =>
    cases result with
    | failure error =>
      rw [handle, respond, answered_failure] at mem
      exact Or.inl mem
    | success response =>
      cases call : task.call with
      | searchNews =>
        rw [handle, respond, answered_search s call] at mem
        exact Or.inr ⟨task, response, rfl, mem⟩
      | loadMoreSearchNews =>
        rw [handle, respond, answered_more s call] at mem
        obtain old | new := List.mem_append.mp mem
        · exact Or.inl old
        · exact Or.inr ⟨task, response, rfl, new⟩

/-- A response brings articles as they are decoded. -/
def Decodes (date : String → Option Date) (_ : SearchNewsViewController) : SearchEvent → Prop
  | .respond _ (.success response) => ∀ news ∈ response.articles, news.Decoded date
  | _ => True

theorem items_decoded {date : String → Option Date}
    (h : ((machine isURL).given (Decodes date)).Reachable (· = {}) s) :
    ∀ news ∈ s.viewModel.searchItems, news.Decoded date := by
  apply h.invariant (fun s => ∀ news ∈ s.viewModel.searchItems, news.Decoded date)
  · rintro s rfl news mem
    cases mem
  · intro s e t _ before allowed stepped news mem
    obtain rfl := Option.some.inj stepped
    obtain old | ⟨task, response, rfl, new⟩ := mem_items_handle mem
    · exact before news old
    · exact allowed.2 news new

/-! ## The lock -/

inductive Locked (s : SearchNewsViewController) : Prop
  | free (tasks : s.dataTasks = []) (flag : s.viewModel.isLoading = false)
  | held (task : SearchTask) (tasks : s.dataTasks = [task]) (flag : s.viewModel.isLoading = true)

theorem Locked.congr {t : SearchNewsViewController} (h : s.Locked)
    (tasks : t.dataTasks = s.dataTasks) (flag : t.viewModel.isLoading = s.viewModel.isLoading) :
    t.Locked := by
  cases h with
  | free none idle => exact .free (tasks.trans none) (flag.trans idle)
  | held task one loading => exact .held task (tasks.trans one) (flag.trans loading)

theorem Locked.free_of (h : s.Locked) (flag : s.viewModel.isLoading = false) :
    s.dataTasks = [] := by
  cases h with
  | free tasks => exact tasks
  | held task _ held => exact nomatch held.symm.trans flag

theorem Locked.only (h : s.Locked) {task : SearchTask} (mem : task ∈ s.dataTasks) :
    s.dataTasks = [task] := by
  cases h with
  | free tasks => simp [tasks] at mem
  | held other tasks =>
    rw [tasks, List.mem_singleton] at mem
    rw [tasks, mem]

/-- Cancel is pressed with no task outstanding. -/
def CancelsIdle (s : SearchNewsViewController) : SearchEvent → Prop
  | .searchBarCancelButtonClicked => s.dataTasks = []
  | _ => True

theorem locked_awaiting (h : s.Locked) (flag : s.viewModel.isLoading = false)
    (call : SearchCall) (page currentPage : Nat) : (s.awaiting call page currentPage).Locked :=
  .held _ (awaiting_dataTasks (h.free_of flag) call page currentPage) (awaiting_isLoading ..)

theorem locked_unsent (h : s.Locked) (page : Nat) : (s.unsent page).Locked :=
  h.congr (unsent_dataTasks ..) (unsent_isLoading ..)

theorem locked_updateSearchResults (h : s.Locked) (text : Option String) :
    (s.updateSearchResults text).Locked := by
  cases text with
  | none => exact h
  | some text => exact h.congr (by simp only [updateSearchResults]) (by simp only [updateSearchResults])

theorem locked_respond (h : s.Locked) {task : SearchTask} (mem : task ∈ s.dataTasks)
    (result : APIResult News) : (s.respond task result).Locked := by
  refine .free ?_ (answered_isLoading s result)
  rw [respond, h.only mem, List.erase_cons_head]

theorem locked_step {e : SearchEvent} (h : s.Locked) (allowed : s.Allowed e)
    (cancels : s.CancelsIdle e) : (s.handle isURL e).Locked := by
  cases e with
  | updateSearchResults text => exact locked_updateSearchResults h text
  | searchNews =>
    have unscheduled : Locked { s with searchIsScheduled := false } :=
      h.congr (by simp only) (by simp only)
    obtain ⟨-, fired⟩ | ⟨-, -, fired⟩ | ⟨flag, -, fired⟩ := searchNews_cases isURL
      { s with searchIsScheduled := false }
    · rw [handle, fired]
      exact unscheduled
    · rw [handle, fired]
      exact locked_unsent unscheduled _
    · rw [handle, fired]
      exact locked_awaiting unscheduled flag _ _ _
  | scrollViewDidScroll =>
    obtain ⟨-, scrolled⟩ | ⟨-, page, -, scrolled⟩ | ⟨asks, -, scrolled⟩ :=
      scrollViewDidScroll_cases isURL s
    · rw [handle, scrolled]
      exact h
    · rw [handle, scrolled]
      exact locked_unsent h page
    · rw [handle, scrolled]
      exact locked_awaiting h asks.2.1 _ _ _
  | searchBarCancelButtonClicked => exact .free cancels rfl
  | respond task result => exact locked_respond h allowed result

end SearchNewsViewController

end NewsReader
