import NewsReader.Home.ChildTable

/-!
# What one page shows

The loading view covers the table and contains the error view. `fetchData` hides the
loading view when it finds two articles or more, and uncovers the error view when it
does not; nothing moves either flag back. What the page shows is then decided by all
the lists it was ever assigned (`shows_held_iff`).
-/

namespace NewsReader

namespace HomeChildViewController

/-- The error view is seen when neither it nor the loading view around it is hidden. -/
def ErrorViewIsVisible (vc : HomeChildViewController) : Prop :=
  vc.errorViewIsHidden = false ∧ vc.loadingViewIsHidden = false

instance (vc : HomeChildViewController) : Decidable vc.ErrorViewIsVisible :=
  inferInstanceAs (Decidable (vc.errorViewIsHidden = false ∧ vc.loadingViewIsHidden = false))

/-- The table is uncovered over articles, and the error view is seen over none. -/
def ShowsHeld (vc : HomeChildViewController) : Prop :=
  (vc.loadingViewIsHidden = true ↔ vc.viewModel.articles ≠ []) ∧
  (vc.ErrorViewIsVisible ↔ vc.viewModel.articles = [])

/-- The lists assigned since the view was loaded, the last one first. -/
def assigned (vc : HomeChildViewController) (e : HomeChildEvent) (lists : List (List News)) :
    List (List News) :=
  match e with
  | .setViewModel viewModel => if vc.isViewLoaded then viewModel.articles :: lists else lists
  | _ => lists

/-- No list has been assigned to a page just created. -/
def Unassigned (p : HomeChildViewController × List (List News)) : Prop := Created p.1 ∧ p.2 = []

/-- The two flags, as the assigned lists leave them. -/
structure Uncovered (vc : HomeChildViewController) (lists : List (List News)) : Prop where
  loading : vc.loadingViewIsHidden = true ↔ ∃ articles ∈ lists, 1 < articles.length
  error : vc.isViewLoaded = true →
    (vc.errorViewIsHidden = false ↔ ∃ articles ∈ lists, articles.length ≤ 1)
  unloaded : vc.isViewLoaded = false → lists = []
  held : lists ≠ [] → lists.head? = some vc.viewModel.articles

section

variable {vc t : HomeChildViewController} {e : HomeChildEvent} {lists : List (List News)}

theorem uncovered_created (h : Created vc) : vc.Uncovered [] := by
  obtain rfl := h
  constructor
  · simp
  · intro loaded
    cases loaded
  · intro _
    rfl
  · intro nonempty
    exact absurd rfl nonempty

/-- The flags only ever move one way. -/
theorem fetchData_flags (vc : HomeChildViewController) :
    (vc.fetchData.loadingViewIsHidden = true ↔
      vc.loadingViewIsHidden = true ∨ 1 < vc.viewModel.articles.length) ∧
    (vc.fetchData.errorViewIsHidden = false ↔
      vc.errorViewIsHidden = false ∨ vc.viewModel.articles.length ≤ 1) := by
  unfold fetchData reloadData
  by_cases long : vc.viewModel.articles.length > 1
  · simp [long, Nat.not_le.mpr long]
  · have : vc.viewModel.articles.length ≤ 1 := by omega
    simp [long, this]

theorem Uncovered.setViewModel (h : vc.Uncovered lists) (viewModel : HomeChildViewModel) :
    (vc.setViewModel viewModel).Uncovered (vc.assigned (.setViewModel viewModel) lists) := by
  by_cases loaded : vc.isViewLoaded = true
  · have fetched : vc.setViewModel viewModel = { vc with viewModel }.fetchData := if_pos loaded
    have longer : vc.assigned (.setViewModel viewModel) lists = viewModel.articles :: lists :=
      if_pos loaded
    have flags := fetchData_flags { vc with viewModel }
    rw [fetched, longer]
    constructor
    · rw [flags.1, h.loading]
      simp [or_comm]
    · intro _
      rw [flags.2, h.error loaded]
      simp [or_comm]
    · intro unloaded
      rw [(fetchData_frame _).2.2] at unloaded
      cases loaded.symm.trans unloaded
    · intro _
      rw [(fetchData_frame _).1]
      rfl
  · have empty := h.unloaded (Bool.eq_false_iff.mpr loaded)
    subst empty
    have unfetched : vc.setViewModel viewModel = { vc with viewModel } := if_neg loaded
    have same : vc.assigned (.setViewModel viewModel) [] = [] := if_neg loaded
    rw [unfetched, same]
    constructor
    · exact h.loading
    · intro loaded'
      exact absurd loaded' loaded
    · intro _
      rfl
    · intro nonempty
      exact absurd rfl nonempty

theorem Uncovered.step (h : vc.Uncovered lists) (allowed : vc.Allowed e)
    (stepped : vc.handle e = some t) : t.Uncovered (vc.assigned e lists) := by
  cases e with
  | setViewModel viewModel =>
    obtain rfl := Option.some.inj stepped
    exact h.setViewModel viewModel
  | loadView index =>
    obtain rfl := Option.some.inj stepped
    have empty := h.unloaded allowed
    subst empty
    constructor
    · exact h.loading
    · intro _
      simp [loadView, configLoadingView, assigned]
    · intro _
      rfl
    · intro nonempty
      exact absurd rfl nonempty
  | beginRefreshing | layout =>
    obtain rfl := Option.some.inj stepped
    exact ⟨h.loading, h.error, h.unloaded, h.held⟩
  | cellForRowAt row currentDate cached =>
    obtain rfl := cellForRowAt_some stepped
    exact h
  | didSelectRowAt row m =>
    obtain ⟨detail, -, selected⟩ := Option.bind_eq_some_iff.mp stepped
    obtain rfl := Option.some.inj selected
    exact h
  | loadImageDone row image currentDate cached =>
    obtain rfl := loadImageDone_some stepped
    exact h

theorem reachable_uncovered (h : (machine.observed assigned).Reachable Unassigned (vc, lists)) : vc.Uncovered lists := by
  apply h.invariant fun p => p.1.Uncovered p.2
  · rintro ⟨vc, lists⟩ ⟨created, rfl⟩
    exact uncovered_created created
  · rintro ⟨vc, lists⟩ e ⟨t, lists'⟩ - uncovered allowed stepped
    obtain ⟨moved, rfl⟩ := Machine.observed_step.mp stepped
    exact uncovered.step allowed moved

/-- **A page shows what it holds** exactly when its articles are none, or not, as all the
lists assigned so far had at most one article, or not. -/
theorem shows_held_iff (h : (machine.observed assigned).Reachable Unassigned (vc, lists)) (loaded : vc.isViewLoaded = true)
    (nonempty : lists ≠ []) :
    lists.head? = some vc.viewModel.articles ∧
    (vc.ShowsHeld ↔ (vc.viewModel.articles ≠ [] ↔ ∃ articles ∈ lists, 1 < articles.length)) := by
  have uncovered := reachable_uncovered h
  have last := uncovered.held nonempty
  have mem : vc.viewModel.articles ∈ lists := List.mem_of_head? last
  constructor
  · exact last
  · unfold ShowsHeld
    rw [uncovered.loading]
    constructor
    · intro shows
      exact shows.1.symm
    · intro decided
      constructor
      · exact decided.symm
      · unfold ErrorViewIsVisible
        rw [uncovered.error loaded, ← Bool.not_eq_true, uncovered.loading, ← decided, not_not]
        constructor
        · rintro ⟨-, empty⟩
          exact empty
        · intro empty
          exact ⟨⟨_, mem, by simp [empty]⟩, empty⟩

end

section

open HomeViewController (anArticle)

/-- A page that was loaded and shows two articles, then one. -/
def shortened : HomeChildViewController × List (List News) :=
  ((machine.observed assigned).run ({}, []) [.loadView 0,
    .setViewModel { articles := [anArticle, anArticle] },
    .setViewModel { articles := [anArticle] }]).getD ({}, [])

theorem shortened_reachable : (machine.observed assigned).Reachable Unassigned shortened :=
  Machine.reachable_getD _ ⟨rfl, rfl⟩ (by decide)

theorem shows_held_shortened :
    shortened.1.viewModel.articles = [anArticle] ∧ shortened.1.ShowsHeld := by
  obtain ⟨-, shows⟩ := shows_held_iff shortened_reachable (by decide) (by decide)
  exact ⟨by decide, shows.mpr (by decide)⟩

/-- The first fetch of a page brings one article. -/
def singleArticle : HomeChildViewController × List (List News) :=
  ((machine.observed assigned).run ({}, []) [.loadView 0,
    .setViewModel { articles := [anArticle] }]).getD ({}, [])

/-- The one article stays covered, under the error view. -/
theorem single_article_covered :
    ¬ ∀ vc lists, (machine.observed assigned).Reachable Unassigned (vc, lists) →
      vc.isViewLoaded = true → lists ≠ [] → vc.ShowsHeld := by
  intro shows
  have reached : (machine.observed assigned).Reachable Unassigned singleArticle :=
    Machine.reachable_getD _ ⟨rfl, rfl⟩ (by decide)
  have uncovered := (shows _ _ reached (by decide) (by decide)).1.mpr (by decide)
  revert uncovered
  decide

end

end HomeChildViewController

end NewsReader
