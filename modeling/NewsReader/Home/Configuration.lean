import NewsReader.Home.IndexSafety

/-!
# The configuration of the Home screen

In every state of every run, settings saves included, the six arrays have one entry a
category, each child sits at its own index, and paging from a child finds its
neighbours (`home_configured`). A page is shown as soon as there is a category; there
is none only while what was stored at launch decodes to none.
-/

namespace NewsReader

namespace HomeViewController

structure Configured (s : HomeViewController) : Prop where
  articlesArray : s.viewModel.articlesArray.length = s.categories.length
  isLoading : s.viewModel.isLoading.length = s.categories.length
  currentPageParam : s.viewModel.currentPageParam.length = s.categories.length
  canLoadMore : s.viewModel.canLoadMore.length = s.categories.length
  errors : s.viewModel.errors.length = s.categories.length
  viewControllers : s.viewControllers.length = s.categories.length
  child : ∀ i (child : HomeChildViewController), s.viewControllers[i]? = some child →
    child.tag = i ∧ child.viewModel.index = i ∧ s.categories[i]? = some child.viewModel.category
  before : ∀ i (child : HomeChildViewController), s.viewControllers[i]? = some child →
    s.viewControllerBefore child.tag =
      some (if i = 0 then none else s.viewControllers[i - 1]?)
  after : ∀ i (child : HomeChildViewController), s.viewControllers[i]? = some child →
    s.viewControllerAfter child.tag = some s.viewControllers[i + 1]?

section

variable {isURL : String → Bool} {s t : HomeViewController} {e : HomeEvent}

theorem Aligned.before (a : s.Aligned) {i : Nat} {child : HomeChildViewController}
    (found : s.viewControllers[i]? = some child) :
    s.viewControllerBefore child.tag =
      some (if i = 0 then none else s.viewControllers[i - 1]?) := by
  have tag : child.tag = i := (a.child i child found).2.2.1
  have bound := (List.getElem?_eq_some_iff.mp found).1
  rw [viewControllerBefore, tag]
  by_cases first : i = 0
  · rw [if_pos first, if_pos first]
  · have inside : i - 1 < s.viewControllers.length := by omega
    rw [if_neg first, if_neg first, List.getElem?_eq_getElem inside]
    rfl

/-- The page after the last is nil, and so is the entry after the last child. -/
theorem Aligned.after (a : s.Aligned) {i : Nat} {child : HomeChildViewController}
    (found : s.viewControllers[i]? = some child) :
    s.viewControllerAfter child.tag = some s.viewControllers[i + 1]? := by
  have tag : child.tag = i := (a.child i child found).2.2.1
  have bound := (List.getElem?_eq_some_iff.mp found).1
  have count := a.viewControllers
  rw [viewControllerAfter, tag]
  by_cases last : i + 1 = s.categories.length
  · have beyond : s.viewControllers.length ≤ i + 1 := by omega
    rw [if_pos last, List.getElem?_eq_none beyond]
  · have inside : i + 1 < s.viewControllers.length := by omega
    rw [if_neg last, List.getElem?_eq_getElem inside]
    rfl

theorem Aligned.configured (a : s.Aligned) : s.Configured := by
  refine ⟨a.articlesArray, a.isLoading, a.currentPageParam, a.canLoadMore, a.errors,
    a.viewControllers, ?_, fun _ _ found => a.before found, fun _ _ found => a.after found⟩
  intro i child found
  obtain ⟨index, category, tag, -⟩ := a.child i child found
  exact ⟨tag, index, category⟩

/-- Us is always among the categories a save stores. -/
theorem step_categories_ne_nil (a : s.Aligned) (allowed : s.Allowed e)
    (stepped : s.handle isURL e = some t) (before : s.categories ≠ []) : t.categories ≠ [] := by
  by_cases saves : IsSave e
  · cases e with
    | saveSettingSubTabs screen =>
      have permitted : screen.Permitted := allowed
      obtain rfl | ⟨setting, chosen, rebuilt, -⟩ := handle_save permitted stepped
      · exact before
      · rw [rebuilt.categories]
        have nonempty := permitted.selected_ne_nil
        rw [← chosen] at nonempty
        exact nonempty
    | _ => cases saves
  · rw [categories, handle_setting a allowed saves stepped]
    exact before

/-- **The Home screen stays configured** in every run, whatever categories were stored,
and shows one of its pages once it has any. A launch with a category always has one. -/
theorem home_configured (isURL : String → Bool) (s : HomeViewController) :
    ((machine isURL).Reachable (Launched isURL) s →
      s.Configured ∧ (s.categories ≠ [] → s.viewModel.currentPage < s.categories.length)) ∧
    ((machine isURL).Reachable (fun s => Launched isURL s ∧ s.categories ≠ []) s →
      s.viewModel.currentPage < s.categories.length) := by
  constructor
  · intro h
    have a := reachable_aligned h
    exact ⟨a.configured, a.currentPage⟩
  · intro h
    have reached : (machine isURL).Reachable (Launched isURL) s := h.mono fun _ start => start.1
    have nonempty : s.categories ≠ [] := by
      apply h.invariant (fun s => s.categories ≠ []) (fun _ start => start.2)
      intro s e t reached before allowed stepped
      have a := reachable_aligned (reached.mono fun _ start => start.1)
      exact step_categories_ne_nil a allowed stepped before
    exact (reachable_aligned reached).currentPage nonempty

theorem home_configured_shrunk : shrunk.Configured ∧ shrunk.categories.length = 2 ∧
    shrunk.viewModel.currentPage < shrunk.categories.length := by
  obtain ⟨configured, page⟩ := (home_configured anyURL shrunk).1 shrunk_reachable
  exact ⟨configured, by decide, page (by decide)⟩

/-- What is stored at launch is an empty array, and the screen has no page at all. -/
theorem page_without_categories :
    ¬ ∀ s, (machine anyURL).Reachable (Launched anyURL) s →
      s.Configured ∧ s.viewModel.currentPage < s.categories.length := by
  intro configured
  have shown := (configured (launch ⟨some []⟩) (.start (launched _))).2
  revert shown
  decide

end

end HomeViewController

end NewsReader
