import NewsReader.Home.Slots

/-!
# Alignment of the Home arrays

Every array of the Home screen has one entry a category, in every state of
every run (`reachable_aligned`), settings saves included. So an index has a slot
exactly when it is below the number of categories, and only a response whose
index is not can trap (`respond_eq_none`).
-/

namespace NewsReader

namespace HomeViewController

structure Aligned (s : HomeViewController) : Prop where
  articlesArray : s.viewModel.articlesArray.length = s.categories.length
  isLoading : s.viewModel.isLoading.length = s.categories.length
  currentPageParam : s.viewModel.currentPageParam.length = s.categories.length
  canLoadMore : s.viewModel.canLoadMore.length = s.categories.length
  errors : s.viewModel.errors.length = s.categories.length
  viewControllers : s.viewControllers.length = s.categories.length
  child : ∀ i (child : HomeChildViewController), s.viewControllers[i]? = some child →
    child.viewModel.index = i ∧ s.categories[i]? = some child.viewModel.category ∧
    child.tag = i ∧ child.isViewLoaded = true
  currentPage : s.categories ≠ [] → s.viewModel.currentPage < s.categories.length
  displayed : s.displayed = if s.categories = [] then none else some s.viewModel.currentPage

section Aligned

variable {s : HomeViewController} {i : Nat} {σ : Slot}

theorem Aligned.slot_of_lt (h : s.Aligned) (bound : i < s.categories.length) :
    ∃ σ, s.slot i = some σ := by
  have entry {α : Type} {array : List α} (same : array.length = s.categories.length) :
      ∃ value, array[i]? = some value :=
    ⟨_, List.getElem?_eq_getElem (same ▸ bound)⟩
  obtain ⟨articles, h1⟩ := entry h.articlesArray
  obtain ⟨isLoading, h2⟩ := entry h.isLoading
  obtain ⟨currentPageParam, h3⟩ := entry h.currentPageParam
  obtain ⟨canLoadMore, h4⟩ := entry h.canLoadMore
  obtain ⟨error, h5⟩ := entry h.errors
  obtain ⟨child, h6⟩ := entry h.viewControllers
  exact ⟨⟨articles, isLoading, currentPageParam, canLoadMore, error, child⟩,
    slot_eq_some_iff.mpr ⟨h1, h2, h3, h4, h5, h6⟩⟩

theorem Aligned.slot_of_child (h : s.Aligned) {child : HomeChildViewController}
    (mem : child ∈ s.viewControllers) : ∃ i σ, s.slot i = some σ ∧ σ.child = child := by
  obtain ⟨i, found⟩ := List.mem_iff_getElem?.mp mem
  have bound : i < s.categories.length :=
    h.viewControllers ▸ (List.getElem?_eq_some_iff.mp found).1
  obtain ⟨σ, slot⟩ := h.slot_of_lt bound
  exact ⟨i, σ, slot, Option.mem_unique (slot_eq_some_iff.mp slot).2.2.2.2.2 found⟩

theorem Aligned.lt_of_slot (h : s.Aligned) (found : s.slot i = some σ) :
    i < s.categories.length :=
  h.articlesArray ▸ (List.getElem?_eq_some_iff.mp (slot_eq_some_iff.mp found).1).1

theorem Aligned.category_of_slot (h : s.Aligned) (found : s.slot i = some σ) :
    (s.categories[i]?).isSome := by
  simp [h.lt_of_slot found]

theorem Aligned.putSlot (h : s.Aligned) (found : s.slot i = some σ) {σ' : Slot}
    (same : σ.SameChild σ') : (s.putSlot i σ').Aligned := by
  obtain ⟨hc1, hc2, hc3, hc4⟩ := h.child i σ.child (slot_eq_some_iff.mp found).2.2.2.2.2
  constructor
  · exact List.length_set.trans h.articlesArray
  · exact List.length_set.trans h.isLoading
  · exact List.length_set.trans h.currentPageParam
  · exact List.length_set.trans h.canLoadMore
  · exact List.length_set.trans h.errors
  · exact List.length_set.trans h.viewControllers
  · intro j child hj
    by_cases here : j = i
    · subst here
      have := (slot_eq_some_iff.mp (slot_putSlot found σ')).2.2.2.2.2
      obtain rfl : σ'.child = child := Option.mem_unique this hj
      obtain ⟨s1, s2, s3, s4⟩ := same
      exact ⟨s1.trans hc1, by rw [s2]; exact hc2, s3.trans hc3, s4.trans hc4⟩
    · have : s.viewControllers[j]? = some child := by
        simpa [HomeViewController.putSlot, List.getElem?_set_ne (Ne.symm here)] using hj
      exact h.child j child this
  · exact h.currentPage
  · exact h.displayed

/-- What is outstanding is no part of it. -/
theorem Aligned.setOutstanding (h : s.Aligned) (outstanding : List Request) :
    Aligned { s with outstanding } :=
  ⟨h.articlesArray, h.isLoading, h.currentPageParam, h.canLoadMore, h.errors, h.viewControllers,
    h.child, h.currentPage, h.displayed⟩

theorem Aligned.settle (h : s.Aligned) (r : Request) (result : APIResult News) :
    (s.settle r result).Aligned :=
  ⟨h.articlesArray, h.isLoading, h.currentPageParam, h.canLoadMore, h.errors, h.viewControllers,
    h.child, h.currentPage, h.displayed⟩

theorem Aligned.respond {t : HomeViewController} {r : Request} {result : APIResult News}
    (h : s.Aligned) (bound : r.index < s.categories.length)
    (stepped : HomeViewController.respond r result s = some t) : t.Aligned := by
  obtain ⟨σ, found⟩ := h.slot_of_lt bound
  rw [respond_eq found (h.category_of_slot found)] at stepped
  obtain rfl := Option.some.inj stepped
  exact (h.putSlot found (σ.sameChild_answer r result)).settle r result

/-- Past the last category every branch of every completion traps. -/
theorem Aligned.respond_eq_none {r : Request} (h : s.Aligned)
    (beyond : s.categories.length ≤ r.index) (result : APIResult News) :
    HomeViewController.respond r result s = none := by
  have articles : ∀ value, s.setArticles r.index value = none := fun value => by
    simp [setArticles, assign_of_ge (h.articlesArray ▸ beyond)]
  have error : ∀ value, s.setError r.index value = none := fun value => by
    simp [setError, assign_of_ge (h.errors ▸ beyond)]
  have more : ∀ value, s.setCanLoadMore r.index value = none := fun value => by
    simp [setCanLoadMore, assign_of_ge (h.canLoadMore ▸ beyond)]
  have list : s.viewModel.articlesArray[r.index]? = none :=
    List.getElem?_eq_none (h.articlesArray ▸ beyond)
  have category : s.setting.categories[r.index]? = none := List.getElem?_eq_none beyond
  obtain ⟨action, i, c, page⟩ := r
  cases action <;> cases result <;>
    simp only [HomeViewController.respond, fecthDataResponse, refreshDataResponse,
      loadMoreApiResponse, fetchDataDone, actionDone, alert, categories, articles, error, more,
      list, category, Bool.false_eq_true, if_false, Option.bind_eq_bind, Option.bind_none]
  all_goals split <;> rfl

end Aligned

end HomeViewController

end NewsReader
