import NewsReader.Home.Runs

/-!
# Subscripts of late responses

A completion keeps the index its request was made for. A settings save may have
shortened the arrays since, so a response traps exactly when that index is past
the categories saved last (`late_response_in_range`).
-/

namespace NewsReader

namespace HomeViewController

/-- `i` is below the length of every array a completion subscripts. -/
def InRange (s : HomeViewController) (i : Nat) : Prop :=
  i < s.viewModel.articlesArray.length ∧ i < s.viewModel.isLoading.length ∧
  i < s.viewModel.canLoadMore.length ∧ i < s.viewModel.currentPageParam.length ∧
  i < s.viewModel.errors.length ∧ i < s.viewControllers.length ∧ i < s.categories.length

instance (s : HomeViewController) (i : Nat) : Decidable (s.InRange i) := by
  unfold InRange
  infer_instance

/-- Whichever outstanding request answers next, and with whatever result, no
subscript of its completion is out of range. -/
def ResponsesInRange (isURL : String → Bool) (s : HomeViewController) : Prop :=
  ∀ r ∈ s.outstanding, s.InRange r.index ∧
    ∀ result, (s.handle isURL (.respond r result)).isSome = true

/-- A settings save enables more categories than any outstanding index. -/
def SavesKeepIndices (s : HomeViewController) : HomeEvent → Prop
  | .saveSettingSubTabs screen =>
    ∀ r ∈ s.outstanding, r.index < (screen.cells.filter (·.isEnable)).length
  | _ => True

instance (s : HomeViewController) : (e : HomeEvent) → Decidable (SavesKeepIndices s e)
  | .saveSettingSubTabs screen => inferInstanceAs (Decidable (∀ r ∈ s.outstanding,
    r.index < (screen.cells.filter (·.isEnable)).length))
  | .refreshHomeChildVC _ | .loadMore _ | .respond .. | .didSelectItemAt _ | .swipe _
  | .confirm _ => .isTrue trivial

section

variable {isURL : String → Bool} {s t : HomeViewController}

theorem Aligned.inRange_iff (a : s.Aligned) (i : Nat) :
    s.InRange i ↔ i < s.categories.length := by
  simp only [InRange, a.articlesArray, a.isLoading, a.canLoadMore, a.currentPageParam, a.errors,
    a.viewControllers, and_self]

theorem Aligned.respond_isSome_iff (a : s.Aligned) (r : Request) (result : APIResult News) :
    (s.handle isURL (.respond r result)).isSome = true ↔ r.index < s.categories.length := by
  constructor
  · intro handled
    by_contra beyond
    have trapped := (a.setOutstanding (s.outstanding.erase r)).respond_eq_none
      (Nat.not_lt.mp beyond) result
    rw [handle, trapped] at handled
    cases handled
  · intro bound
    obtain ⟨c, f, -, found⟩ := exists_feed a bound
    obtain ⟨t, ran, -⟩ := touches_answered a found result
    rw [handle, ran]
    rfl

/-- A request is made for an index of the arrays, and keeps it until a save. -/
theorem index_bound_step {e : HomeEvent} (a : s.Aligned) (allowed : s.Allowed e)
    (keeps : SavesKeepIndices s e) (stepped : s.handle isURL e = some t)
    (bound : ∀ r ∈ s.outstanding, r.index < s.categories.length) :
    ∀ r ∈ t.outstanding, r.index < t.categories.length := by
  intro r mem
  obtain saves | ⟨i, c, f, fe, category, -, -, -, touched⟩ | ⟨-, same⟩ :=
    handle_cases a allowed stepped
  · cases e with
    | saveSettingSubTabs screen =>
      obtain rfl | ⟨setting, chosen, rebuilt, -⟩ := handle_save allowed stepped
      · exact bound r mem
      · have count : t.categories.length = (screen.cells.filter (·.isEnable)).length := by
          rw [rebuilt.categories]
          exact (congrArg List.length chosen).trans (List.length_map _)
        obtain before | ⟨-, named⟩ := rebuilt.outstanding mem
        · exact count ▸ keeps r before
        · rw [rebuilt.categories]
          exact (List.getElem?_eq_some_iff.mp named).1
    | _ => cases saves
  · rw [categories, touched.setting]
    by_cases here : r.index = i
    · exact here ▸ (List.getElem?_eq_some_iff.mp category).1
    · have before := mem_requestsFor.mpr ⟨mem, rfl⟩
      rw [touched.requests r.index here] at before
      exact bound r (mem_requestsFor.mp before).1
  · rw [categories, same.setting]
    exact bound r (same.requests ▸ mem)

theorem index_bound
    (h : ((machine isURL).given SavesKeepIndices).Reachable (Launched isURL) s) :
    ∀ r ∈ s.outstanding, r.index < s.categories.length := by
  apply h.invariant (fun s => ∀ r ∈ s.outstanding, r.index < s.categories.length)
  · intro s launched r mem
    obtain ⟨setting, rebuilt, -⟩ := launched.rebuilt
    obtain before | ⟨-, named⟩ := rebuilt.outstanding mem
    · cases before
    · rw [rebuilt.categories]
      exact (List.getElem?_eq_some_iff.mp named).1
  · intro s e t reached bound allowed stepped
    exact index_bound_step (reachable_aligned reached.of_given) allowed.1 allowed.2 stepped bound

end

/-- **Late responses.** A response traps exactly when its index is past the
categories in force. Where every save enables more categories than any
outstanding index, no response of the run ever does. -/
theorem late_response_in_range (isURL : String → Bool) (s : HomeViewController) :
    ((machine isURL).Reachable (Launched isURL) s → ∀ r ∈ s.outstanding, ∀ result,
      (s.handle isURL (.respond r result)).isSome = true ↔ r.index < s.categories.length) ∧
    (((machine isURL).given SavesKeepIndices).Reachable (Launched isURL) s →
      ResponsesInRange isURL s) := by
  constructor
  · intro h r _ result
    exact (reachable_aligned h).respond_isSome_iff r result
  · intro h r mem
    have a := reachable_aligned h.of_given
    have bound := index_bound h r mem
    exact ⟨(a.inRange_iff r.index).mpr bound, fun result =>
      (a.respond_isSome_iff r result).mpr bound⟩

/-- The settings screen with the enabled categories given. -/
def settingScreen (enabled : List CategoryType) : SettingSubTabsViewModel :=
  { cells := CategoryType.allCases.zipIdx.map fun (category, row) =>
      { category, row, isEnable := decide (category ∈ enabled) } }

/-- The screen at launch with the categories stored. -/
def launch (setting : SettingManager) : HomeViewController :=
  (viewDidLoad anyURL setting).getD {}

theorem launched (setting : SettingManager) : Launched anyURL (launch setting) := by
  obtain ⟨s, ran, -⟩ := viewDidLoad_eq anyURL setting
  exact ⟨setting, by simp [launch, ran]⟩

/-- Two categories are being fetched when a save turns on all seven. -/
def grown : HomeViewController :=
  (((machine anyURL).given SavesKeepIndices).run (launch { stored := some [0, 3] })
    [.saveSettingSubTabs (settingScreen CategoryType.allCases)]).getD {}

theorem grown_reachable :
    ((machine anyURL).given SavesKeepIndices).Reachable (Launched anyURL) grown :=
  Machine.reachable_getD _ (launched _) (by decide)

theorem late_response_in_range_grown :
    ResponsesInRange anyURL grown ∧ grown.outstanding.length = 7 ∧
    ∀ r ∈ grown.outstanding, (grown.handle anyURL (.respond r (.failure .errorData))).isSome = true :=
  ⟨(late_response_in_range anyURL grown).2 grown_reachable, by decide, fun r mem =>
    ((late_response_in_range anyURL grown).1 grown_reachable.of_given r mem _).mpr
      (index_bound grown_reachable r mem)⟩

/-- All seven categories are being fetched when a save leaves two of them. -/
def shrunk : HomeViewController :=
  ((machine anyURL).run (launch {})
    [.saveSettingSubTabs (settingScreen [.us, .health])]).getD {}

theorem shrunk_reachable : (machine anyURL).Reachable (Launched anyURL) shrunk :=
  Machine.reachable_getD _ (launched {}) (by decide)

theorem late_response_traps :
    ¬ ∀ s, (machine anyURL).Reachable (Launched anyURL) s → ResponsesInRange anyURL s := by
  intro safe
  obtain ⟨inRange, -⟩ := safe shrunk shrunk_reachable ⟨.fetchData, 6, .business, 1⟩ (by decide)
  revert inRange
  decide

end HomeViewController

end NewsReader
