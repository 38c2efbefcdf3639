import NewsReader.Home.Categories

/-!
# One request at a time

`isLoading` is a lock of a category's feed: set while its one fetch or load-more
is outstanding, and only then. Pull-to-refresh reads the lock but does not take it.
-/

namespace NewsReader

namespace Feed

/-- The outstanding requests that hold the lock. -/
def loads (f : Feed) : List Request := f.requests.filter (·.action ≠ .pullToRefresh)

structure Locked (f : Feed) : Prop where
  flag : f.slot.isLoading = true ↔ f.loads.length = 1
  single : f.loads.length ≤ 1

theorem answer_isLoading (r : Request) (result : APIResult News) (σ : Slot) :
    (σ.answer r result).isLoading = if r.action = .pullToRefresh then σ.isLoading else false := by
  obtain ⟨action, i, c, page⟩ := r
  cases action <;> cases result <;>
    simp only [Slot.answer, Slot.fecthDataResponse, Slot.refreshDataResponse,
      Slot.loadMoreApiResponse]
  all_goals first
    | rfl
    | split <;> rfl

theorem loads_append_refresh (σ : Slot) (requests : List Request) (i : Nat) (c : CategoryType)
    (page : Nat) : loads ⟨σ, requests ++ [⟨.pullToRefresh, i, c, page⟩]⟩ = loads ⟨σ, requests⟩ := by
  simp [loads]

theorem loads_append (σ : Slot) (requests : List Request) {r : Request}
    (takes : r.action ≠ .pullToRefresh) :
    loads ⟨σ, requests ++ [r]⟩ = loads ⟨σ, requests⟩ ++ [r] := by
  rw [loads, List.filter_append]
  simp [loads, takes]

/-- A request that takes the lock of a feed whose lock is free. -/
theorem locked_send {isURL : String → Bool} {r : Request} {f : Feed}
    (takes : r.action ≠ .pullToRefresh) (flag : f.slot.isLoading = true) (free : f.loads = []) :
    (f.send isURL r).Locked := by
  obtain ⟨error, answered⟩ | started := f.send_cases isURL r
  · rw [answered]
    have none : ({ f with slot := f.slot.answer r (.failure error) } : Feed).loads = [] := free
    exact ⟨by simp [none, answer_isLoading, takes], by simp [none]⟩
  · rw [started]
    have one : ({ f with requests := f.requests ++ [r] } : Feed).loads = [r] := by
      rw [loads_append f.slot f.requests takes]
      exact congrArg (· ++ [r]) free
    exact ⟨by simp [one, flag], by simp [one]⟩

theorem locked_refresh {isURL : String → Bool} {i : Nat} {c : CategoryType} {f : Feed}
    (h : f.Locked) : (f.send isURL ⟨.pullToRefresh, i, c, 1⟩).Locked := by
  obtain ⟨error, answered⟩ | started := f.send_cases isURL ⟨.pullToRefresh, i, c, 1⟩
  · rw [answered]
    exact ⟨h.flag, h.single⟩
  · rw [started]
    have same : ({ f with requests := f.requests ++ [⟨.pullToRefresh, i, c, 1⟩] } : Feed).loads =
        f.loads := loads_append_refresh f.slot f.requests i c 1
    exact ⟨by rw [same]; exact h.flag, by rw [same]; exact h.single⟩

/-- A response releases the lock its request holds. -/
theorem locked_respond {f : Feed} {r : Request} (result : APIResult News) (h : f.Locked)
    (mem : r ∈ f.requests) : (f.respond r result).Locked := by
  have remaining : (f.respond r result).loads = f.loads.erase r := List.erase_filter.symm
  by_cases refresh : r.action = .pullToRefresh
  · have same : f.loads.erase r = f.loads := List.erase_of_not_mem (by simp [loads, refresh])
    have flag : (f.respond r result).slot.isLoading = f.slot.isLoading := by
      simp [respond, answer_isLoading, refresh]
    rw [same] at remaining
    exact ⟨by rw [flag, remaining]; exact h.flag, by rw [remaining]; exact h.single⟩
  · have held : r ∈ f.loads := List.mem_filter.mpr ⟨mem, by simp [refresh]⟩
    have none : f.loads.erase r = [] := by
      rw [← List.length_eq_zero_iff, List.length_erase_of_mem held]
      have := h.single
      omega
    rw [none] at remaining
    have flag : (f.respond r result).slot.isLoading = false := by
      simp [respond, answer_isLoading, refresh]
    exact ⟨by simp [flag, remaining], by simp [remaining]⟩

theorem locked_step {isURL : String → Bool} {i : Nat} {c : CategoryType} {f : Feed}
    {fe : FeedEvent} (h : f.Locked) (allowed : f.Allowed fe) : (f.step isURL i c fe).Locked := by
  cases fe with
  | refresh =>
    simp only [step, refresh]
    split
    · exact ⟨h.flag, h.single⟩
    · exact locked_refresh ⟨h.flag, h.single⟩
  | loadMore =>
    simp only [step, loadMore]
    split
    · exact h
    · rename_i idle
      split
      · have free : f.loads = [] := by
          have := h.single
          have := mt h.flag.mpr idle
          exact List.length_eq_zero_iff.mp (by omega)
        exact locked_send (by simp) rfl free
      · exact h
  | respond r result => exact locked_respond result h allowed
  | clear => exact ⟨h.flag, h.single⟩

end Feed

namespace HomeViewController

/-- The fetches and load-mores outstanding for one index. -/
def loads (s : HomeViewController) (i : Nat) : List Request :=
  s.outstanding.filter fun r => r.index = i ∧ r.action ≠ .pullToRefresh

/-- The lock of every feed is right in every run without a settings save. -/
theorem reachable_locked {isURL : String → Bool} {cond : HomeViewController → HomeEvent → Prop}
    (fixed : ∀ s e, cond s e → ¬ IsSave e) {s : HomeViewController}
    (h : ((machine isURL).given cond).Reachable (Launched isURL) s) {i : Nat} {c : CategoryType}
    {f : Feed} (category : s.categories[i]? = some c) (found : s.feed i = some f) : f.Locked := by
  refine feed_invariant fixed (fun _ _ f => f.Locked) ?_ ?_ h category found
  · intro i c
    exact Feed.locked_send (by simp) rfl rfl
  · intro s e i c f fe _ _ _ _ allowed locked
    exact Feed.locked_step locked allowed

/-- **One request at a time.** With no settings save, a category's `isLoading`
is set exactly while one fetch or load-more is outstanding for it, and there are
never two. -/
theorem isLoading_iff_one_outstanding (isURL : String → Bool) {s : HomeViewController}
    (h : ((machine isURL).given fun _ e => ¬ IsSave e).Reachable (Launched isURL) s)
    {i : Nat} (bound : i < s.categories.length) :
    (s.viewModel.isLoading[i]? = some true ↔ (s.loads i).length = 1) ∧ (s.loads i).length ≤ 1 := by
  obtain ⟨c, f, category, found⟩ := exists_feed (reachable_aligned h.of_given) bound
  have locked : f.Locked := reachable_locked (fun _ _ kept => kept) h category found
  have same : s.loads i = f.loads := by
    rw [Feed.loads, ← (feed_eq_some_iff.mp found).2, requestsFor, List.filter_filter]
    simp [loads, Bool.and_comm]
  rw [same, (flag_of_feed found).1, Option.some.injEq]
  exact ⟨locked.flag, locked.single⟩

/-- The us page has loaded its first page and asked for its second. -/
def loadingMore : HomeViewController :=
  (((machine anyURL).given fun _ e => ¬ IsSave e).run (launch {})
    [.respond ⟨.fetchData, 0, .us, 1⟩ answered, .refreshHomeChildVC 0, .loadMore 0,
      .loadMore 0]).getD {}

theorem isLoading_iff_one_outstanding_loadingMore :
    (loadingMore.viewModel.isLoading[0]? = some true ↔ (loadingMore.loads 0).length = 1) ∧
    (loadingMore.loads 0).length ≤ 1 :=
  isLoading_iff_one_outstanding anyURL (Machine.reachable_getD _ (launched _) (by decide))
    (by decide)

end HomeViewController

end NewsReader
