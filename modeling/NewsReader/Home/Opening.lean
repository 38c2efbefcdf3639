import NewsReader.Home.Alignment
import NewsReader.Home.Feed

/-!
# Building the children

`configHomeChildViewController` fetches once a category while it builds the new
children. It never traps, and leaves at each index an opening feed beside
whatever was still outstanding.
-/

namespace NewsReader

namespace HomeViewController

section Opening

variable (isURL : String → Bool)

/-- The screen after the fetch of one child, which is answered at once or left
outstanding. -/
def startFetch (s : HomeViewController) (i : Nat) (c : CategoryType) : HomeViewController :=
  match (APIManager.getTopHeadlines isURL 1 c.param "us" : Option (APIResult News)) with
  | some (.failure error) =>
    { s with
      viewModel := { s.viewModel with
        errors := s.viewModel.errors.set i error.localizedDescription
        isLoading := s.viewModel.isLoading.set i false } }
  | some (.success _) => s
  | none => { s with outstanding := s.outstanding ++ [⟨.fetchData, i, c, 1⟩] }

theorem fecthData_eq {s : HomeViewController} {i : Nat} (c : CategoryType)
    (errors : i < s.viewModel.errors.length) (isLoading : i < s.viewModel.isLoading.length) :
    s.fecthData isURL i c = some (s.startFetch isURL i c) := by
  unfold fecthData send startFetch
  dsimp only
  split
  · rename_i result answered
    obtain ⟨error, rfl⟩ := APIManager.getTopHeadlines_failure isURL answered
    simp only [Int.cast_ofNat_Int] at answered
    simp [answered, respond, fecthDataResponse, fetchDataDone, setError, setIsLoading,
      assign_of_lt errors, assign_of_lt isLoading]
  · rename_i started
    simp only [Int.cast_ofNat_Int] at started
    simp [started]

/-- An index whose entries `configData` has just written. -/
structure Fresh (s : HomeViewController) (i : Nat) (c : CategoryType) : Prop where
  category : s.categories[i]? = some c
  articlesArray : s.viewModel.articlesArray[i]? = some []
  isLoading : s.viewModel.isLoading[i]? = some true
  errors : s.viewModel.errors[i]? = some ""

theorem loadChild_eq {s : HomeViewController} {i : Nat} {c : CategoryType} (h : s.Fresh i c) :
    s.loadChild isURL i = some (s.startFetch isURL i c, Feed.newChild i c) := by
  have errors := (List.getElem?_eq_some_iff.mp h.errors).1
  have isLoading := (List.getElem?_eq_some_iff.mp h.isLoading).1
  simp [loadChild, HomeViewModel.getHomeChildViewModel, h.category, h.articlesArray, h.isLoading,
    needPerform, fecthData_eq isURL c errors isLoading, HomeChildViewController.setViewModel,
    HomeChildViewController.configLoadingView, Feed.newChild]

/-- `t` is `s` once the children at the indices `is` have fetched. -/
structure Opened (is : List Nat) (s t : HomeViewController) : Prop where
  setting : t.setting = s.setting
  viewControllers : t.viewControllers = s.viewControllers
  displayed : t.displayed = s.displayed
  articlesArray : t.viewModel.articlesArray = s.viewModel.articlesArray
  currentPageParam : t.viewModel.currentPageParam = s.viewModel.currentPageParam
  canLoadMore : t.viewModel.canLoadMore = s.viewModel.canLoadMore
  currentPage : t.viewModel.currentPage = s.viewModel.currentPage
  elsewhere : ∀ j, j ∉ is → t.viewModel.isLoading[j]? = s.viewModel.isLoading[j]? ∧
    t.viewModel.errors[j]? = s.viewModel.errors[j]? ∧ t.requestsFor j = s.requestsFor j
  opened : ∀ j ∈ is, ∀ c, s.categories[j]? = some c →
    t.viewModel.isLoading[j]? = some (Feed.opening isURL j c).slot.isLoading ∧
    t.viewModel.errors[j]? = some (Feed.opening isURL j c).slot.error ∧
    t.requestsFor j = s.requestsFor j ++ (Feed.opening isURL j c).requests

theorem requestsFor_append (s : HomeViewController) (i j : Nat) (c : CategoryType) :
    requestsFor { s with outstanding := s.outstanding ++ [⟨.fetchData, i, c, 1⟩] } j =
      s.requestsFor j ++ if i = j then [⟨.fetchData, i, c, 1⟩] else [] := by
  by_cases here : i = j <;> simp [requestsFor, here]

theorem startFetch_opened {s : HomeViewController} {i : Nat} {c : CategoryType}
    (h : s.Fresh i c) : Opened isURL [i] s (s.startFetch isURL i c) := by
  unfold startFetch
  split
  · rename_i error answered
    refine ⟨rfl, rfl, rfl, rfl, rfl, rfl, rfl, ?_, ?_⟩
    · intro j away
      have ne : i ≠ j := fun here => away (by simp [here])
      simp [ne, requestsFor]
    · intro j here c' found
      obtain rfl : j = i := by simpa using here
      obtain rfl : c' = c := Option.mem_unique found h.category
      have opening : Feed.opening isURL j c' =
          ⟨(Feed.newSlot j c').answer ⟨.fetchData, j, c', 1⟩ (.failure error), []⟩ := by
        simp [Feed.opening, Feed.send, answered]
      rw [opening]
      exact ⟨getElem?_set_of_some h.isLoading _, getElem?_set_of_some h.errors _,
        (List.append_nil _).symm⟩
  · rename_i response answered
    obtain ⟨error, impossible⟩ := APIManager.getTopHeadlines_failure isURL answered
    cases impossible
  · rename_i started
    refine ⟨rfl, rfl, rfl, rfl, rfl, rfl, rfl, ?_, ?_⟩
    · intro j away
      have ne : i ≠ j := fun here => away (by simp [here])
      exact ⟨rfl, rfl, by simp [requestsFor_append, ne]⟩
    · intro j here c' found
      obtain rfl : j = i := by simpa using here
      obtain rfl : c' = c := Option.mem_unique found h.category
      have opening : Feed.opening isURL j c' =
          ⟨Feed.newSlot j c', [⟨.fetchData, j, c', 1⟩]⟩ := by
        simp [Feed.opening, Feed.send, started]
      rw [opening]
      exact ⟨h.isLoading, h.errors, by simp [requestsFor_append]⟩

theorem Opened.trans {i : Nat} {is : List Nat} {s t u : HomeViewController} (new : i ∉ is)
    (first : Opened isURL [i] s t) (rest : Opened isURL is t u) : Opened isURL (i :: is) s u := by
  have away : ∀ j, j ∉ i :: is → j ∉ [i] ∧ j ∉ is := by simp
  refine ⟨rest.setting.trans first.setting, rest.viewControllers.trans first.viewControllers,
    rest.displayed.trans first.displayed, rest.articlesArray.trans first.articlesArray,
    rest.currentPageParam.trans first.currentPageParam, rest.canLoadMore.trans first.canLoadMore,
    rest.currentPage.trans first.currentPage, ?_, ?_⟩
  · intro j hj
    obtain ⟨a1, a2, a3⟩ := first.elsewhere j (away j hj).1
    obtain ⟨b1, b2, b3⟩ := rest.elsewhere j (away j hj).2
    exact ⟨b1.trans a1, b2.trans a2, b3.trans a3⟩
  · intro j hj c found
    rcases List.mem_cons.mp hj with rfl | later
    · obtain ⟨a1, a2, a3⟩ := first.opened j (List.mem_singleton_self j) c found
      obtain ⟨b1, b2, b3⟩ := rest.elsewhere j new
      exact ⟨b1.trans a1, b2.trans a2, b3.trans a3⟩
    · have ne : j ∉ [i] := fun here => new (by simpa using List.mem_singleton.mp here ▸ later)
      have same : t.categories = s.categories := congrArg SettingManager.categories first.setting
      obtain ⟨b1, b2, b3⟩ := rest.opened j later c (same ▸ found)
      exact ⟨b1, b2, by rw [b3, (first.elsewhere j ne).2.2]⟩

/-- The loop, by induction on the indices still to build: the children already
built have not touched the entries of the ones to come. -/
theorem loadChildren_eq {is : List Nat} (distinct : is.Nodup) {s : HomeViewController}
    {category : Nat → CategoryType} (fresh : ∀ i ∈ is, s.Fresh i (category i)) :
    ∃ t, s.loadChildren isURL is = some (t, is.map fun i => Feed.newChild i (category i)) ∧
      Opened isURL is s t := by
  induction is generalizing s with
  | nil =>
    exact ⟨s, rfl, rfl, rfl, rfl, rfl, rfl, rfl, rfl, fun _ _ => ⟨rfl, rfl, rfl⟩, by simp⟩
  | cons i is ih =>
    obtain ⟨new, distinct⟩ := List.nodup_cons.mp distinct
    have here := fresh i List.mem_cons_self
    have first := startFetch_opened isURL here
    have still : ∀ j ∈ is, (s.startFetch isURL i (category i)).Fresh j (category j) := by
      intro j hj
      have before := fresh j (List.mem_cons_of_mem i hj)
      have ne : j ∉ [i] := fun same => new (by simpa using List.mem_singleton.mp same ▸ hj)
      obtain ⟨a1, a2, -⟩ := first.elsewhere j ne
      refine ⟨?_, ?_, a1.trans before.isLoading, a2.trans before.errors⟩
      · rw [categories, first.setting]
        exact before.category
      · rw [first.articlesArray]
        exact before.articlesArray
    obtain ⟨t, ran, rest⟩ := ih distinct still
    refine ⟨t, ?_, first.trans isURL new rest⟩
    simp [loadChildren, loadChild_eq isURL here, ran]

/-- `t` is `s` with its arrays reset and its children built anew, each with an
opening feed beside the requests outstanding before. -/
structure Rebuilt (s t : HomeViewController) : Prop where
  setting : t.setting = s.setting
  articlesArray : t.viewModel.articlesArray = List.replicate s.categories.length []
  isLoading : t.viewModel.isLoading.length = s.categories.length
  currentPageParam : t.viewModel.currentPageParam.length = s.categories.length
  canLoadMore : t.viewModel.canLoadMore.length = s.categories.length
  errors : t.viewModel.errors.length = s.categories.length
  viewControllers : t.viewControllers =
    (List.range s.categories.length).map fun i => Feed.newChild i (s.categories.getD i .us)
  displayed : t.displayed = if s.categories = [] then s.displayed else some 0
  slot : ∀ i c, s.categories[i]? = some c → t.slot i = some (Feed.opening isURL i c).slot
  requests : ∀ i c, s.categories[i]? = some c →
    t.requestsFor i = s.requestsFor i ++ (Feed.opening isURL i c).requests
  beyond : ∀ i, s.categories[i]? = none → t.requestsFor i = s.requestsFor i

theorem length_eq_of_getElem? {α : Type} {xs ys : List α}
    (h : ∀ i : Nat, xs[i]? = none ↔ ys[i]? = none) : xs.length = ys.length := by
  simp only [List.getElem?_eq_none_iff] at h
  exact Nat.le_antisymm ((h _).mpr (Nat.le_refl _)) ((h _).mp (Nat.le_refl _))

theorem Opened.length_eq {is : List Nat} {s t : HomeViewController} (h : Opened isURL is s t)
    (fresh : ∀ i ∈ is, s.Fresh i (s.categories.getD i .us)) :
    t.viewModel.isLoading.length = s.viewModel.isLoading.length ∧
    t.viewModel.errors.length = s.viewModel.errors.length := by
  refine ⟨length_eq_of_getElem? fun j => ?_, length_eq_of_getElem? fun j => ?_⟩ <;>
    by_cases opened : j ∈ is
  · simp [(h.opened j opened _ (fresh j opened).category).1, (fresh j opened).isLoading]
  · rw [(h.elsewhere j opened).1]
  · simp [(h.opened j opened _ (fresh j opened).category).2.1, (fresh j opened).errors]
  · rw [(h.elsewhere j opened).2.1]

/-- The children go into the array, and the page controller shows the first. -/
theorem config_of_loadChildren {s t : HomeViewController}
    {children : List HomeChildViewController}
    (ran : s.loadChildren isURL (List.range s.categories.length) = some (t, children)) :
    s.configHomeChildViewController isURL =
      some { t with
        viewControllers := children
        displayed := children.head?.elim t.displayed fun first => some first.tag } := by
  cases children <;> simp [configHomeChildViewController, ran]

theorem rebuild (s : HomeViewController) :
    ∃ t, configHomeChildViewController isURL
      { s with viewModel := s.viewModel.configData s.categories } = some t ∧
      t.viewModel.currentPage = s.viewModel.currentPage ∧ Rebuilt isURL s t := by
  let s₀ : HomeViewController := { s with viewModel := s.viewModel.configData s.categories }
  have known : ∀ i, i < s.categories.length →
      s.categories[i]? = some (s.categories.getD i .us) := by
    intro i bound
    simp [List.getD, bound]
  have fresh : ∀ i ∈ List.range s.categories.length, s₀.Fresh i (s.categories.getD i .us) := by
    intro i hi
    have bound := List.mem_range.mp hi
    exact ⟨known i bound, by simp [s₀, HomeViewModel.configData, bound],
      by simp [s₀, HomeViewModel.configData, bound], by simp [s₀, HomeViewModel.configData, bound]⟩
  obtain ⟨t, ran, opened⟩ := loadChildren_eq isURL List.nodup_range fresh
  have configured := @config_of_loadChildren isURL s₀ _ _ ran
  obtain ⟨isLoading, errors⟩ := opened.length_eq isURL fresh
  have inside : ∀ i c, s.categories[i]? = some c → i ∈ List.range s.categories.length := by
    intro i c found
    exact List.mem_range.mpr (List.getElem?_eq_some_iff.mp found).1
  refine ⟨_, configured, opened.currentPage, opened.setting, opened.articlesArray, ?_, ?_, ?_,
    ?_, rfl, ?_, ?_, ?_, ?_⟩
  · simpa [s₀, HomeViewModel.configData] using isLoading
  · simp [opened.currentPageParam, s₀, HomeViewModel.configData]
  · simp [opened.canLoadMore, s₀, HomeViewModel.configData]
  · simpa [s₀, HomeViewModel.configData] using errors
  · cases hn : s.categories with
    | nil => exact opened.displayed
    | cons c cs => simp [List.range_succ_eq_map, Feed.newChild]
  · intro i c found
    have bound := (List.getElem?_eq_some_iff.mp found).1
    have head : s.categories.getD i .us = c := Option.mem_unique (known i bound) found
    obtain ⟨h1, h2, -⟩ := opened.opened i (inside i c found) c found
    rw [Feed.opening_slot, slot_eq_some_iff]
    refine ⟨?_, h1, ?_, ?_, h2, ?_⟩
    · simp [opened.articlesArray, s₀, HomeViewModel.configData, bound, Feed.newSlot]
    · simp [opened.currentPageParam, s₀, HomeViewModel.configData, bound, Feed.newSlot]
    · simp [opened.canLoadMore, s₀, HomeViewModel.configData, bound, Feed.newSlot]
    · simp only [List.getElem?_map, List.getElem?_range bound, Option.map_some, head, Feed.newSlot]
  · intro i c found
    exact (opened.opened i (inside i c found) c found).2.2
  · intro i beyond
    refine (opened.elsewhere i ?_).2.2
    simpa using List.getElem?_eq_none_iff.mp beyond

variable {isURL} {s t : HomeViewController}

theorem Rebuilt.categories (h : Rebuilt isURL s t) : t.categories = s.categories :=
  congrArg SettingManager.categories h.setting

theorem Rebuilt.feed (h : Rebuilt isURL s t) {i : Nat} {c : CategoryType}
    (category : s.categories[i]? = some c) :
    t.feed i = some { Feed.opening isURL i c with
      requests := s.requestsFor i ++ (Feed.opening isURL i c).requests } :=
  feed_eq_some_iff.mpr ⟨h.slot i c category, h.requests i c category⟩

/-- A rebuild makes one request an index at most, for the category there. -/
theorem Rebuilt.outstanding (h : Rebuilt isURL s t) {r : Request} (mem : r ∈ t.outstanding) :
    r ∈ s.outstanding ∨
      (r.action = .fetchData ∧ s.categories[r.index]? = some r.category) := by
  have here := mem_requestsFor.mpr ⟨mem, rfl⟩
  cases category : s.categories[r.index]? with
  | none =>
    rw [h.beyond _ category] at here
    exact Or.inl (mem_requestsFor.mp here).1
  | some c =>
    rw [h.requests _ c category, List.mem_append] at here
    rcases here with before | new
    · exact Or.inl (mem_requestsFor.mp before).1
    · rw [Feed.mem_opening_requests new]
      exact Or.inr ⟨rfl, rfl⟩

theorem Rebuilt.aligned (h : Rebuilt isURL s t) (first : t.viewModel.currentPage = 0)
    (hidden : s.categories = [] → s.displayed = none) : t.Aligned := by
  rw [← h.categories] at hidden
  constructor
  · rw [h.articlesArray, List.length_replicate, h.categories]
  · rw [h.isLoading, h.categories]
  · rw [h.currentPageParam, h.categories]
  · rw [h.canLoadMore, h.categories]
  · rw [h.errors, h.categories]
  · rw [h.viewControllers, List.length_map, List.length_range, h.categories]
  · intro i child found
    rw [h.viewControllers, List.getElem?_map, Option.map_eq_some_iff] at found
    obtain ⟨j, inside, rfl⟩ := found
    obtain ⟨bound, rfl⟩ := List.getElem?_eq_some_iff.mp inside
    rw [List.length_range] at bound
    simp [h.categories, Feed.newChild, bound]
  · intro nonempty
    rw [first]
    exact List.length_pos_iff.mpr nonempty
  · rw [h.displayed, first, ← h.categories]
    split
    · exact hidden (by assumption)
    · rfl

/-- The Home screen appears without a trap, whatever was stored. -/
theorem viewDidLoad_eq (isURL : String → Bool) (setting : SettingManager) :
    ∃ s, viewDidLoad isURL setting = some s ∧ Rebuilt isURL { setting } s ∧ s.Aligned := by
  obtain ⟨s, ran, page, rebuilt⟩ := rebuild isURL { setting }
  exact ⟨s, ran, rebuilt, rebuilt.aligned page fun _ => rfl⟩

theorem Launched.rebuilt {isURL : String → Bool} {s : HomeViewController} (h : Launched isURL s) :
    ∃ setting : SettingManager, Rebuilt isURL { setting } s ∧ s.Aligned := by
  obtain ⟨setting, launched⟩ := h
  obtain ⟨t, ran, rebuilt, aligned⟩ := viewDidLoad_eq isURL setting
  obtain rfl := Option.mem_unique ran launched
  exact ⟨setting, rebuilt, aligned⟩

theorem fetchDataSetting_eq (isURL : String → Bool) (s : HomeViewController)
    (nonempty : s.categories ≠ []) :
    ∃ t, s.fetchDataSetting isURL = some t ∧ Rebuilt isURL s t ∧ t.Aligned := by
  obtain ⟨u, ran, -, h⟩ := rebuild isURL s
  have rebuilt : Rebuilt isURL s { u with viewModel := u.viewModel.setCurrentPage 0 } :=
    ⟨h.setting, h.articlesArray, h.isLoading, h.currentPageParam, h.canLoadMore, h.errors,
      h.viewControllers, h.displayed, h.slot, h.requests, h.beyond⟩
  exact ⟨_, by simp [fetchDataSetting, ran], rebuilt, rebuilt.aligned rfl (absurd · nonempty)⟩

end Opening

end HomeViewController

end NewsReader
