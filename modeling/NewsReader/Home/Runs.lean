import NewsReader.Home.Opening

/-!
# Runs of the Home screen

* `handle_feed`: with the category list fixed, an event is a step of the feed it
  concerns and leaves every other feed alone;
* `reachable_aligned`: the arrays stay aligned in every run, settings saves
  included;
* `feed_invariant`: what every feed keeps holds of every feed in every run that
  saves no settings.
-/

namespace NewsReader

namespace HomeViewController

/-- `t` is `s` with the feed at `i` replaced by `f`. -/
structure Touches (i : Nat) (f : Feed) (s t : HomeViewController) : Prop where
  feed : t.feed i = some f
  slots : ∀ j, j ≠ i → t.slot j = s.slot j
  requests : ∀ j, j ≠ i → t.requestsFor j = s.requestsFor j
  setting : t.setting = s.setting
  aligned : s.Aligned → t.Aligned

theorem Touches.trans {i : Nat} {f g : Feed} {s t u : HomeViewController}
    (first : Touches i f s t) (second : Touches i g t u) : Touches i g s u :=
  ⟨second.feed, fun j ne => (second.slots j ne).trans (first.slots j ne),
    fun j ne => (second.requests j ne).trans (first.requests j ne),
    second.setting.trans first.setting, fun h => second.aligned (first.aligned h)⟩

section Touches

variable {s : HomeViewController} {i : Nat} {f : Feed}

theorem touches_refl (h : s.feed i = some f) : Touches i f s s :=
  ⟨h, fun _ _ => rfl, fun _ _ => rfl, rfl, id⟩

theorem touches_putSlot (h : s.feed i = some f) {σ : Slot} (same : f.slot.SameChild σ) :
    Touches i { f with slot := σ } s (s.putSlot i σ) := by
  obtain ⟨found, requests⟩ := feed_eq_some_iff.mp h
  exact ⟨feed_eq_some_iff.mpr ⟨slot_putSlot found σ, requests⟩,
    fun j ne => slot_putSlot_ne ne σ, fun _ _ => rfl, rfl, fun a => a.putSlot found same⟩

theorem touches_setIsRefreshing (h : s.feed i = some f) (value : Bool) :
    Touches i f s (s.setIsRefreshing value) :=
  ⟨h, fun _ _ => rfl, fun _ _ => rfl, rfl, fun a =>
    ⟨a.articlesArray, a.isLoading, a.currentPageParam, a.canLoadMore, a.errors,
      a.viewControllers, a.child, a.currentPage, a.displayed⟩⟩

theorem touches_settle (h : s.feed i = some f) (r : Request) (result : APIResult News) :
    Touches i f s (s.settle r result) :=
  ⟨h, fun _ _ => rfl, fun _ _ => rfl, rfl, fun a => a.settle r result⟩

theorem touches_outstanding (h : s.feed i = some f) {outstanding requests : List Request}
    (here : outstanding.filter (·.index = i) = requests)
    (others : ∀ j, j ≠ i → outstanding.filter (·.index = j) = s.requestsFor j) :
    Touches i { f with requests } s { s with outstanding } :=
  ⟨feed_eq_some_iff.mpr ⟨(feed_eq_some_iff.mp h).1, here⟩, fun _ _ => rfl, others, rfl, fun a =>
    a.setOutstanding outstanding⟩

variable {r : Request}

theorem touches_respond (a : s.Aligned) (h : s.feed r.index = some f) (result : APIResult News) :
    ∃ t, respond r result s = some t ∧
      Touches r.index { f with slot := f.slot.answer r result } s t := by
  have found := (feed_eq_some_iff.mp h).1
  have put := touches_putSlot h (f.slot.sameChild_answer r result)
  exact ⟨_, respond_eq found (a.category_of_slot found) result,
    put.trans (touches_settle put.feed r result)⟩

/-- The data task of `r` leaves `outstanding` before its completion runs. -/
theorem touches_answered (a : s.Aligned) (h : s.feed r.index = some f)
    (result : APIResult News) :
    ∃ t, respond r result { s with outstanding := s.outstanding.erase r } = some t ∧
      Touches r.index (f.respond r result) s t := by
  have erased : Touches r.index { f with requests := f.requests.erase r } s
      { s with outstanding := s.outstanding.erase r } := by
    apply touches_outstanding h
    · rw [← List.erase_filter, ← (feed_eq_some_iff.mp h).2]
      rfl
    · intro j ne
      rw [← List.erase_filter]
      exact List.erase_of_not_mem (by simp [Ne.symm ne])
  obtain ⟨t, ran, touched⟩ := touches_respond (erased.aligned a) erased.feed result
  exact ⟨t, ran, erased.trans touched⟩

theorem touches_send (isURL : String → Bool) (a : s.Aligned) (h : s.feed r.index = some f) :
    ∃ t, send isURL r s = some t ∧ Touches r.index (f.send isURL r) s t := by
  unfold send Feed.send
  cases APIManager.getTopHeadlines isURL r.page r.category.param "us" with
  | some result => exact touches_respond a h result
  | none =>
    refine ⟨_, rfl, touches_outstanding h ?_ ?_⟩
    · simp [← (feed_eq_some_iff.mp h).2, requestsFor]
    · intro j ne
      simp [requestsFor, Ne.symm ne]

theorem identity_of_child (a : s.Aligned) {c : CategoryType} (h : s.feed i = some f)
    (category : s.categories[i]? = some c) :
    s.viewControllers[i]? = some f.slot.child ∧ f.slot.child.viewModel.index = i ∧
    f.slot.child.viewModel.category = c := by
  have child := (slot_eq_some_iff.mp (feed_eq_some_iff.mp h).1).2.2.2.2.2
  obtain ⟨index, named, -, -⟩ := a.child i _ child
  exact ⟨child, index, Option.mem_unique named category⟩

theorem flag_of_feed (h : s.feed i = some f) :
    s.viewModel.isLoading[i]? = some f.slot.isLoading ∧
    s.viewModel.canLoadMore[i]? = some f.slot.canLoadMore ∧
    s.viewModel.currentPageParam[i]? = some f.slot.currentPageParam := by
  obtain ⟨-, h2, h3, h4, -, -⟩ := slot_eq_some_iff.mp (feed_eq_some_iff.mp h).1
  exact ⟨h2, h4, h3⟩

variable {c : CategoryType}

/-- A pull shows the indicator of the child, and asks for page 1 where the lock is free. -/
theorem refreshHomeChildVC_eq (isURL : String → Bool) (a : s.Aligned) (h : s.feed i = some f)
    (category : s.categories[i]? = some c) :
    s.refreshHomeChildVC isURL i =
      let shown := s.putSlot i { f.slot with
        child := { f.slot.child with refreshControlIsRefreshing := true } }
      if f.slot.isLoading then some shown
      else send isURL ⟨.pullToRefresh, i, c, 1⟩ (shown.setIsRefreshing true) := by
  obtain ⟨child, index, named⟩ := identity_of_child a h category
  have pulled := touches_putSlot (σ := { f.slot with
    child := { f.slot.child with refreshControlIsRefreshing := true } }) h ⟨rfl, rfl, rfl, rfl⟩
  have flag := (flag_of_feed pulled.feed).1
  simp only [refreshHomeChildVC, child, Option.bind_eq_bind, Option.bind_some,
    setChild_eq (feed_eq_some_iff.mp h).1, index, named, needPerform, flag, refreshData,
    Option.pure_def]

theorem touches_refresh (isURL : String → Bool) (a : s.Aligned) (h : s.feed i = some f)
    (category : s.categories[i]? = some c) :
    ∃ t, s.refreshHomeChildVC isURL i = some t ∧ Touches i (f.refresh isURL i c) s t := by
  have pulled := touches_putSlot (σ := { f.slot with
    child := { f.slot.child with refreshControlIsRefreshing := true } }) h ⟨rfl, rfl, rfl, rfl⟩
  rw [refreshHomeChildVC_eq isURL a h category]
  simp only [Feed.refresh]
  split
  · exact ⟨_, rfl, pulled⟩
  · have started := touches_setIsRefreshing pulled.feed true
    obtain ⟨t, ran, sent⟩ := touches_send (r := ⟨.pullToRefresh, i, c, 1⟩) isURL
      (started.aligned (pulled.aligned a)) started.feed
    exact ⟨t, ran, (pulled.trans started).trans sent⟩

/-- A load-more that is due takes the lock, counts its page and asks for it. -/
theorem loadMore_eq (isURL : String → Bool) (a : s.Aligned) (h : s.feed i = some f)
    (category : s.categories[i]? = some c) :
    s.loadMore isURL i =
      if f.slot.isLoading then some s
      else if f.slot.canLoadMore then
        send isURL ⟨.loadMore, i, c, f.slot.currentPageParam + 1⟩ (s.putSlot i { f.slot with
          isLoading := true, currentPageParam := f.slot.currentPageParam + 1 })
      else some s := by
  obtain ⟨child, index, named⟩ := identity_of_child a h category
  obtain ⟨isLoading, canLoadMore, -⟩ := flag_of_feed h
  have loading := touches_putSlot (σ := { f.slot with isLoading := true }) h ⟨rfl, rfl, rfl, rfl⟩
  have page := (flag_of_feed loading.feed).2.2
  simp only [HomeViewController.loadMore, child, Option.bind_eq_bind, Option.bind_some, index,
    named, needPerform, isLoading, canLoadMore, loadMoreApi,
    setIsLoading_eq (feed_eq_some_iff.mp h).1, page,
    setCurrentPageParam_eq (feed_eq_some_iff.mp loading.feed).1, putSlot_putSlot, Option.pure_def]

theorem touches_loadMore (isURL : String → Bool) (a : s.Aligned) (h : s.feed i = some f)
    (category : s.categories[i]? = some c) :
    ∃ t, s.loadMore isURL i = some t ∧ Touches i (f.loadMore isURL i c) s t := by
  rw [loadMore_eq isURL a h category, Feed.loadMore]
  split
  · exact ⟨_, rfl, touches_refl h⟩
  · split
    · have paged := touches_putSlot (σ := { f.slot with
        isLoading := true, currentPageParam := f.slot.currentPageParam + 1 }) h
        ⟨rfl, rfl, rfl, rfl⟩
      obtain ⟨t, ran, sent⟩ :=
        touches_send (r := ⟨.loadMore, i, c, f.slot.currentPageParam + 1⟩) isURL
          (paged.aligned a) paged.feed
      exact ⟨t, ran, paged.trans sent⟩
    · exact ⟨_, rfl, touches_refl h⟩

theorem touches_clear (h : s.feed i = some f) :
    s.setChild i (f.slot.child.setArticles []) =
      some (s.putSlot i { f.slot with child := f.slot.child.setArticles [] }) ∧
    Touches i f.clear s (s.putSlot i { f.slot with child := f.slot.child.setArticles [] }) :=
  ⟨setChild_eq (feed_eq_some_iff.mp h).1 _,
    touches_putSlot h ⟨by simp, by simp, by simp, by simp⟩⟩

end Touches

/-! ## Events that concern no feed -/

/-- `t` differs from `s` only in its alerts and in the page it shows. -/
structure SameFeeds (s t : HomeViewController) : Prop where
  slots : ∀ j, t.slot j = s.slot j
  requests : t.outstanding = s.outstanding
  setting : t.setting = s.setting
  aligned : t.Aligned

section Pages

variable {s t : HomeViewController}

theorem scrollToCategory_cases (stepped : s.scrollToCategory = some t) :
    ∃ alerts, t = { s with alerts } := by
  unfold scrollToCategory at stepped
  obtain ⟨error, -, stepped⟩ := Option.bind_eq_some_iff.mp stepped
  split at stepped
  · exact ⟨_, (Option.some.inj stepped).symm⟩
  · exact ⟨s.alerts, (Option.some.inj stepped).symm⟩

/-- Showing the child of a page and scrolling to its category. -/
theorem sameFeeds_page (a : s.Aligned) {page : Nat} (bound : page < s.categories.length)
    (stepped : scrollToCategory
      { s with displayed := some page, viewModel := s.viewModel.setCurrentPage page } = some t) :
    SameFeeds s t := by
  obtain ⟨alerts, rfl⟩ := scrollToCategory_cases stepped
  have nonempty : s.categories ≠ [] := fun none => by simp [none] at bound
  exact ⟨fun _ => rfl, rfl, rfl, a.articlesArray, a.isLoading, a.currentPageParam, a.canLoadMore,
    a.errors, a.viewControllers, a.child, fun _ => bound, (if_neg nonempty).symm⟩

/-- A category that is tapped shows its page, unless it is the one shown already. -/
theorem didSelectItemAt_cases (a : s.Aligned) {row : Nat}
    (stepped : s.didSelectItemAt row = some t) :
    scrollToCategory
      { s with displayed := some row, viewModel := s.viewModel.setCurrentPage row } = some t ∨
    s = t := by
  unfold didSelectItemAt at stepped
  split at stepped
  · obtain ⟨child, found, stepped⟩ := Option.bind_eq_some_iff.mp stepped
    have tag : child.tag = row := (a.child row child found).2.2.1
    rw [tag] at stepped
    exact Or.inl stepped
  · exact Or.inr (Option.some.inj stepped)

theorem sameFeeds_didSelectItemAt (a : s.Aligned) {row : Nat} (bound : row < s.categories.length)
    (stepped : s.didSelectItemAt row = some t) : SameFeeds s t := by
  obtain shown | rfl := didSelectItemAt_cases a stepped
  · exact sameFeeds_page a bound shown
  · exact ⟨fun _ => rfl, rfl, rfl, a⟩

/-- A swipe only brings in children of the array. -/
theorem tag_of_swipeTarget (a : s.Aligned) {tag : Nat} {direction : Swipe}
    {child : HomeChildViewController} (found : s.swipeTarget tag direction = some (some child)) :
    child.tag < s.categories.length := by
  have known {j : Nat} (found : (s.viewControllers[j]?.bind fun child => some (some child)) =
      some (some child)) : child.tag < s.categories.length := by
    obtain ⟨_, here, same⟩ := Option.bind_eq_some_iff.mp found
    obtain rfl := Option.some.inj (Option.some.inj same)
    rw [(a.child j _ here).2.2.1, ← a.viewControllers]
    exact (List.getElem?_eq_some_iff.mp here).1
  cases direction with
  | before =>
    simp only [swipeTarget, viewControllerBefore] at found
    split at found
    · cases found
    · exact known found
  | after =>
    simp only [swipeTarget, viewControllerAfter] at found
    split at found
    · cases found
    · exact known found
  | back => cases found

theorem sameFeeds_swipe (a : s.Aligned) {direction : Swipe}
    (stepped : s.swipe direction = some t) : SameFeeds s t := by
  unfold swipe at stepped
  by_cases empty : s.categories = []
  · rw [a.displayed, if_pos empty] at stepped
    obtain rfl := Option.some.inj stepped
    exact ⟨fun _ => rfl, rfl, rfl, a⟩
  · rw [a.displayed, if_neg empty] at stepped
    obtain ⟨target, found, stepped⟩ := Option.bind_eq_some_iff.mp stepped
    refine sameFeeds_page a ?_ stepped
    cases target with
    | none => exact a.currentPage empty
    | some child => exact tag_of_swipeTarget a found

end Pages

/-! ## One event -/

section Events

variable {isURL : String → Bool} {s t : HomeViewController} {e : HomeEvent}

def IsSave : HomeEvent → Prop
  | .saveSettingSubTabs _ => True
  | _ => False

instance : (e : HomeEvent) → Decidable (IsSave e)
  | .saveSettingSubTabs _ => .isTrue trivial
  | .refreshHomeChildVC _ | .loadMore _ | .respond .. | .didSelectItemAt _ | .swipe _
  | .confirm _ => .isFalse id

theorem exists_feed (a : s.Aligned) {i : Nat} (bound : i < s.categories.length) :
    ∃ c f, s.categories[i]? = some c ∧ s.feed i = some f := by
  obtain ⟨σ, found⟩ := a.slot_of_lt bound
  exact ⟨s.categories[i], ⟨σ, s.requestsFor i⟩, List.getElem?_eq_getElem bound,
    feed_eq_some_iff.mpr ⟨found, rfl⟩⟩

/-- **What an event does.** Settings saves apart, an event is one step of one
feed, or concerns none. -/
theorem handle_cases (a : s.Aligned) (allowed : s.Allowed e)
    (stepped : s.handle isURL e = some t) :
    IsSave e ∨
    (∃ i c f fe, s.categories[i]? = some c ∧ s.feed i = some f ∧ f.Allowed fe ∧
      (∀ j, s.feedEvent j e = if j = i then some fe else none) ∧
      Touches i (f.step isURL i c fe) s t) ∨
    ((∀ j, s.feedEvent j e = none) ∧ SameFeeds s t) := by
  cases e with
  | saveSettingSubTabs screen => exact Or.inl trivial
  | refreshHomeChildVC position =>
    obtain ⟨c, f, category, found⟩ := exists_feed a
      (a.viewControllers ▸ (show position < s.viewControllers.length from allowed))
    obtain ⟨u, ran, touched⟩ := touches_refresh isURL a found category
    obtain rfl : u = t := Option.mem_unique ran stepped
    exact Or.inr (Or.inl ⟨position, c, f, .refresh, category, found, trivial,
      fun j => by simp [feedEvent, eq_comm], touched⟩)
  | loadMore position =>
    obtain ⟨c, f, category, found⟩ := exists_feed a
      (a.viewControllers ▸ (show position < s.viewControllers.length from allowed))
    obtain ⟨u, ran, touched⟩ := touches_loadMore isURL a found category
    obtain rfl : u = t := Option.mem_unique ran stepped
    exact Or.inr (Or.inl ⟨position, c, f, .loadMore, category, found, trivial,
      fun j => by simp [feedEvent, eq_comm], touched⟩)
  | respond r result =>
    by_cases bound : r.index < s.categories.length
    · obtain ⟨c, f, category, found⟩ := exists_feed a bound
      obtain ⟨u, ran, touched⟩ := touches_answered a found result
      obtain rfl : u = t := Option.mem_unique ran stepped
      have mine : r ∈ f.requests :=
        (feed_eq_some_iff.mp found).2 ▸ mem_requestsFor.mpr ⟨allowed, rfl⟩
      exact Or.inr (Or.inl ⟨r.index, c, f, .respond r result, category, found, mine,
        fun j => by simp [feedEvent, eq_comm], touched⟩)
    · have trapped := (a.setOutstanding (s.outstanding.erase r)).respond_eq_none
        (Nat.not_lt.mp bound) result
      cases trapped.symm.trans stepped
  | didSelectItemAt row =>
    exact Or.inr (Or.inr ⟨fun _ => rfl, sameFeeds_didSelectItemAt a allowed stepped⟩)
  | swipe direction => exact Or.inr (Or.inr ⟨fun _ => rfl, sameFeeds_swipe a stepped⟩)
  | confirm alert =>
    have closed : Aligned { s with alerts := s.alerts.erase alert } :=
      ⟨a.articlesArray, a.isLoading, a.currentPageParam, a.canLoadMore, a.errors,
        a.viewControllers, a.child, a.currentPage, a.displayed⟩
    cases alert with
    | notice message =>
      obtain rfl := Option.some.inj stepped
      exact Or.inr (Or.inr ⟨fun _ => rfl, fun _ => rfl, rfl, rfl, closed⟩)
    | categoryError message =>
      obtain ⟨child, shown, stepped⟩ := Option.bind_eq_some_iff.mp stepped
      have bound : s.viewModel.currentPage < s.categories.length :=
        a.viewControllers ▸ (List.getElem?_eq_some_iff.mp shown).1
      obtain ⟨c, f, category, found⟩ := exists_feed a bound
      obtain ⟨same, -, -⟩ := identity_of_child a found category
      obtain rfl : f.slot.child = child := Option.mem_unique same shown
      have found' : feed { s with alerts := s.alerts.erase (.categoryError message) }
        s.viewModel.currentPage = some f := found
      obtain ⟨written, touched⟩ := touches_clear found'
      obtain rfl := Option.mem_unique written stepped
      exact Or.inr (Or.inl ⟨s.viewModel.currentPage, c, f, .clear, category, found, trivial,
        fun j => by simp [feedEvent, eq_comm],
        ⟨touched.feed, touched.slots, touched.requests, touched.setting,
          fun _ => touched.aligned closed⟩⟩)

/-- A settings save posts and rebuilds the screen for the new categories, or is refused
and changes nothing. -/
theorem handle_save_cases {screen : SettingSubTabsViewModel} (permitted : screen.Permitted)
    (stepped : s.handle isURL (.saveSettingSubTabs screen) = some t) :
    ((screen.saveSettingSubTabs s.setting).2.2 = false ∧ t = s) ∨
    ((screen.saveSettingSubTabs s.setting).2.2 = true ∧ ∃ setting : SettingManager,
      setting.categories = (screen.cells.filter (·.isEnable)).map (·.category) ∧
      Rebuilt isURL { s with setting } t ∧ t.Aligned) := by
  simp only [handle, saveSettingSubTabs] at stepped
  cases saved : screen.saveSettingSubTabs s.setting with
  | mk screen' rest =>
    obtain ⟨setting, posted⟩ := rest
    rw [saved] at stepped
    cases posted with
    | false =>
      have same : setting = s.setting := by
        simp only [SettingSubTabsViewModel.saveSettingSubTabs] at saved
        split at saved
        · simp at saved
          exact saved.2.symm
        · simp at saved
      subst same
      exact Or.inl ⟨rfl, (Option.some.inj stepped).symm⟩
    | true =>
      obtain ⟨chosen, -⟩ := SettingSubTabsViewModel.saveSettingSubTabs_posted saved
      have nonempty : setting.categories ≠ [] := chosen ▸ permitted.selected_ne_nil
      obtain ⟨u, ran, rebuilt, aligned⟩ :=
        fetchDataSetting_eq isURL { s with setting } nonempty
      obtain rfl : u = t := Option.mem_unique ran stepped
      exact Or.inr ⟨rfl, setting, chosen, rebuilt, aligned⟩

theorem handle_save {screen : SettingSubTabsViewModel} (permitted : screen.Permitted)
    (stepped : s.handle isURL (.saveSettingSubTabs screen) = some t) :
    t = s ∨ ∃ setting : SettingManager,
      setting.categories = (screen.cells.filter (·.isEnable)).map (·.category) ∧
      Rebuilt isURL { s with setting } t ∧ t.Aligned := by
  obtain ⟨-, same⟩ | ⟨-, rebuilt⟩ := handle_save_cases permitted stepped
  · exact Or.inl same
  · exact Or.inr rebuilt

theorem handle_aligned (a : s.Aligned) (allowed : s.Allowed e)
    (stepped : s.handle isURL e = some t) : t.Aligned := by
  obtain saves | ⟨i, c, f, fe, -, -, -, -, touched⟩ | ⟨-, same⟩ := handle_cases a allowed stepped
  · cases e with
    | saveSettingSubTabs screen =>
      obtain rfl | ⟨_, -, -, aligned⟩ := handle_save allowed stepped
      · exact a
      · exact aligned
    | _ => cases saves
  · exact touched.aligned a
  · exact same.aligned

/-- **The arrays stay aligned** in every run, settings saves included. -/
theorem reachable_aligned (h : (machine isURL).Reachable (Launched isURL) s) : s.Aligned := by
  apply h.invariant Aligned
  · intro s launched
    obtain ⟨setting, -, aligned⟩ := launched.rebuilt
    exact aligned
  · intro s e t _ a allowed stepped
    exact handle_aligned a allowed stepped

theorem handle_setting (a : s.Aligned) (allowed : s.Allowed e) (kept : ¬ IsSave e)
    (stepped : s.handle isURL e = some t) : t.setting = s.setting := by
  obtain saves | ⟨i, c, f, fe, -, -, -, -, touched⟩ | ⟨-, same⟩ := handle_cases a allowed stepped
  · exact absurd saves kept
  · exact touched.setting
  · exact same.setting

/-- What an event is to one feed, settings saves apart. -/
theorem handle_feed (a : s.Aligned) (allowed : s.Allowed e) (kept : ¬ IsSave e)
    (stepped : s.handle isURL e = some t) {i : Nat} {c : CategoryType} {f : Feed}
    (category : s.categories[i]? = some c) (found : s.feed i = some f) :
    (∃ fe, s.feedEvent i e = some fe ∧ f.Allowed fe ∧ t.feed i = some (f.step isURL i c fe)) ∨
    (s.feedEvent i e = none ∧ t.feed i = some f) := by
  obtain saves | ⟨j, d, g, fe, named, there, ok, concerns, touched⟩ | ⟨nowhere, same⟩ :=
    handle_cases a allowed stepped
  · exact absurd saves kept
  · by_cases here : i = j
    · subst here
      obtain rfl : d = c := Option.mem_unique named category
      obtain rfl : g = f := Option.mem_unique there found
      exact Or.inl ⟨fe, by simp [concerns], ok, touched.feed⟩
    · obtain ⟨slot, requests⟩ := feed_eq_some_iff.mp found
      exact Or.inr ⟨by simp [concerns, here], feed_eq_some_iff.mpr
        ⟨(touched.slots i here).trans slot, (touched.requests i here).trans requests⟩⟩
  · obtain ⟨slot, requests⟩ := feed_eq_some_iff.mp found
    refine Or.inr ⟨nowhere i, feed_eq_some_iff.mpr ⟨(same.slots i).trans slot, ?_⟩⟩
    rw [requestsFor, same.requests]
    exact requests

/-- With the category list fixed, the feeds run side by side: what holds of
every opening feed and is kept by every step of a feed holds of every feed. -/
theorem feed_invariant {cond : HomeViewController → HomeEvent → Prop}
    (fixed : ∀ s e, cond s e → ¬ IsSave e) (Inv : Nat → CategoryType → Feed → Prop)
    (start : ∀ i c, Inv i c (Feed.opening isURL i c))
    (step : ∀ s e i c f fe, cond s e → s.categories[i]? = some c → s.feed i = some f →
      s.feedEvent i e = some fe → f.Allowed fe → Inv i c f → Inv i c (f.step isURL i c fe))
    (h : ((machine isURL).given cond).Reachable (Launched isURL) s)
    {i : Nat} {c : CategoryType} {f : Feed} (category : s.categories[i]? = some c)
    (found : s.feed i = some f) : Inv i c f := by
  have every : ∀ i c f, s.categories[i]? = some c → s.feed i = some f → Inv i c f := by
    refine h.invariant
      (fun s => ∀ i c f, s.categories[i]? = some c → s.feed i = some f → Inv i c f) ?_ ?_
    · intro s launched i c f category found
      obtain ⟨setting, rebuilt, -⟩ := launched.rebuilt
      have opening := rebuilt.feed (rebuilt.categories ▸ category)
      obtain rfl := Option.mem_unique opening found
      exact start i c
    · intro s e t reached ih allowed stepped i c f' category found'
      have a := reachable_aligned reached.of_given
      have kept := fixed s e allowed.2
      have same : t.setting = s.setting := handle_setting a allowed.1 kept stepped
      have category' : s.categories[i]? = some c := by
        rw [← category, categories, categories, same]
      obtain ⟨d, f, named, there⟩ := exists_feed a (List.getElem?_eq_some_iff.mp category').1
      obtain rfl : d = c := Option.mem_unique named category'
      obtain ⟨fe, concerns, ok, moved⟩ | ⟨-, stays⟩ :=
        handle_feed a allowed.1 kept stepped category' there
      · obtain rfl := Option.mem_unique moved found'
        exact step s e i d f fe allowed.2 category' there concerns ok (ih i d f category' there)
      · obtain rfl := Option.mem_unique stays found'
        exact ih i d f category' there
  exact every i c f category found

/-- A rebuilt screen holds opening slots only. -/
theorem Rebuilt.opening (h : Rebuilt isURL s t) (a : t.Aligned) {i : Nat} {σ : Slot}
    (found : t.slot i = some σ) : ∃ c, σ = (Feed.opening isURL i c).slot := by
  obtain ⟨c, category⟩ := Option.isSome_iff_exists.mp (a.category_of_slot found)
  rw [h.categories] at category
  exact ⟨c, Option.mem_unique found (h.slot i c category)⟩

/-- What every opening slot has, and every step of a feed keeps, every slot has in
every run, settings saves included. -/
theorem slot_invariant (P : Slot → Prop) (opening : ∀ i c, P (Feed.opening isURL i c).slot)
    (step : ∀ i c f fe, P f.slot → P (Feed.step isURL i c f fe).slot)
    (h : (machine isURL).Reachable (Launched isURL) s) {i : Nat} {σ : Slot}
    (found : s.slot i = some σ) : P σ := by
  have rebuilt {s t : HomeViewController} (h : Rebuilt isURL s t) (a : t.Aligned) :
      ∀ i σ, t.slot i = some σ → P σ := by
    intro i σ found
    obtain ⟨c, rfl⟩ := h.opening a found
    exact opening i c
  have every : ∀ i σ, s.slot i = some σ → P σ := by
    apply h.invariant (fun s => ∀ i σ, s.slot i = some σ → P σ)
    · intro s launched
      obtain ⟨setting, built, a⟩ := launched.rebuilt
      exact rebuilt built a
    · intro s e t reached before allowed stepped
      obtain saves | ⟨i, c, f, fe, -, found, -, -, touched⟩ | ⟨-, same⟩ :=
        handle_cases (reachable_aligned reached) allowed stepped
      · cases e with
        | saveSettingSubTabs screen =>
          obtain rfl | ⟨setting, -, built, a⟩ := handle_save allowed stepped
          · exact before
          · exact rebuilt built a
        | _ => cases saves
      · intro j σ there
        by_cases here : j = i
        · subst here
          obtain rfl := Option.mem_unique (feed_eq_some_iff.mp touched.feed).1 there
          exact step j c f fe (before j _ (feed_eq_some_iff.mp found).1)
        · exact before j σ (touched.slots j here ▸ there)
      · exact fun j σ there => before j σ (same.slots j ▸ there)
  exact every i σ found

end Events

end HomeViewController

end NewsReader
