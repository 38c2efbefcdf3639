import NewsReader.Home.Requests

/-!
# Pages left loading

A page starts with its activity indicator on, and a pull starts its refresh control.
Both stop when a list is assigned to it, which a failure does not do: a failed fetch is
recorded in `errors`, for an alert to be raised when the page is next shown, and the
handler of that alert assigns the empty list. So a page is not left loading as long as
no failure strikes the page that is shown (`no_page_left_loading`).
-/

namespace NewsReader

namespace HomeChildViewController

/-- The activity indicator runs, or the refresh control does. -/
def IsLoading (vc : HomeChildViewController) : Prop :=
  vc.activityIndicatorIsAnimating = true ∨ vc.refreshControlIsRefreshing = true

instance (vc : HomeChildViewController) : Decidable vc.IsLoading :=
  inferInstanceAs (Decidable (_ ∨ _))

theorem fetchData_stops (vc : HomeChildViewController) : ¬ vc.fetchData.IsLoading := by
  unfold fetchData reloadData IsLoading
  dsimp only
  split <;> simp

theorem setArticles_stops {vc : HomeChildViewController} (loaded : vc.isViewLoaded = true)
    (articles : List News) : ¬ (vc.setArticles articles).IsLoading := by
  have fetched : vc.setArticles articles =
      { vc with viewModel := { vc.viewModel with articles } }.fetchData := if_pos loaded
  rw [fetched]
  exact fetchData_stops _

end HomeChildViewController

namespace Request

/-- The response assigns no list to the child. -/
def Fruitless (r : Request) : APIResult News → Prop
  | .failure _ => True
  | .success response => r.action ≠ .pullToRefresh ∧ response.articles = []

instance (r : Request) : (result : APIResult News) → Decidable (r.Fruitless result)
  | .failure _ => .isTrue trivial
  | .success response =>
    inferInstanceAs (Decidable (r.action ≠ .pullToRefresh ∧ response.articles = []))

/-- What `errors` holds for the page after the response, where it held `error`. -/
def recorded (r : Request) (result : APIResult News) (error : String) : String :=
  if r.action = .fetchData then
    match result with
    | .failure failure => failure.localizedDescription
    | .success response => if response.articles.isEmpty then "Empty data" else error
  else error

end Request

namespace Slot

theorem answer_error (r : Request) (result : APIResult News) (σ : Slot) :
    (σ.answer r result).error = r.recorded result σ.error := by
  obtain ⟨action, i, c, page⟩ := r
  cases action <;> cases result <;>
    simp only [answer, fecthDataResponse, refreshDataResponse, loadMoreApiResponse,
      Request.recorded, reduceCtorEq, if_true, if_false]
  all_goals first
    | rfl
    | split <;> rfl

/-- Only a list stops the indicators. -/
theorem answer_isLoading_iff {σ : Slot} (loaded : σ.child.isViewLoaded = true) (r : Request)
    (result : APIResult News) :
    (σ.answer r result).child.IsLoading ↔ r.Fruitless result ∧ σ.child.IsLoading := by
  have stops (articles : List News) := HomeChildViewController.setArticles_stops loaded articles
  obtain ⟨action, i, c, page⟩ := r
  cases result with
  | failure error => cases action <;> simp [answer, fecthDataResponse, refreshDataResponse,
      loadMoreApiResponse, Request.Fruitless]
  | success response =>
    cases action with
    | fetchData =>
      by_cases empty : response.articles = []
      · simp [answer, fecthDataResponse, Request.Fruitless, empty]
      · simp [answer, fecthDataResponse, showArticles, Request.Fruitless, empty, stops]
    | pullToRefresh =>
      simp [answer, refreshDataResponse, showArticles, Request.Fruitless, stops]
    | loadMore =>
      by_cases empty : response.articles = []
      · simp [answer, loadMoreApiResponse, Request.Fruitless, empty]
      · have more : response.articles.length > 0 := List.length_pos_iff.mpr empty
        simp [answer, loadMoreApiResponse, showArticles, Request.Fruitless, empty, more, stops]

end Slot

/-- The API layer refuses a request before it is sent for one of two reasons. -/
theorem APIManager.getTopHeadlines_refused (isURL : String → Bool) {page pageSize : Int}
    {category country : String} {result : APIResult News}
    (h : getTopHeadlines isURL page category country pageSize = some result) :
    result = .failure .errorNetwork ∨ result = .failure .errorURL := by
  unfold getTopHeadlines request at h
  split at h
  · exact .inl (Option.some.inj h).symm
  · split at h
    · cases h
    · exact .inr (Option.some.inj h).symm

namespace Feed

/-- The page is loading, and nothing it has asked for is still to come. -/
def Stuck (f : Feed) : Prop := f.slot.child.IsLoading ∧ f.requests = []

variable {isURL : String → Bool} {i : Nat} {c : CategoryType} {f : Feed}

theorem stuck_respond_iff (loaded : f.slot.child.isViewLoaded = true) {r : Request}
    (mem : r ∈ f.requests) (result : APIResult News) :
    (f.respond r result).Stuck ↔
      r.Fruitless result ∧ f.slot.child.IsLoading ∧ f.requests = [r] := by
  have last : f.requests.erase r = [] ↔ f.requests = [r] := by
    constructor
    · intro none
      have length := List.length_erase_of_mem mem
      rw [none, List.length_nil] at length
      have positive := List.length_pos_of_mem mem
      obtain ⟨q, single⟩ := List.length_eq_one_iff.mp (show f.requests.length = 1 by omega)
      rw [single, List.mem_singleton] at mem
      rw [single, mem]
    · intro single
      simp [single]
  simp only [Stuck, respond, Slot.answer_isLoading_iff loaded, last, and_assoc]

theorem respond_error (f : Feed) (r : Request) (result : APIResult News) :
    (f.respond r result).slot.error = r.recorded result f.slot.error :=
  Slot.answer_error r result f.slot

/-- A pull leaves the page stuck when its request is refused before it is sent. -/
theorem stuck_refresh_iff (locked : f.Locked) :
    (f.refresh isURL i c).Stuck ↔
      f.requests = [] ∧
        (APIManager.getTopHeadlines isURL 1 c.param "us" : Option (APIResult News)) ≠ none := by
  simp only [refresh]
  split
  · rename_i busy
    have waiting : f.requests ≠ [] := by
      intro none
      have one : f.loads.length = 1 := locked.flag.mp busy
      simp [loads, none] at one
    simp [Stuck, waiting]
  · simp only [send]
    split
    · rename_i result answered
      obtain ⟨error, rfl⟩ := APIManager.getTopHeadlines_failure isURL answered
      simp only [Int.cast_ofNat_Int] at answered
      simp [Stuck, answered, Slot.answer, Slot.refreshDataResponse,
        HomeChildViewController.IsLoading]
    · rename_i sent
      simp only [Int.cast_ofNat_Int] at sent
      simp [Stuck, sent]

theorem refresh_error (f : Feed) : (f.refresh isURL i c).slot.error = f.slot.error := by
  simp only [refresh]
  split
  · rfl
  · obtain ⟨error, answered⟩ | sent := send_cases isURL ⟨.pullToRefresh, i, c, 1⟩
      { f with slot := { f.slot with
        child := { f.slot.child with refreshControlIsRefreshing := true } } }
    · rw [answered]
      rfl
    · rw [sent]

/-- A load-more neither starts nor stops an indicator before it is answered. -/
theorem stuck_loadMore (h : (f.loadMore isURL i c).Stuck) :
    f.Stuck ∧ (f.loadMore isURL i c).slot.error = f.slot.error := by
  revert h
  simp only [loadMore]
  split
  · intro stuck
    exact ⟨stuck, rfl⟩
  · split
    · obtain ⟨error, answered⟩ | sent :=
        send_cases isURL ⟨.loadMore, i, c, (f.slot.currentPageParam + 1)⟩
          { f with slot := { f.slot with
            isLoading := true, currentPageParam := f.slot.currentPageParam + 1 } }
      · rw [answered]
        intro stuck
        exact ⟨stuck, rfl⟩
      · rw [sent]
        intro stuck
        exact absurd stuck.2 (by simp)
    · intro stuck
      exact ⟨stuck, rfl⟩

/-- A page whose first fetch is refused starts stuck, with the reason recorded. -/
theorem opening_stuck (h : (opening isURL i c).requests = []) :
    (APIManager.getTopHeadlines isURL 1 c.param "us" : Option (APIResult News)) ≠ none ∧
    (opening isURL i c).slot.error ≠ "" := by
  revert h
  simp only [opening, send]
  split
  · rename_i result answered
    simp only [Int.cast_ofNat_Int] at answered
    intro _
    constructor
    · simp [answered]
    · rcases APIManager.getTopHeadlines_refused isURL answered with rfl | rfl <;>
        simp [Slot.answer, Slot.fecthDataResponse, APIError.localizedDescription]
  · intro sent
    simp at sent

theorem not_stuck_clear (loaded : f.slot.child.isViewLoaded = true) : ¬ f.clear.Stuck := by
  intro stuck
  exact HomeChildViewController.setArticles_stops loaded [] stuck.1

end Feed

/-- The alert `scrollToCategory` raises. -/
def Alert.IsCategoryError : Alert → Prop
  | .notice _ => False
  | .categoryError _ => True

instance : (a : Alert) → Decidable a.IsCategoryError
  | .notice _ => .isFalse id
  | .categoryError _ => .isTrue trivial

namespace HomeViewController

/-- An error alert waits for its Ok. -/
def Warned (s : HomeViewController) : Prop := ∃ a ∈ s.alerts, a.IsCategoryError

instance (s : HomeViewController) : Decidable s.Warned :=
  inferInstanceAs (Decidable (∃ a ∈ s.alerts, a.IsCategoryError))

/-- The page shown is not loading, with nothing outstanding for it and no alert open. -/
def Settled (s : HomeViewController) : Prop :=
  ∀ child ∈ s.viewControllers[s.viewModel.currentPage]?,
    s.requestsFor s.viewModel.currentPage = [] → s.alerts = [] → ¬ child.IsLoading

instance (s : HomeViewController) : Decidable s.Settled :=
  inferInstanceAs (Decidable (∀ child ∈ s.viewControllers[s.viewModel.currentPage]?, _))

/-- A page whose error is `error` is taken care of: it has one for the next visit, and
is not shown unless an error alert is open. -/
def CaredFor (s : HomeViewController) (i : Nat) (error : String) : Prop :=
  error ≠ "" ∧ (i = s.viewModel.currentPage → s.Warned)

instance (s : HomeViewController) (i : Nat) (error : String) : Decidable (s.CaredFor i error) :=
  inferInstanceAs (Decidable (_ ∧ _))

/-- Every page that is stuck is taken care of. -/
def Surfaced (s : HomeViewController) : Prop :=
  ∀ i f, s.feed i = some f → f.Stuck → s.CaredFor i f.slot.error

/-- A page is taken care of that loads and gets its last response without a list, or
whose pull is refused. -/
def Surfaces (isURL : String → Bool) (s : HomeViewController) : HomeEvent → Prop
  | .respond r result => ∀ f ∈ s.feed r.index,
    r.Fruitless result → f.slot.child.IsLoading → f.requests = [r] →
      s.CaredFor r.index (r.recorded result f.slot.error)
  | .refreshHomeChildVC position => ∀ f ∈ s.feed position, ∀ c ∈ s.categories[position]?,
    f.requests = [] →
      (APIManager.getTopHeadlines isURL 1 c.param "us" : Option (APIResult News)) ≠ none →
      s.CaredFor position f.slot.error
  | _ => True

instance (isURL : String → Bool) (s : HomeViewController) :
    (e : HomeEvent) → Decidable (s.Surfaces isURL e)
  | .respond r _ => inferInstanceAs (Decidable (∀ f ∈ s.feed r.index, _))
  | .refreshHomeChildVC position => inferInstanceAs (Decidable (∀ f ∈ s.feed position, _))
  | .saveSettingSubTabs _ | .loadMore _ | .didSelectItemAt _ | .swipe _ | .confirm _ =>
    .isTrue trivial

/-- The fetch of the page first shown is not refused. -/
def FirstSent (isURL : String → Bool) (s : HomeViewController) : Prop :=
  ∀ c ∈ s.categories[0]?,
    (APIManager.getTopHeadlines isURL 1 c.param "us" : Option (APIResult News)) = none

instance (isURL : String → Bool) (s : HomeViewController) : Decidable (s.FirstSent isURL) :=
  inferInstanceAs (Decidable (∀ c ∈ s.categories[0]?, _))

/-- The page shown, and whether an error alert is open. -/
structure SamePage (s t : HomeViewController) : Prop where
  currentPage : t.viewModel.currentPage = s.viewModel.currentPage
  warned : t.Warned ↔ s.Warned

section Frames

variable {isURL : String → Bool} {s t u : HomeViewController} {r : Request}

theorem SamePage.caredFor_iff (h : s.SamePage t) (i : Nat) (error : String) :
    t.CaredFor i error ↔ s.CaredFor i error := by
  rw [CaredFor, CaredFor, h.currentPage, h.warned]

/-- What a response raises is never the error alert. -/
theorem samePage_respond (a : s.Aligned) (bound : r.index < s.categories.length)
    {result : APIResult News} (ran : respond r result s = some t) : s.SamePage t := by
  obtain ⟨σ, found⟩ := a.slot_of_lt bound
  rw [respond_eq found (a.category_of_slot found)] at ran
  obtain rfl := Option.some.inj ran
  have notices : ∀ alert ∈ r.notices result, ¬ alert.IsCategoryError := by
    obtain ⟨action, i, c, page⟩ := r
    cases action <;> cases result <;> simp [Request.notices, Alert.IsCategoryError]
  constructor
  · rfl
  · constructor
    · rintro ⟨alert, mem, warns⟩
      rcases List.mem_append.mp mem with before | new
      · exact ⟨alert, before, warns⟩
      · exact absurd warns (notices alert new)
    · rintro ⟨alert, mem, warns⟩
      exact ⟨alert, List.mem_append_left _ mem, warns⟩

theorem samePage_send (a : s.Aligned) (bound : r.index < s.categories.length)
    (ran : send isURL r s = some t) : s.SamePage t := by
  unfold send at ran
  split at ran
  · exact samePage_respond a bound ran
  · obtain rfl := Option.some.inj ran
    exact ⟨rfl, Iff.rfl⟩

variable {i : Nat} {c : CategoryType} {f : Feed}

theorem samePage_refresh (a : s.Aligned) (category : s.categories[i]? = some c)
    (found : s.feed i = some f) (stepped : s.refreshHomeChildVC isURL i = some t) :
    s.SamePage t := by
  rw [refreshHomeChildVC_eq isURL a found category] at stepped
  dsimp only at stepped
  split at stepped
  · obtain rfl := Option.some.inj stepped
    exact ⟨rfl, Iff.rfl⟩
  · have pulled := touches_putSlot (σ := { f.slot with
      child := { f.slot.child with refreshControlIsRefreshing := true } }) found
      ⟨rfl, rfl, rfl, rfl⟩
    have started := touches_setIsRefreshing pulled.feed true
    have bound : i < s.categories.length := (List.getElem?_eq_some_iff.mp category).1
    have sent := samePage_send (r := ⟨.pullToRefresh, i, c, 1⟩)
      (started.aligned (pulled.aligned a)) bound stepped
    exact ⟨sent.currentPage, sent.warned⟩

theorem samePage_loadMore (a : s.Aligned) (category : s.categories[i]? = some c)
    (found : s.feed i = some f) (stepped : s.loadMore isURL i = some t) : s.SamePage t := by
  rw [loadMore_eq isURL a found category] at stepped
  split at stepped
  · obtain rfl := Option.some.inj stepped
    exact ⟨rfl, Iff.rfl⟩
  · split at stepped
    · have paged := touches_putSlot (σ := { f.slot with
        isLoading := true, currentPageParam := f.slot.currentPageParam + 1 }) found
        ⟨rfl, rfl, rfl, rfl⟩
      have bound : i < s.categories.length := (List.getElem?_eq_some_iff.mp category).1
      have sent := samePage_send (r := ⟨.loadMore, i, c, f.slot.currentPageParam + 1⟩)
        (paged.aligned a) bound stepped
      exact ⟨sent.currentPage, sent.warned⟩
    · obtain rfl := Option.some.inj stepped
      exact ⟨rfl, Iff.rfl⟩

/-- A page with an error raises its alert when it is shown, and no alert is closed. -/
theorem scrollToCategory_warned (stepped : s.scrollToCategory = some t) :
    t.viewModel.currentPage = s.viewModel.currentPage ∧
    (s.viewModel.errors[s.viewModel.currentPage]? ≠ some "" → t.Warned) := by
  unfold scrollToCategory at stepped
  obtain ⟨error, found, stepped⟩ := Option.bind_eq_some_iff.mp stepped
  split at stepped
  · obtain rfl := Option.some.inj stepped
    constructor
    · rfl
    · intro _
      exact ⟨.categoryError error, List.mem_append_right _ (List.mem_singleton_self _), trivial⟩
  · rename_i empty
    obtain rfl := Option.some.inj stepped
    constructor
    · rfl
    · intro nonempty
      rw [not_not] at empty
      rw [found, empty] at nonempty
      exact absurd rfl nonempty

end Frames

section Steps

variable {isURL : String → Bool} {s t : HomeViewController} {e : HomeEvent} {i : Nat}
  {c : CategoryType} {f g : Feed}

theorem SameFeeds.feed (same : SameFeeds s t) (j : Nat) : t.feed j = s.feed j := by
  simp only [HomeViewController.feed, same.slots j, requestsFor, same.requests]

theorem Touches.feed_ne (touched : Touches i g s t) {j : Nat} (ne : j ≠ i) :
    t.feed j = s.feed j := by
  simp only [HomeViewController.feed, touched.slots j ne, touched.requests j ne]

/-- An event of one feed, with the same page shown. -/
theorem surfaced_touched_iff (surfaced : s.Surfaced) (touched : Touches i g s t)
    (page : s.SamePage t) : t.Surfaced ↔ (g.Stuck → s.CaredFor i g.slot.error) := by
  constructor
  · intro after stuck
    exact (page.caredFor_iff i _).mp (after i g touched.feed stuck)
  · intro cared j f' found stuck
    rw [page.caredFor_iff]
    by_cases here : j = i
    · subst here
      obtain rfl := Option.mem_unique touched.feed found
      exact cared stuck
    · rw [touched.feed_ne here] at found
      exact surfaced j f' found stuck

/-- Showing a page raises the alert its error waits for. -/
theorem surfaced_page (surfaced : s.Surfaced) (same : SameFeeds s t) {page : Nat}
    (stepped : scrollToCategory
      { s with displayed := some page, viewModel := s.viewModel.setCurrentPage page } = some t) :
    t.Surfaced := by
  obtain ⟨shown, warns⟩ := scrollToCategory_warned stepped
  intro j f found stuck
  rw [same.feed] at found
  have recorded := (surfaced j f found stuck).1
  have error := (slot_eq_some_iff.mp (feed_eq_some_iff.mp found).1).2.2.2.2.1
  constructor
  · exact recorded
  · intro here
    rw [shown] at here
    apply warns
    change s.viewModel.errors[page]? ≠ some ""
    obtain rfl : j = page := here
    rw [error]
    intro blank
    exact recorded (Option.some.inj blank)

theorem surfaced_didSelectItemAt (surfaced : s.Surfaced) (a : s.Aligned) (same : SameFeeds s t)
    {row : Nat} (stepped : s.didSelectItemAt row = some t) : t.Surfaced := by
  obtain shown | rfl := didSelectItemAt_cases a stepped
  · exact surfaced_page surfaced same shown
  · exact surfaced

theorem surfaced_swipe (surfaced : s.Surfaced) (same : SameFeeds s t) {direction : Swipe}
    (stepped : s.swipe direction = some t) : t.Surfaced := by
  unfold swipe at stepped
  split at stepped
  · obtain rfl := Option.some.inj stepped
    exact surfaced
  · obtain ⟨target, -, stepped⟩ := Option.bind_eq_some_iff.mp stepped
    exact surfaced_page surfaced same stepped

theorem surfaced_notice (surfaced : s.Surfaced) {message : String}
    (stepped : s.confirm (.notice message) = some t) : t.Surfaced := by
  obtain rfl := Option.some.inj stepped
  intro j f found stuck
  obtain ⟨recorded, warned⟩ := surfaced j f found stuck
  constructor
  · exact recorded
  · intro here
    obtain ⟨alert, mem, warns⟩ := warned here
    have other : alert ≠ .notice message := by
      rintro rfl
      exact warns
    exact ⟨alert, (List.mem_erase_of_ne other).mpr mem, warns⟩

/-- The handler of the error alert stops the page that is shown. -/
theorem surfaced_categoryError (surfaced : s.Surfaced)
    (loaded : f.slot.child.isViewLoaded = true)
    (touched : Touches s.viewModel.currentPage f.clear s t) {message : String}
    (stepped : s.confirm (.categoryError message) = some t) : t.Surfaced := by
  have page : t.viewModel.currentPage = s.viewModel.currentPage := by
    obtain ⟨child, -, stepped⟩ := Option.bind_eq_some_iff.mp stepped
    obtain ⟨children, -, written⟩ := Option.bind_eq_some_iff.mp stepped
    obtain rfl := Option.some.inj written
    rfl
  intro j f' found stuck
  by_cases here : j = s.viewModel.currentPage
  · subst here
    obtain rfl := Option.mem_unique touched.feed found
    exact absurd stuck (Feed.not_stuck_clear loaded)
  · rw [touched.feed_ne here] at found
    constructor
    · exact (surfaced j f' found stuck).1
    · intro shown
      exact absurd (shown.trans page) here

/-- A pull leaves its page stuck where the lock is free, nothing is outstanding and the
request is refused. -/
theorem surfaced_refresh_iff (a : s.Aligned) (surfaced : s.Surfaced)
    (category : s.categories[i]? = some c) (found : s.feed i = some f) (locked : f.Locked)
    (touched : Touches i (f.refresh isURL i c) s t)
    (stepped : s.refreshHomeChildVC isURL i = some t) :
    t.Surfaced ↔ s.Surfaces isURL (.refreshHomeChildVC i) := by
  rw [surfaced_touched_iff surfaced touched (samePage_refresh a category found stepped)]
  simp only [Feed.stuck_refresh_iff locked, Feed.refresh_error, Surfaces]
  constructor
  · intro cared f' found' c' category' none refused
    obtain rfl := Option.mem_unique found found'
    obtain rfl := Option.mem_unique category category'
    exact cared ⟨none, refused⟩
  · rintro surfaces ⟨none, refused⟩
    exact surfaces f found c category none refused

/-- A load-more leaves a page stuck only where it was. -/
theorem surfaced_loadMore (a : s.Aligned) (surfaced : s.Surfaced)
    (category : s.categories[i]? = some c) (found : s.feed i = some f)
    (touched : Touches i (f.loadMore isURL i c) s t) (stepped : s.loadMore isURL i = some t) :
    t.Surfaced := by
  rw [surfaced_touched_iff surfaced touched (samePage_loadMore a category found stepped)]
  intro stuck
  obtain ⟨before, error⟩ := Feed.stuck_loadMore stuck
  rw [error]
  exact surfaced i f found before

/-- A response leaves its page stuck where it is the last and brings nothing. -/
theorem surfaced_respond_iff {r : Request} {result : APIResult News} (a : s.Aligned)
    (surfaced : s.Surfaced) (bound : r.index < s.categories.length)
    (found : s.feed r.index = some f) (loaded : f.slot.child.isViewLoaded = true)
    (asked : r ∈ f.requests) (touched : Touches r.index (f.respond r result) s t)
    (stepped : s.handle isURL (.respond r result) = some t) :
    t.Surfaced ↔ s.Surfaces isURL (.respond r result) := by
  have page : s.SamePage t := by
    have answered := samePage_respond (a.setOutstanding (s.outstanding.erase r)) bound stepped
    exact ⟨answered.currentPage, answered.warned⟩
  rw [surfaced_touched_iff surfaced touched page]
  simp only [Feed.stuck_respond_iff loaded asked, Feed.respond_error, Surfaces]
  constructor
  · intro cared f' found' fruitless loading last
    obtain rfl := Option.mem_unique found found'
    exact cared ⟨fruitless, loading, last⟩
  · rintro surfaces ⟨fruitless, loading, last⟩
    exact surfaces f found fruitless loading last

/-- **One step**: it leaves no page stuck and unnoticed exactly when it surfaces the
failure that leaves a page stuck. -/
theorem surfaced_step_iff (a : s.Aligned)
    (locked : ∀ i c f, s.categories[i]? = some c → s.feed i = some f → f.Locked)
    (surfaced : s.Surfaced) (allowed : s.Allowed e) (kept : ¬ IsSave e)
    (stepped : s.handle isURL e = some t) : t.Surfaced ↔ s.Surfaces isURL e := by
  obtain saves | ⟨i, c, f, fe, category, found, ok, concerns, touched⟩ | ⟨nowhere, same⟩ :=
    handle_cases a allowed stepped
  · exact absurd saves kept
  · have own : s.feedEvent i e = some fe := by simp [concerns]
    have loaded : f.slot.child.isViewLoaded = true :=
      (a.child i _ (identity_of_child a found category).1).2.2.2
    have bound : i < s.categories.length := (List.getElem?_eq_some_iff.mp category).1
    obtain ⟨rfl, rfl⟩ | ⟨rfl, rfl⟩ | ⟨r, result, rfl, rfl, rfl⟩ | ⟨message, rfl, rfl, rfl⟩ :=
      feedEvent_cases own
    · exact surfaced_refresh_iff a surfaced category found (locked _ c f category found)
        touched stepped
    · exact iff_of_true (surfaced_loadMore a surfaced category found touched stepped) trivial
    · exact surfaced_respond_iff a surfaced bound found loaded ok touched stepped
    · exact iff_of_true (surfaced_categoryError surfaced loaded touched stepped) trivial
  · cases e with
    | didSelectItemAt row =>
      exact iff_of_true (surfaced_didSelectItemAt surfaced a same stepped) trivial
    | swipe direction => exact iff_of_true (surfaced_swipe surfaced same stepped) trivial
    | confirm alert =>
      cases alert with
      | notice message => exact iff_of_true (surfaced_notice surfaced stepped) trivial
      | categoryError message => simp [feedEvent] at nowhere
    | saveSettingSubTabs screen => exact absurd trivial kept
    | refreshHomeChildVC | loadMore | respond => simp [feedEvent] at nowhere

theorem surfaced_launched (launched : Launched isURL s) (first : s.FirstSent isURL) :
    s.Surfaced := by
  obtain ⟨setting, rebuilt, a⟩ := launched.rebuilt
  intro i f found stuck
  obtain ⟨c, category⟩ := Option.isSome_iff_exists.mp
    (a.category_of_slot (feed_eq_some_iff.mp found).1)
  have opening := rebuilt.feed (rebuilt.categories ▸ category)
  obtain rfl := Option.mem_unique opening found
  have refused : (Feed.opening isURL i c).requests = [] := stuck.2
  obtain ⟨answered, recorded⟩ := Feed.opening_stuck refused
  constructor
  · exact recorded
  · intro shown
    have nonempty : s.categories ≠ [] := by
      intro empty
      simp [empty] at category
    have zero : s.viewModel.currentPage = 0 := by
      have displayed := rebuilt.displayed
      rw [← rebuilt.categories, if_neg nonempty, a.displayed, if_neg nonempty] at displayed
      exact Option.some.inj displayed
    rw [zero] at shown
    subst shown
    exact absurd (first c category) answered

theorem settled_of_surfaced (a : s.Aligned) (surfaced : s.Surfaced) : s.Settled := by
  intro child shown none quiet loading
  have bound : s.viewModel.currentPage < s.categories.length :=
    a.viewControllers ▸ (List.getElem?_eq_some_iff.mp shown).1
  obtain ⟨c, f, category, found⟩ := exists_feed a bound
  obtain rfl := Option.mem_unique (identity_of_child a found category).1 shown
  have stuck : f.Stuck := ⟨loading, (feed_eq_some_iff.mp found).2 ▸ none⟩
  obtain ⟨alert, mem, -⟩ := (surfaced _ f found stuck).2 rfl
  rw [quiet] at mem
  cases mem

/-- **No page is left loading** in any run without a settings save whose steps surface
the failures that leave a page stuck. A step that does not leaves one stuck unnoticed. -/
theorem no_page_left_loading
    (h : ((machine isURL).given fun s e => ¬ IsSave e ∧ s.Surfaces isURL e).Reachable
      (fun s => Launched isURL s ∧ s.FirstSent isURL) s) :
    s.Settled ∧ ∀ e t, s.Allowed e → ¬ IsSave e → s.handle isURL e = some t →
      (t.Surfaced ↔ s.Surfaces isURL e) := by
  have fixed : ∀ (s : HomeViewController) e, ¬ IsSave e ∧ s.Surfaces isURL e → ¬ IsSave e :=
    fun _ _ cond => cond.1
  have launched {s : HomeViewController}
      (h : ((machine isURL).given fun s e => ¬ IsSave e ∧ s.Surfaces isURL e).Reachable
        (fun s => Launched isURL s ∧ s.FirstSent isURL) s) := h.mono fun _ start => start.1
  have step {s : HomeViewController}
      (h : ((machine isURL).given fun s e => ¬ IsSave e ∧ s.Surfaces isURL e).Reachable
        (fun s => Launched isURL s ∧ s.FirstSent isURL) s) (surfaced : s.Surfaced) (e t)
      (allowed : s.Allowed e) (kept : ¬ IsSave e) (stepped : s.handle isURL e = some t) :
      t.Surfaced ↔ s.Surfaces isURL e :=
    surfaced_step_iff (reachable_aligned (launched h).of_given)
      (fun _ _ _ category found => reachable_locked fixed (launched h) category found)
      surfaced allowed kept stepped
  have surfaced : s.Surfaced := by
    apply h.invariant Surfaced
    · rintro s ⟨start, first⟩
      exact surfaced_launched start first
    · intro s e t reached surfaced allowed stepped
      exact (step reached surfaced e t allowed.1 allowed.2.1 stepped).mpr allowed.2.2
  constructor
  · exact settled_of_surfaced (reachable_aligned (launched h).of_given) surfaced
  · exact step h surfaced

end Steps

/-- The fetch of science fails before its page is shown; its alert is raised and confirmed. -/
def scienceConfirmed : HomeViewController :=
  (((machine anyURL).given fun s e => ¬ IsSave e ∧ s.Surfaces anyURL e).run (launch {})
    [.respond ⟨.fetchData, 2, .science, 1⟩ (.failure .errorNetwork), .didSelectItemAt 2,
      .confirm (.categoryError APIError.errorNetwork.localizedDescription)]).getD {}

theorem no_page_left_loading_scienceConfirmed :
    scienceConfirmed.viewModel.currentPage = 2 ∧ scienceConfirmed.alerts = [] ∧
    scienceConfirmed.Settled := by
  have reached : ((machine anyURL).given fun s e => ¬ IsSave e ∧ s.Surfaces anyURL e).Reachable
      (fun s => Launched anyURL s ∧ s.FirstSent anyURL) scienceConfirmed :=
    Machine.reachable_getD _ ⟨launched _, by decide⟩ (by decide)
  exact ⟨by decide, by decide, (no_page_left_loading reached).1⟩

/-- The fetch of the page shown at launch fails. -/
def firstFailed : HomeViewController :=
  (((machine anyURL).given fun _ e => ¬ IsSave e).run (launch {})
    [.respond ⟨.fetchData, 0, .us, 1⟩ (.failure .errorNetwork)]).getD {}

theorem first_page_left_loading :
    ¬ ∀ s, ((machine anyURL).given fun _ e => ¬ IsSave e).Reachable (Launched anyURL) s →
      s.Settled := by
  intro settled
  have reached : ((machine anyURL).given fun _ e => ¬ IsSave e).Reachable (Launched anyURL)
      firstFailed := Machine.reachable_getD _ (launched _) (by decide)
  have stopped := settled firstFailed reached
  revert stopped
  decide

end HomeViewController

end NewsReader
