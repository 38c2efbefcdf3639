import NewsReader.Home.Requests
import NewsReader.Pages

/-!
# Pages of a feed

A load-more counts its page when it is sent and appends when it answers. A
refresh resets the counter when it answers, without holding the lock, so it may
do so under a load-more. Refreshes that answer with the lock free leave a feed
its pages in order (`pages_in_order`).
-/

namespace NewsReader

/-- A page of a category as the feed stores it. -/
def taggedPage (server : CategoryType → Nat → List News) (c : CategoryType) (page : Nat) :
    List News := setCategoryInNews (server c page) c

/-- The response is the server's page for the request. -/
def Served (server : CategoryType → Nat → List News) (r : Request) : APIResult News → Prop
  | .failure _ => False
  | .success response => response.articles = server r.category r.page

/-- Requests for this category reach the network, whatever the page. -/
def Reaches (isURL : String → Bool) (c : CategoryType) : Prop :=
  ∀ page : Nat, (APIManager.getTopHeadlines isURL page c.param "us" : Option (APIResult News)) = none

namespace Feed

variable {isURL : String → Bool} {server : CategoryType → Nat → List News} {i : Nat}
  {c : CategoryType} {f : Feed}

theorem send_eq (reaches : Reaches isURL c) (action : Action) (page : Nat) (f : Feed) :
    f.send isURL ⟨action, i, c, page⟩ = { f with requests := f.requests ++ [⟨action, i, c, page⟩] } := by
  rw [send, reaches page]

/-- A pull shows its indicator, and asks for page 1 where the lock is free. -/
theorem refresh_cases (reaches : Reaches isURL c) (i : Nat) (f : Feed) :
    ∃ child, (f.slot.isLoading = true ∧
        f.refresh isURL i c = { f with slot := { f.slot with child } }) ∨
      (f.slot.isLoading = false ∧ f.refresh isURL i c =
        ⟨{ f.slot with child }, f.requests ++ [⟨.pullToRefresh, i, c, 1⟩]⟩) := by
  refine ⟨{ f.slot.child with refreshControlIsRefreshing := true }, ?_⟩
  by_cases loading : f.slot.isLoading = true
  · exact Or.inl ⟨loading, by simp [refresh, loading]⟩
  · exact Or.inr ⟨by simpa using loading, by simp [refresh, loading, send_eq reaches]⟩

/-- A load-more that is due takes the lock and asks for the page after the counter. -/
theorem loadMore_cases (reaches : Reaches isURL c) (i : Nat) (f : Feed) :
    f.loadMore isURL i c = f ∨
    (f.slot.isLoading = false ∧ f.slot.canLoadMore = true ∧ f.loadMore isURL i c =
      ⟨{ f.slot with isLoading := true, currentPageParam := f.slot.currentPageParam + 1 },
        f.requests ++ [⟨.loadMore, i, c, f.slot.currentPageParam + 1⟩]⟩) := by
  by_cases loading : f.slot.isLoading = true
  · exact Or.inl (by simp [loadMore, loading])
  · by_cases more : f.slot.canLoadMore = true
    · exact Or.inr ⟨by simpa using loading, more, by simp [loadMore, loading, more, send_eq reaches]⟩
    · exact Or.inl (by simp [loadMore, loading, more])

/-- Every refresh that goes out asks for page 1. -/
theorem refreshes_step (reaches : Reaches isURL c)
    (known : ∀ r ∈ f.requests, r.action = .pullToRefresh → r = ⟨.pullToRefresh, i, c, 1⟩)
    (fe : FeedEvent) : ∀ r ∈ (f.step isURL i c fe).requests,
      r.action = .pullToRefresh → r = ⟨.pullToRefresh, i, c, 1⟩ := by
  intro r mem refreshes
  cases fe with
  | refresh =>
    rw [step] at mem
    obtain ⟨child, ⟨-, pulled⟩ | ⟨-, asked⟩⟩ := refresh_cases reaches i f
    · rw [pulled] at mem
      exact known r mem refreshes
    · rw [asked] at mem
      obtain before | new := List.mem_append.mp mem
      · exact known r before refreshes
      · exact List.mem_singleton.mp new
  | loadMore =>
    rw [step] at mem
    obtain same | ⟨-, -, asked⟩ := loadMore_cases reaches i f
    · rw [same] at mem
      exact known r mem refreshes
    · rw [asked] at mem
      obtain before | new := List.mem_append.mp mem
      · exact known r before refreshes
      · rw [List.mem_singleton.mp new] at refreshes
        cases refreshes
  | respond q result => exact known r (List.mem_of_mem_erase mem) refreshes
  | clear => exact known r mem refreshes

/-- What a feed holds while it fetches, between requests and while it loads more. -/
inductive Stage (server : CategoryType → Nat → List News) (i : Nat) (c : CategoryType)
    (f : Feed) : Prop
  | fetching (holder : f.loads = [⟨.fetchData, i, c, 1⟩]) (flag : f.slot.isLoading = true)
      (counter : f.slot.currentPageParam = 1) (more : f.slot.canLoadMore = true)
  | settled (holder : f.loads = []) (flag : f.slot.isLoading = false)
      (shown : f.slot.articles = pagesUpTo (taggedPage server c) f.slot.currentPageParam)
      (ended : f.slot.canLoadMore = false → server c f.slot.currentPageParam = [])
  | loadingMore (page : Nat) (holder : f.loads = [⟨.loadMore, i, c, page + 1⟩])
      (flag : f.slot.isLoading = true) (counter : f.slot.currentPageParam = page + 1)
      (shown : f.slot.articles = pagesUpTo (taggedPage server c) page)
      (more : f.slot.canLoadMore = true)

structure Paged (server : CategoryType → Nat → List News) (i : Nat) (c : CategoryType)
    (f : Feed) : Prop where
  stage : Stage server i c f
  refreshes : ∀ r ∈ f.requests, r.action = .pullToRefresh → r = ⟨.pullToRefresh, i, c, 1⟩

theorem paged_opening (reaches : Reaches isURL c) : (opening isURL i c).Paged server i c := by
  rw [opening, send_eq reaches]
  exact ⟨.fetching rfl rfl rfl rfl, by simp⟩

/-- A change of the child alone. -/
theorem Stage.setChild (stage : f.Stage server i c) (child : HomeChildViewController) :
    Stage server i c { f with slot := { f.slot with child } } := by
  cases stage with
  | fetching holder flag counter more => exact .fetching holder flag counter more
  | settled holder flag shown ended => exact .settled holder flag shown ended
  | loadingMore page holder flag counter shown more =>
    exact .loadingMore page holder flag counter shown more

theorem Stage.of_idle (stage : f.Stage server i c) (idle : f.slot.isLoading = false) :
    f.loads = [] ∧ f.slot.articles = pagesUpTo (taggedPage server c) f.slot.currentPageParam ∧
      (f.slot.canLoadMore = false → server c f.slot.currentPageParam = []) := by
  cases stage with
  | fetching _ flag => cases flag.symm.trans idle
  | settled holder _ shown ended => exact ⟨holder, shown, ended⟩
  | loadingMore _ _ flag => cases flag.symm.trans idle

theorem stage_refresh (reaches : Reaches isURL c) (stage : f.Stage server i c) :
    (f.refresh isURL i c).Stage server i c := by
  obtain ⟨child, ⟨-, pulled⟩ | ⟨idle, asked⟩⟩ := refresh_cases reaches i f
  · rw [pulled]
    exact stage.setChild child
  · obtain ⟨holder, shown, ended⟩ := stage.of_idle idle
    rw [asked]
    refine .settled ?_ idle shown ended
    rw [loads_append_refresh]
    exact holder

theorem stage_loadMore (reaches : Reaches isURL c) (stage : f.Stage server i c) :
    (f.loadMore isURL i c).Stage server i c := by
  obtain same | ⟨idle, more, asked⟩ := loadMore_cases reaches i f
  · rw [same]
    exact stage
  · obtain ⟨holder, shown, -⟩ := stage.of_idle idle
    rw [asked]
    refine .loadingMore f.slot.currentPageParam ?_ rfl rfl shown more
    rw [loads_append _ _ (by simp)]
    exact congrArg (· ++ _) holder

theorem loads_respond (f : Feed) (r : Request) (result : APIResult News) :
    (f.respond r result).loads = f.loads.erase r := List.erase_filter.symm

/-- The request that holds the lock answers with its page. -/
theorem stage_respond (first : server c 1 ≠ []) (stage : f.Stage server i c) {r : Request}
    {result : APIResult News} (held : r ∈ f.loads) (served : Served server r result) :
    (f.respond r result).Stage server i c := by
  cases result with
  | failure error => cases served
  | success response =>
    have answered : response.articles = server r.category r.page := served
    have released : (f.respond r (.success response)).loads = f.loads.erase r := loads_respond ..
    cases stage with
    | fetching holder flag counter more =>
      obtain rfl : r = _ := List.mem_singleton.mp (holder ▸ held)
      rw [holder] at released
      simp only [List.erase_cons_head] at released
      refine .settled released ?_ ?_ ?_ <;>
        simp [respond, Slot.answer, Slot.fecthDataResponse, answered, first, Slot.showArticles,
          counter, more, taggedPage]
    | settled holder => simp [holder] at held
    | loadingMore page holder flag counter shown more =>
      obtain rfl : r = _ := List.mem_singleton.mp (holder ▸ held)
      rw [holder] at released
      simp only [List.erase_cons_head] at released
      by_cases empty : server c (page + 1) = []
      · have last : taggedPage server c (page + 1) = [] := by simp [taggedPage, empty]
        refine .settled released ?_ ?_ ?_ <;>
          simp [respond, Slot.answer, Slot.loadMoreApiResponse, answered, empty, counter, shown,
            pagesUpTo_succ_of_nil last]
      · have some : 0 < (server c (page + 1)).length := List.length_pos_iff.mpr empty
        refine .settled released ?_ ?_ ?_ <;>
          simp [respond, Slot.answer, Slot.loadMoreApiResponse, answered, some, counter, shown,
            Slot.showArticles, pagesUpTo_succ, taggedPage, more]

/-- A refresh answers while nothing holds the lock. -/
theorem stage_refreshed (stage : f.Stage server i c) {r : Request} {result : APIResult News}
    (refresh : r = ⟨.pullToRefresh, i, c, 1⟩) (served : Served server r result)
    (idle : f.slot.isLoading = false) : (f.respond r result).Stage server i c := by
  subst refresh
  cases result with
  | failure error => cases served
  | success response =>
    have answered : response.articles = server c 1 := served
    cases stage with
    | fetching _ flag => exact absurd (flag.symm.trans idle) (by simp)
    | settled holder flag shown ended =>
      have none : (f.respond ⟨.pullToRefresh, i, c, 1⟩ (.success response)).loads = [] := by
        rw [loads_respond, holder]
        rfl
      refine .settled none ?_ ?_ ?_ <;>
        simp [respond, Slot.answer, Slot.refreshDataResponse, answered, Slot.showArticles, flag,
          taggedPage]
    | loadingMore page _ flag => exact absurd (flag.symm.trans idle) (by simp)

theorem paged_step (reaches : Reaches isURL c) (first : server c 1 ≠ []) (h : f.Paged server i c)
    {fe : FeedEvent} (allowed : f.Allowed fe)
    (served : ∀ r result, fe = .respond r result → Served server r result ∧
      (r.action = .pullToRefresh → f.slot.isLoading = false)) :
    (f.step isURL i c fe).Paged server i c := by
  refine ⟨?_, refreshes_step reaches h.refreshes fe⟩
  cases fe with
  | refresh => exact stage_refresh reaches h.stage
  | loadMore => exact stage_loadMore reaches h.stage
  | respond r result =>
    obtain ⟨page, idle⟩ := served r result rfl
    by_cases refresh : r.action = .pullToRefresh
    · exact stage_refreshed h.stage (h.refreshes r allowed refresh) page (idle refresh)
    · exact stage_respond first h.stage (List.mem_filter.mpr ⟨allowed, by simp [refresh]⟩) page
  | clear => exact h.stage.setChild _

/-- With nothing outstanding, the articles are the pages up to the counter, and
the feed stops only at an empty one. -/
def InOrder (server : CategoryType → Nat → List News) (c : CategoryType) (f : Feed) : Prop :=
  f.requests = [] →
    f.slot.articles = pagesUpTo (taggedPage server c) f.slot.currentPageParam ∧
    (f.slot.canLoadMore = false → server c f.slot.currentPageParam = [])

theorem Paged.inOrder (h : f.Paged server i c) : f.InOrder server c := by
  intro quiet
  have none : f.loads = [] := by simp [loads, quiet]
  cases h.stage with
  | fetching holder => simp [none] at holder
  | settled _ _ shown ended => exact ⟨shown, ended⟩
  | loadingMore page holder => simp [none] at holder

/-- A refresh answered under a load-more resets the counter the load-more has
counted, and the load-more appends all the same. -/
theorem crossed_not_inOrder (first : server c 1 ≠ []) {page : Nat}
    (outstanding : f.requests = [⟨.pullToRefresh, i, c, 1⟩, ⟨.loadMore, i, c, page⟩])
    {refreshed more : APIResult News} (served : Served server ⟨.pullToRefresh, i, c, 1⟩ refreshed)
    (served' : Served server ⟨.loadMore, i, c, page⟩ more) :
    ¬ ((f.respond ⟨.pullToRefresh, i, c, 1⟩ refreshed).respond
        ⟨.loadMore, i, c, page⟩ more).InOrder server c := by
  intro ordered
  cases refreshed with
  | failure error => cases served
  | success refreshed =>
    cases more with
    | failure error => cases served'
    | success more =>
      have one : refreshed.articles = server c 1 := served
      have next : more.articles = server c page := served'
      obtain ⟨shown, ended⟩ := ordered (by simp [respond, outstanding])
      by_cases empty : server c page = []
      · apply first
        simpa [respond, Slot.answer, Slot.refreshDataResponse, Slot.loadMoreApiResponse, one,
          next, empty, Slot.showArticles] using ended
      · have some : 0 < (server c page).length := List.length_pos_iff.mpr empty
        simp [respond, Slot.answer, Slot.refreshDataResponse, Slot.loadMoreApiResponse, one,
          next, some, Slot.showArticles, taggedPage, empty] at shown

end Feed

namespace HomeViewController

/-- With nothing outstanding for `i`, its articles are the pages up to its
counter, and it stops only at an empty one. -/
def InOrder (server : CategoryType → Nat → List News) (s : HomeViewController) (i : Nat)
    (c : CategoryType) : Prop :=
  s.requestsFor i = [] → ∃ page, s.viewModel.currentPageParam[i]? = some page ∧
    s.viewModel.articlesArray[i]? = some (pagesUpTo (taggedPage server c) page) ∧
    (s.viewModel.canLoadMore[i]? = some false → server c page = [])

/-- No settings save, and the requests for `i` answer with the server's pages. -/
def Serves (server : CategoryType → Nat → List News) (i : Nat) (_ : HomeViewController) :
    HomeEvent → Prop
  | .saveSettingSubTabs _ => False
  | .respond r result => r.index = i → Served server r result
  | _ => True

/-- A refresh of `i` answers while no fetch or load-more of `i` is outstanding. -/
def RefreshesIdle (i : Nat) (s : HomeViewController) : HomeEvent → Prop
  | .respond r _ =>
    r.index = i → r.action = .pullToRefresh → s.viewModel.isLoading[i]? = some false
  | _ => True

section

variable {isURL : String → Bool} {server : CategoryType → Nat → List News}
  {s : HomeViewController} {i : Nat} {c : CategoryType} {f : Feed}

theorem inOrder_iff (found : s.feed i = some f) : s.InOrder server i c ↔ f.InOrder server c := by
  obtain ⟨slot, requests⟩ := feed_eq_some_iff.mp found
  obtain ⟨articles, -, counter, more, -, -⟩ := slot_eq_some_iff.mp slot
  simp only [InOrder, Feed.InOrder, requests, articles, counter, more, Option.some.injEq,
    exists_eq_left']

theorem paged_of_reachable (reaches : Reaches isURL c) (first : server c 1 ≠ [])
    (h : ((machine isURL).given fun s e => Serves server i s e ∧ RefreshesIdle i s e).Reachable
      (Launched isURL) s) (category : s.categories[i]? = some c) (found : s.feed i = some f) :
    f.Paged server i c := by
  have every : i = i → c = c → f.Paged server i c := by
    refine feed_invariant ?_
      (fun j d f => j = i → d = c → f.Paged server i c) ?_ ?_ h category found
    · intro s e cond saves
      cases e with
      | saveSettingSubTabs screen => exact cond.1
      | _ => cases saves
    · rintro j d rfl rfl
      exact Feed.paged_opening reaches
    · rintro s e j d f fe ⟨serves, idle⟩ - here concerns allowed paged rfl rfl
      apply Feed.paged_step reaches first (paged rfl rfl) allowed
      rintro r result rfl
      obtain ⟨rfl, rfl⟩ := feedEvent_respond concerns
      refine ⟨serves rfl, fun refresh => ?_⟩
      exact Option.mem_unique (flag_of_feed here).1 (idle rfl refresh)
  exact every rfl rfl

end

/-- **Pages in order** in every run whose refreshes answer with the lock free.
A refresh that answers under a load-more, with that load-more answered next,
leaves them out of order. -/
theorem pages_in_order (isURL : String → Bool) (server : CategoryType → Nat → List News)
    (s : HomeViewController) {i : Nat} {c : CategoryType} (category : s.categories[i]? = some c)
    (reaches : Reaches isURL c) (first : server c 1 ≠ [])
    (h : ((machine isURL).given fun s e => Serves server i s e ∧ RefreshesIdle i s e).Reachable
      (Launched isURL) s) :
    s.InOrder server i c ∧
    ∀ page, s.requestsFor i = [⟨.pullToRefresh, i, c, 1⟩, ⟨.loadMore, i, c, page⟩] →
      ∀ refreshed more t u, Served server ⟨.pullToRefresh, i, c, 1⟩ refreshed →
        Served server ⟨.loadMore, i, c, page⟩ more →
        s.handle isURL (.respond ⟨.pullToRefresh, i, c, 1⟩ refreshed) = some t →
        t.handle isURL (.respond ⟨.loadMore, i, c, page⟩ more) = some u →
        ¬ u.InOrder server i c := by
  have a := reachable_aligned h.of_given
  obtain ⟨d, f, named, found⟩ := exists_feed a (List.getElem?_eq_some_iff.mp category).1
  obtain rfl : d = c := Option.mem_unique named category
  have paged := paged_of_reachable reaches first h category found
  refine ⟨(inOrder_iff found).mpr paged.inOrder, ?_⟩
  intro page outstanding refreshed more t u served served' stepped stepped'
  obtain ⟨t', ran, touched⟩ :=
    touches_answered (r := ⟨.pullToRefresh, i, d, 1⟩) a found refreshed
  obtain rfl : t' = t := Option.mem_unique ran stepped
  obtain ⟨u', ran', touched'⟩ :=
    touches_answered (r := ⟨.loadMore, i, d, page⟩) (touched.aligned a) touched.feed more
  obtain rfl : u' = u := Option.mem_unique ran' stepped'
  rw [inOrder_iff touched'.feed]
  exact Feed.crossed_not_inOrder first ((feed_eq_some_iff.mp found).2 ▸ outstanding) served served'

/-- Two pages of two articles, and none after. -/
def twoPages : CategoryType → Nat → List News
  | _, 1 => [anArticle, anotherArticle]
  | _, 2 => [{ anArticle with urlNews := some "https://a.example/mars/2" },
    { anotherArticle with urlNews := some "https://a.example/venus/2" }]
  | _, _ => []

def secondPage : APIResult News := .success ⟨"ok", twoPages .us 2⟩

instance (server : CategoryType → Nat → List News) (r : Request) :
    (result : APIResult News) → Decidable (Served server r result)
  | .failure _ => .isFalse id
  | .success response => inferInstanceAs (Decidable (response.articles = server r.category r.page))

instance (server : CategoryType → Nat → List News) (i : Nat) (s : HomeViewController) :
    (e : HomeEvent) → Decidable (Serves server i s e)
  | .saveSettingSubTabs _ => .isFalse id
  | .respond r result => inferInstanceAs (Decidable (r.index = i → Served server r result))
  | .refreshHomeChildVC _ | .loadMore _ | .didSelectItemAt _ | .swipe _ | .confirm _ =>
    .isTrue trivial

instance (i : Nat) (s : HomeViewController) : (e : HomeEvent) → Decidable (RefreshesIdle i s e)
  | .respond r _ => inferInstanceAs (Decidable (r.index = i → r.action = .pullToRefresh →
    s.viewModel.isLoading[i]? = some false))
  | .saveSettingSubTabs _ | .refreshHomeChildVC _ | .loadMore _ | .didSelectItemAt _ | .swipe _
  | .confirm _ => .isTrue trivial

/-- The us page is fetched; a refresh and a load-more of it are outstanding. -/
def crossing : HomeViewController :=
  (((machine anyURL).given fun s e => Serves twoPages 0 s e ∧ RefreshesIdle 0 s e).run (launch {})
    [.respond ⟨.fetchData, 0, .us, 1⟩ answered, .refreshHomeChildVC 0, .loadMore 0]).getD {}

theorem reaches_anyURL : Reaches anyURL .us := fun _ => rfl

theorem crossing_reachable :
    ((machine anyURL).given fun s e => Serves twoPages 0 s e ∧ RefreshesIdle 0 s e).Reachable
      (Launched anyURL) crossing :=
  Machine.reachable_getD _ (launched _) (by decide)

/-- Both pages of us are loaded. -/
def loadedBoth : HomeViewController :=
  (((machine anyURL).given fun s e => Serves twoPages 0 s e ∧ RefreshesIdle 0 s e).run (launch {})
    [.respond ⟨.fetchData, 0, .us, 1⟩ answered, .loadMore 0,
      .respond ⟨.loadMore, 0, .us, 2⟩ secondPage]).getD {}

theorem pages_in_order_crossing :
    (loadedBoth.requestsFor 0 = [] ∧ loadedBoth.viewModel.currentPageParam[0]? = some 2 ∧
      loadedBoth.InOrder twoPages 0 .us) ∧
    ∀ t u, crossing.handle anyURL (.respond ⟨.pullToRefresh, 0, .us, 1⟩ answered) = some t →
      t.handle anyURL (.respond ⟨.loadMore, 0, .us, 2⟩ secondPage) = some u →
      ¬ u.InOrder twoPages 0 .us := by
  obtain ⟨ordered, -⟩ := pages_in_order anyURL twoPages loadedBoth (by decide) reaches_anyURL
    (by decide) (Machine.reachable_getD _ (launched _) (by decide))
  obtain ⟨-, crossed⟩ := pages_in_order anyURL twoPages crossing (by decide) reaches_anyURL
    (by decide) crossing_reachable
  exact ⟨⟨by decide, by decide, ordered⟩, fun t u =>
    crossed 2 (by decide) answered secondPage t u (by decide) (by decide)⟩

/-- The refresh answers first, then the load-more. -/
def crossed : HomeViewController :=
  (((machine anyURL).given (Serves twoPages 0)).run (launch {})
    [.respond ⟨.fetchData, 0, .us, 1⟩ answered, .refreshHomeChildVC 0, .loadMore 0,
      .respond ⟨.pullToRefresh, 0, .us, 1⟩ answered,
      .respond ⟨.loadMore, 0, .us, 2⟩ secondPage]).getD {}

theorem crossed_reachable :
    ((machine anyURL).given (Serves twoPages 0)).Reachable (Launched anyURL) crossed :=
  Machine.reachable_getD _ (launched _) (by decide)

theorem refresh_under_loadMore_drifts :
    ¬ ∀ s, ((machine anyURL).given (Serves twoPages 0)).Reachable (Launched anyURL) s →
      s.InOrder twoPages 0 .us := by
  intro ordered
  obtain ⟨page, counter, articles, -⟩ := ordered crossed crossed_reachable (by decide)
  have one : crossed.viewModel.currentPageParam[0]? = some 1 := by decide
  obtain rfl : page = 1 := Option.mem_unique counter one
  revert articles
  decide

end HomeViewController

end NewsReader
