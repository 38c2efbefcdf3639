import NewsReader.Home.Paging

/-!
# Failed requests of a feed

A history keeps, for every category, the pages that its list has received. A refresh
that fails with the lock free leaves the next load-more asking for the first page that
is missing. A fetch and a load-more that fail do not: the counter has counted their page.
-/

namespace NewsReader

namespace Feed

/-- The pages of the list once the request has brought its own. -/
def received (r : Request) (pages : List Nat) : List Nat :=
  if r.action = .loadMore then pages ++ [r.page] else [r.page]

def observe : FeedEvent → List Nat → List Nat
  | .respond r (.success _), pages => received r pages
  | _, pages => pages

/-- The pages that a feed has received while it fetches, between requests and while it
loads more. -/
inductive Received (i : Nat) (c : CategoryType) (f : Feed) (pages : List Nat) : Prop
  | fetching (holder : f.loads = [⟨.fetchData, i, c, 1⟩]) (flag : f.slot.isLoading = true)
      (counter : f.slot.currentPageParam = 1) (more : f.slot.canLoadMore = true)
      (none : pages = [])
  | settled (holder : f.loads = []) (flag : f.slot.isLoading = false)
      (all : pages = List.range' 1 f.slot.currentPageParam)
  | loadingMore (page : Nat) (holder : f.loads = [⟨.loadMore, i, c, page + 1⟩])
      (flag : f.slot.isLoading = true) (counter : f.slot.currentPageParam = page + 1)
      (more : f.slot.canLoadMore = true) (all : pages = List.range' 1 page)

structure Tracked (i : Nat) (c : CategoryType) (f : Feed) (pages : List Nat) : Prop where
  received : f.Received i c pages
  refreshes : ∀ r ∈ f.requests, r.action = .pullToRefresh → r = ⟨.pullToRefresh, i, c, 1⟩

/-- A refresh answers with the lock free, and any other request does not fail. -/
def Orderly (f : Feed) : FeedEvent → Prop
  | .respond r result =>
    if r.action = .pullToRefresh then f.slot.isLoading = false
    else ∃ response, result = .success response
  | _ => True

section Steps

variable {isURL : String → Bool} {i : Nat} {c : CategoryType} {f : Feed} {pages : List Nat}

theorem tracked_opening (reaches : Reaches isURL c) : (opening isURL i c).Tracked i c [] := by
  rw [opening, send_eq reaches]
  exact ⟨.fetching rfl rfl rfl rfl rfl, by simp⟩

theorem Received.setChild (h : f.Received i c pages) (child : HomeChildViewController) :
    Received i c { f with slot := { f.slot with child } } pages := by
  cases h with
  | fetching holder flag counter more none => exact .fetching holder flag counter more none
  | settled holder flag all => exact .settled holder flag all
  | loadingMore page holder flag counter more all =>
    exact .loadingMore page holder flag counter more all

/-- Between requests the list has the pages up to the counter. -/
theorem Received.of_idle (h : f.Received i c pages) (idle : f.slot.isLoading = false) :
    f.loads = [] ∧ pages = List.range' 1 f.slot.currentPageParam := by
  cases h with
  | fetching _ flag => cases flag.symm.trans idle
  | settled holder _ all => exact ⟨holder, all⟩
  | loadingMore _ _ flag => cases flag.symm.trans idle

theorem received_refresh (reaches : Reaches isURL c) (h : f.Received i c pages) :
    (f.refresh isURL i c).Received i c pages := by
  obtain ⟨child, ⟨-, pulled⟩ | ⟨idle, asked⟩⟩ := refresh_cases reaches i f
  · rw [pulled]
    exact h.setChild child
  · obtain ⟨holder, all⟩ := h.of_idle idle
    rw [asked]
    refine .settled ?_ idle all
    rw [loads_append_refresh]
    exact holder

theorem received_loadMore (reaches : Reaches isURL c) (h : f.Received i c pages) :
    (f.loadMore isURL i c).Received i c pages := by
  obtain same | ⟨idle, more, asked⟩ := loadMore_cases reaches i f
  · rw [same]
    exact h
  · obtain ⟨holder, all⟩ := h.of_idle idle
    rw [asked]
    refine .loadingMore f.slot.currentPageParam ?_ rfl rfl more all
    rw [loads_append _ _ (by simp)]
    exact congrArg (· ++ _) holder

/-- The request that holds the lock brings its page. -/
theorem received_respond (h : f.Received i c pages) {r : Request} (held : r ∈ f.loads)
    (response : Response News) :
    (f.respond r (.success response)).Received i c (received r pages) := by
  have released : (f.respond r (.success response)).loads = f.loads.erase r := loads_respond ..
  cases h with
  | fetching holder flag counter more none =>
    obtain rfl := List.mem_singleton.mp (holder ▸ held)
    rw [holder, List.erase_cons_head] at released
    have idle : (f.respond ⟨.fetchData, i, c, 1⟩ (.success response)).slot.isLoading = false := by
      simp [respond, answer_isLoading]
    refine .settled released idle ?_
    have kept :
        (f.respond ⟨.fetchData, i, c, 1⟩ (.success response)).slot.currentPageParam = 1 := by
      simp only [respond, Slot.answer, Slot.fecthDataResponse]
      split <;> exact counter
    rw [kept]
    rfl
  | settled holder => simp [holder] at held
  | loadingMore page holder flag counter more all =>
    obtain rfl := List.mem_singleton.mp (holder ▸ held)
    rw [holder, List.erase_cons_head] at released
    have idle : (f.respond ⟨.loadMore, i, c, page + 1⟩ (.success response)).slot.isLoading =
        false := by
      simp [respond, answer_isLoading]
    refine .settled released idle ?_
    have kept : (f.respond ⟨.loadMore, i, c, page + 1⟩ (.success response)).slot.currentPageParam =
        page + 1 := by
      simp only [respond, Slot.answer, Slot.loadMoreApiResponse]
      split <;> exact counter
    rw [kept, all, List.range'_1_concat, Nat.add_comm 1 page]
    rfl

/-- A refresh answers with the lock free. -/
theorem received_refreshed (h : f.Received i c pages) (idle : f.slot.isLoading = false)
    (result : APIResult News) :
    (f.respond ⟨.pullToRefresh, i, c, 1⟩ result).Received i c
      (observe (.respond ⟨.pullToRefresh, i, c, 1⟩ result) pages) := by
  obtain ⟨holder, all⟩ := h.of_idle idle
  have none : (f.respond ⟨.pullToRefresh, i, c, 1⟩ result).loads = [] := by
    rw [loads_respond, holder]
    rfl
  have free : (f.respond ⟨.pullToRefresh, i, c, 1⟩ result).slot.isLoading = false := by
    simp [respond, answer_isLoading, idle]
  cases result with
  | failure error => exact .settled none free all
  | success response => exact .settled none free rfl

/-- **One event** of an orderly feed keeps its pages in order. -/
theorem Tracked.step (reaches : Reaches isURL c) (h : f.Tracked i c pages) {fe : FeedEvent}
    (allowed : f.Allowed fe) (orderly : f.Orderly fe) :
    (f.step isURL i c fe).Tracked i c (observe fe pages) := by
  refine ⟨?_, refreshes_step reaches h.refreshes fe⟩
  cases fe with
  | refresh => exact received_refresh reaches h.received
  | loadMore => exact received_loadMore reaches h.received
  | respond r result =>
    by_cases refresh : r.action = .pullToRefresh
    · simp only [Orderly, refresh, if_true] at orderly
      obtain rfl := h.refreshes r allowed refresh
      exact received_refreshed h.received orderly result
    · simp only [Orderly, refresh, if_false] at orderly
      obtain ⟨response, rfl⟩ := orderly
      have held : r ∈ f.loads := List.mem_filter.mpr ⟨allowed, by simp [refresh]⟩
      exact received_respond h.received held response
  | clear => exact h.received.setChild _

/-! ## A request that fails -/

theorem canLoadMore_failure (r : Request) (error : APIError) (σ : Slot) :
    (σ.answer r (.failure error)).canLoadMore = σ.canLoadMore := by
  obtain ⟨action, i, c, page⟩ := r
  cases action <;> rfl

/-- Whatever happens but a success leaves the list and whether it can grow. -/
theorem list_step (isURL : String → Bool) (i : Nat) (c : CategoryType) (f : Feed) {fe : FeedEvent}
    (kept : ∀ r response, fe ≠ .respond r (.success response)) :
    (f.step isURL i c fe).slot.articles = f.slot.articles ∧
      (f.step isURL i c fe).slot.canLoadMore = f.slot.canLoadMore := by
  have sent (r : Request) (g : Feed) : (g.send isURL r).slot.canLoadMore = g.slot.canLoadMore := by
    obtain ⟨error, answered⟩ | started := g.send_cases isURL r
    · rw [answered]
      exact canLoadMore_failure r error g.slot
    · rw [started]
  cases fe with
  | refresh =>
    refine ⟨(f.sameArticles_step isURL i c (Or.inl rfl)).1, ?_⟩
    simp only [step, refresh]
    split
    · rfl
    · exact sent _ _
  | loadMore =>
    refine ⟨(f.sameArticles_step isURL i c (Or.inr rfl)).1, ?_⟩
    simp only [step, loadMore]
    split
    · rfl
    · split
      · exact sent _ _
      · rfl
  | respond r result =>
    cases result with
    | failure error =>
      exact ⟨(Slot.sameArticles_failure r error f.slot).1, canLoadMore_failure r error f.slot⟩
    | success response => exact absurd rfl (kept r response)
  | clear => exact ⟨rfl, rfl⟩

/-- A load-more that goes out asks for the page after the counter. -/
theorem page_of_loadMore {q : Request}
    (asked : (f.loadMore isURL i c).requests = f.requests ++ [q]) :
    f.slot.isLoading = false ∧ f.slot.canLoadMore = true ∧
      q.page = f.slot.currentPageParam + 1 := by
  have grown := congrArg List.length asked
  rw [loadMore] at asked grown
  split at asked
  · rename_i loading
    simp [loading] at grown
  · rename_i idle
    split at asked
    · rename_i more
      obtain ⟨error, answered⟩ | started := send_cases isURL
        ⟨.loadMore, i, c, f.slot.currentPageParam + 1⟩
        { f with slot := { f.slot with
          isLoading := true, currentPageParam := f.slot.currentPageParam + 1 } }
      · simp only [answered, List.self_eq_append_right] at asked
        cases asked
      · simp only [started, List.append_cancel_left_eq, List.cons.injEq, and_true] at asked
        exact ⟨by simpa using idle, more, asked ▸ rfl⟩
    · rename_i off
      simp [idle, off] at grown

theorem loadMore_asks (reaches : Reaches isURL c) (idle : f.slot.isLoading = false)
    (more : f.slot.canLoadMore = true) :
    (f.loadMore isURL i c).requests =
      f.requests ++ [⟨.loadMore, i, c, f.slot.currentPageParam + 1⟩] := by
  simp [loadMore, idle, more, send_eq reaches]

/-- The lock is free, and the next load-more asks for the first page that is missing. -/
structure Retries (isURL : String → Bool) (i : Nat) (c : CategoryType) (f : Feed)
    (pages : List Nat) : Prop where
  isLoading : f.slot.isLoading = false
  next : ∀ q, (f.loadMore isURL i c).requests = f.requests ++ [q] → FirstMissing pages q.page

/-- Between requests, what counts is the page after the counter. -/
theorem retries_of_counter (idle : f.slot.isLoading = false)
    (next : FirstMissing pages (f.slot.currentPageParam + 1)) : f.Retries isURL i c pages := by
  refine ⟨idle, ?_⟩
  intro q asked
  rw [(page_of_loadMore asked).2.2]
  exact next

theorem Retries.counter (reaches : Reaches isURL c) (h : f.Retries isURL i c pages)
    (more : f.slot.canLoadMore = true) : FirstMissing pages (f.slot.currentPageParam + 1) :=
  h.next _ (loadMore_asks reaches h.isLoading more)

/-- **A failed request** is asked for again exactly where it is a refresh with the lock free. -/
theorem Tracked.retries_iff (reaches : Reaches isURL c) (h : f.Tracked i c pages) {r : Request}
    (mem : r ∈ f.requests) (error : APIError) :
    (f.respond r (.failure error)).Retries isURL i c pages ↔
      r.action = .pullToRefresh ∧ f.slot.isLoading = false := by
  have flag := answer_isLoading r (.failure error) f.slot
  by_cases refresh : r.action = .pullToRefresh
  · rw [if_pos refresh] at flag
    simp only [refresh, true_and]
    constructor
    · intro retries
      exact flag ▸ retries.isLoading
    · intro idle
      obtain ⟨-, all⟩ := h.received.of_idle idle
      obtain rfl := h.refreshes r mem refresh
      exact retries_of_counter (flag.trans idle) (all ▸ firstMissing_range'.mpr rfl)
  · have held : r ∈ f.loads := List.mem_filter.mpr ⟨mem, by simp [refresh]⟩
    simp only [refresh, false_and, iff_false]
    intro retries
    -- the counter is already past the page that has failed
    cases h.received with
    | fetching holder _ counter more none =>
      obtain rfl := List.mem_singleton.mp (holder ▸ held)
      have next : FirstMissing pages (f.slot.currentPageParam + 1) :=
        Retries.counter (f := f.respond _ (.failure error)) reaches retries more
      rw [counter, none] at next
      have := firstMissing_range'.mp (show FirstMissing (List.range' 1 0) (1 + 1) from next)
      omega
    | settled holder => simp [holder] at held
    | loadingMore page holder _ counter more all =>
      obtain rfl := List.mem_singleton.mp (holder ▸ held)
      have next : FirstMissing pages (f.slot.currentPageParam + 1) :=
        Retries.counter (f := f.respond _ (.failure error)) reaches retries more
      rw [counter, all] at next
      have := firstMissing_range'.mp next
      omega

end Steps

end Feed

namespace HomeViewController

/-- The pages each list has received. A rebuilt screen starts again. -/
def observePages (s : HomeViewController) : HomeEvent → (Nat → List Nat) → Nat → List Nat
  | .respond r (.success _), pages =>
    Function.update pages r.index (Feed.received r (pages r.index))
  | .saveSettingSubTabs screen, pages =>
    if (screen.saveSettingSubTabs s.setting).2.2 then fun _ => [] else pages
  | _, pages => pages

/-- The Home screen with the pages of its lists. -/
def pagedMachine (isURL : String → Bool) :
    Machine (HomeViewController × (Nat → List Nat)) HomeEvent :=
  (machine isURL).observed observePages

instance (isURL : String → Bool) (p : HomeViewController × (Nat → List Nat)) (e : HomeEvent) :
    Decidable ((pagedMachine isURL).allowed p e) := inferInstanceAs (Decidable (p.1.Allowed e))

/-- The screen as it first appears, with nothing received, and the requests for `i` reach
the network. -/
def Starts (isURL : String → Bool) (i : Nat) (p : HomeViewController × (Nat → List Nat)) : Prop :=
  Launched isURL p.1 ∧ (∀ c, p.1.categories[i]? = some c → Reaches isURL c) ∧ p.2 = fun _ => []

/-- Settings are saved with nothing outstanding for `i`, and what is chosen for `i` reaches
the network. A refresh of `i` answers with the lock free. A fetch and a load-more do not fail. -/
def Orderly (isURL : String → Bool) (i : Nat) (s : HomeViewController) : HomeEvent → Prop
  | .saveSettingSubTabs screen => s.requestsFor i = [] ∧
    ∀ c, ((screen.cells.filter (·.isEnable)).map (·.category))[i]? = some c → Reaches isURL c
  | .respond r result => r.index = i →
    if r.action = .pullToRefresh then s.viewModel.isLoading[i]? = some false
    else ∃ response, result = .success response
  | _ => True

instance : (result : APIResult News) → Decidable (∃ response, result = .success response)
  | .success response => .isTrue ⟨response, rfl⟩
  | .failure _ => .isFalse (by simp)

instance (isURL : String → Bool) [DecidablePred (Reaches isURL)] (i : Nat)
    (s : HomeViewController) : (e : HomeEvent) → Decidable (s.Orderly isURL i e)
  | .saveSettingSubTabs screen => inferInstanceAs (Decidable (s.requestsFor i = [] ∧
    ∀ c ∈ ((screen.cells.filter (·.isEnable)).map (·.category))[i]?, Reaches isURL c))
  | .respond r result => inferInstanceAs (Decidable (r.index = i →
    if r.action = .pullToRefresh then s.viewModel.isLoading[i]? = some false
    else ∃ response, result = .success response))
  | .refreshHomeChildVC _ | .loadMore _ | .didSelectItemAt _ | .swipe _ | .confirm _ =>
    .isTrue trivial

section

variable {isURL : String → Bool} {s t : HomeViewController} {i : Nat} {e : HomeEvent}
  {pages : Nat → List Nat} {f : Feed} {c : CategoryType}

theorem observePages_feed {fe : FeedEvent} (concerns : s.feedEvent i e = some fe) :
    s.observePages e pages i = Feed.observe fe (pages i) := by
  obtain ⟨rfl, rfl⟩ | ⟨rfl, rfl⟩ | ⟨r, result, rfl, rfl, rfl⟩ | ⟨message, rfl, -, rfl⟩ :=
    feedEvent_cases concerns
  · rfl
  · rfl
  · cases result with
    | failure error => rfl
    | success response => exact Function.update_self _ _ _
  · rfl

theorem observePages_away (kept : ¬ IsSave e) (away : s.feedEvent i e = none) :
    s.observePages e pages i = pages i := by
  cases e with
  | saveSettingSubTabs screen => exact absurd trivial kept
  | respond r result =>
    cases result with
    | failure error => rfl
    | success response =>
      simp only [feedEvent, ite_eq_right_iff, reduceCtorEq, imp_false] at away
      exact Function.update_of_ne (Ne.symm away) _ _
  | refreshHomeChildVC | loadMore | didSelectItemAt | swipe | confirm => rfl

/-- A feed that an orderly event concerns takes an orderly step. -/
theorem Orderly.feed (orderly : s.Orderly isURL i e) (found : s.feed i = some f) {fe : FeedEvent}
    (concerns : s.feedEvent i e = some fe) : f.Orderly fe := by
  cases fe with
  | respond r result =>
    obtain ⟨rfl, here⟩ := feedEvent_respond concerns
    have held := orderly here
    simp only [(flag_of_feed found).1, Option.some.injEq] at held
    exact held
  | refresh | loadMore | clear => trivial

/-- Only a feed in range has requests. It reaches the network, and its pages are tracked. -/
structure TracksPages (isURL : String → Bool) (i : Nat) (s : HomeViewController)
    (pages : Nat → List Nat) : Prop where
  inRange : ∀ r ∈ s.requestsFor i, i < s.categories.length
  tracked : ∀ c f, s.categories[i]? = some c → s.feed i = some f →
    Reaches isURL c ∧ f.Tracked i c (pages i)

theorem inRange_rebuilt (rebuilt : Rebuilt isURL s t) (quiet : s.requestsFor i = [])
    {r : Request} (mem : r ∈ t.requestsFor i) : i < t.categories.length := by
  obtain ⟨sent, rfl⟩ := mem_requestsFor.mp mem
  obtain before | ⟨-, named⟩ := rebuilt.outstanding sent
  · have left := mem_requestsFor.mpr ⟨before, rfl⟩
    rw [quiet] at left
    cases left
  · rw [rebuilt.categories]
    exact (List.getElem?_eq_some_iff.mp named).1

/-- Settings saves apart, a feed out of range is sent nothing. -/
theorem inRange_step (a : s.Aligned) (allowed : s.Allowed e) (kept : ¬ IsSave e)
    (stepped : s.handle isURL e = some t) (before : ∀ r ∈ s.requestsFor i, i < s.categories.length) :
    ∀ r ∈ t.requestsFor i, i < t.categories.length := by
  intro r mem
  obtain saves | ⟨j, c, f, fe, category, -, -, -, touched⟩ | ⟨-, same⟩ :=
    handle_cases a allowed stepped
  · exact absurd saves kept
  · rw [categories, touched.setting]
    by_cases here : i = j
    · exact here ▸ (List.getElem?_eq_some_iff.mp category).1
    · exact before r (touched.requests i here ▸ mem)
  · rw [categories, same.setting]
    rw [requestsFor, same.requests] at mem
    exact before r mem

theorem tracksPages_rebuilt (rebuilt : Rebuilt isURL s t) (quiet : s.requestsFor i = [])
    (reaches : ∀ c, s.categories[i]? = some c → Reaches isURL c) (none : pages i = []) :
    TracksPages isURL i t pages := by
  refine ⟨fun r mem => inRange_rebuilt rebuilt quiet mem, ?_⟩
  intro c f category found
  have named : s.categories[i]? = some c := rebuilt.categories ▸ category
  have opening := rebuilt.feed named
  rw [quiet, List.nil_append] at opening
  obtain rfl := Option.mem_unique opening found
  rw [none]
  exact ⟨reaches c named, Feed.tracked_opening (reaches c named)⟩

theorem Starts.tracksPages {p : HomeViewController × (Nat → List Nat)} (h : Starts isURL i p) :
    TracksPages isURL i p.1 p.2 := by
  obtain ⟨s, pages⟩ := p
  obtain ⟨launched, reaches, rfl⟩ := h
  obtain ⟨setting, rebuilt, -⟩ := launched.rebuilt
  refine tracksPages_rebuilt rebuilt rfl ?_ rfl
  intro c category
  exact reaches c (rebuilt.categories ▸ category)

theorem tracksPages_step (a : s.Aligned) (allowed : s.Allowed e) (orderly : s.Orderly isURL i e)
    (h : TracksPages isURL i s pages) (stepped : s.handle isURL e = some t) :
    TracksPages isURL i t (s.observePages e pages) := by
  by_cases saves : IsSave e
  · cases e with
    | saveSettingSubTabs screen =>
      obtain ⟨quiet, reaches⟩ := orderly
      obtain ⟨refused, rfl⟩ | ⟨posted, setting, chosen, rebuilt, -⟩ :=
        handle_save_cases allowed stepped
      · simpa [observePages, refused] using h
      · refine tracksPages_rebuilt rebuilt quiet ?_ (by simp [observePages, posted])
        intro c category
        exact reaches c (chosen ▸ category)
    | _ => cases saves
  · refine ⟨inRange_step a allowed saves stepped h.inRange, ?_⟩
    intro c f' category found'
    have category' : s.categories[i]? = some c := by
      rw [← category, categories, categories, handle_setting a allowed saves stepped]
    obtain ⟨d, f, named, found⟩ := exists_feed a (List.getElem?_eq_some_iff.mp category').1
    obtain rfl : d = c := Option.mem_unique named category'
    obtain ⟨reaches, tracked⟩ := h.tracked d f category' found
    refine ⟨reaches, ?_⟩
    obtain ⟨fe, concerns, ok, moved⟩ | ⟨away, stays⟩ :=
      handle_feed a allowed saves stepped category' found
    · obtain rfl := Option.mem_unique moved found'
      rw [observePages_feed concerns]
      exact tracked.step reaches ok (orderly.feed found concerns)
    · obtain rfl := Option.mem_unique stays found'
      rw [observePages_away saves away]
      exact tracked

/-- In an orderly run the pages of `i` are tracked. -/
theorem tracksPages_of_reachable {p : HomeViewController × (Nat → List Nat)}
    (h : ((pagedMachine isURL).given fun p e => p.1.Orderly isURL i e).Reachable
      (Starts isURL i) p) : p.1.Aligned ∧ TracksPages isURL i p.1 p.2 := by
  apply h.invariant (fun p => p.1.Aligned ∧ TracksPages isURL i p.1 p.2)
  · intro p starts
    obtain ⟨setting, -, aligned⟩ := starts.1.rebuilt
    exact ⟨aligned, starts.tracksPages⟩
  · rintro ⟨s, pages⟩ e ⟨t, pages'⟩ - ⟨a, tracks⟩ ⟨allowed, orderly⟩ stepped
    obtain ⟨handled, rfl⟩ := Machine.observed_step.mp stepped
    exact ⟨handle_aligned a allowed handled, tracksPages_step a allowed orderly tracks handled⟩

/-! ## What a failure leaves -/

/-- From `s` to `t` the list of `i` stays as it is and its lock is free, and the next load-more
asks for the first page that is not among `pages`. -/
structure Retried (isURL : String → Bool) (s t : HomeViewController) (i : Nat)
    (pages : List Nat) : Prop where
  articlesArray : t.viewModel.articlesArray[i]? = s.viewModel.articlesArray[i]?
  canLoadMore : t.viewModel.canLoadMore[i]? = s.viewModel.canLoadMore[i]?
  isLoading : t.viewModel.isLoading[i]? = some false
  next : ∀ u q, t.handle isURL (.loadMore i) = some u →
    u.requestsFor i = t.requestsFor i ++ [q] → FirstMissing pages q.page

/-- A response that does not trap is a step of the feed it names. -/
theorem handle_respond {r : Request} {result : APIResult News} (a : s.Aligned)
    (mem : r ∈ s.outstanding) (stepped : s.handle isURL (.respond r result) = some t) :
    ∃ c f, s.categories[r.index]? = some c ∧ s.feed r.index = some f ∧ r ∈ f.requests ∧
      Touches r.index (f.respond r result) s t := by
  obtain saves | ⟨j, c, f, fe, category, found, ok, concerns, touched⟩ | ⟨nowhere, -⟩ :=
    handle_cases (e := .respond r result) a mem stepped
  · cases saves
  · have here := concerns r.index
    simp only [feedEvent, if_true] at here
    by_cases same : r.index = j
    · rw [if_pos same] at here
      obtain rfl := Option.some.inj here
      subst same
      exact ⟨c, f, category, found, ok, touched⟩
    · rw [if_neg same] at here
      cases here
  · have here := nowhere r.index
    simp [feedEvent] at here

theorem list_of_feed (found : s.feed i = some f) :
    s.viewModel.articlesArray[i]? = some f.slot.articles ∧
      s.viewModel.canLoadMore[i]? = some f.slot.canLoadMore :=
  ⟨(slot_eq_some_iff.mp (feed_eq_some_iff.mp found).1).1, (flag_of_feed found).2.1⟩

/-- What a load-more would ask for, on the screen and on the feed. -/
theorem next_iff (isURL : String → Bool) (a : s.Aligned) (found : s.feed i = some f)
    (category : s.categories[i]? = some c) {P : Request → Prop} :
    (∀ u q, s.handle isURL (.loadMore i) = some u → u.requestsFor i = s.requestsFor i ++ [q] →
      P q) ↔ ∀ q, (f.loadMore isURL i c).requests = f.requests ++ [q] → P q := by
  obtain ⟨u, ran, touched⟩ := touches_loadMore isURL a found category
  have before := (feed_eq_some_iff.mp found).2
  have after := (feed_eq_some_iff.mp touched.feed).2
  rw [← before, ← after]
  constructor
  · intro next q asked
    exact next u q ran asked
  · intro next u' q ran' asked
    obtain rfl : u = u' := Option.mem_unique ran ran'
    exact next q asked

/-- **A failed request of `i`** is asked for again exactly where it fails in order. -/
theorem retried_iff {r : Request} {error : APIError} (a : s.Aligned)
    (tracks : TracksPages isURL r.index s pages) (mem : r ∈ s.outstanding)
    (stepped : s.handle isURL (.respond r (.failure error)) = some t) :
    Retried isURL s t r.index (pages r.index) ↔
      r.action = .pullToRefresh ∧ s.viewModel.isLoading[r.index]? = some false := by
  obtain ⟨c, f, category, found, asked, touched⟩ := handle_respond a mem stepped
  obtain ⟨reaches, tracked⟩ := tracks.tracked c f category found
  have category' : t.categories[r.index]? = some c := by
    rw [← category, categories, categories, touched.setting]
  have failed : ∀ q response,
      FeedEvent.respond r (.failure error) ≠ .respond q (.success response) := by
    intro q response other
    cases other
  have list := Feed.list_step isURL r.index c f failed
  obtain ⟨articles, more⟩ := list_of_feed found
  obtain ⟨articles', more'⟩ := list_of_feed touched.feed
  have flag := (flag_of_feed touched.feed).1
  have next := next_iff isURL (touched.aligned a) touched.feed category'
    (P := fun q => FirstMissing (pages r.index) q.page)
  rw [(flag_of_feed found).1, Option.some.injEq, ← tracked.retries_iff reaches asked error]
  constructor
  · rintro ⟨-, -, free, asks⟩
    exact ⟨Option.some.inj (flag.symm.trans free), next.mp asks⟩
  · rintro ⟨free, asks⟩
    refine ⟨?_, ?_, flag.trans (congrArg some free), next.mpr asks⟩
    · rw [articles', articles]
      exact congrArg some list.1
    · rw [more', more]
      exact congrArg some list.2

/-- The event saves settings, or is a success of a request for `i`. -/
def Brings (i : Nat) : HomeEvent → Prop
  | .saveSettingSubTabs _ => True
  | .respond r (.success _) => r.index = i
  | _ => False

instance (i : Nat) : (e : HomeEvent) → Decidable (Brings i e)
  | .saveSettingSubTabs _ => .isTrue trivial
  | .respond r (.success _) => inferInstanceAs (Decidable (r.index = i))
  | .respond _ (.failure _) | .refreshHomeChildVC _ | .loadMore _ | .didSelectItemAt _ | .swipe _
  | .confirm _ => .isFalse id

/-- Past the last category there is no list. -/
theorem list_beyond (a : s.Aligned) (beyond : s.categories.length ≤ i) :
    s.viewModel.articlesArray[i]? = none ∧ s.viewModel.canLoadMore[i]? = none :=
  ⟨List.getElem?_eq_none (a.articlesArray ▸ beyond), List.getElem?_eq_none (a.canLoadMore ▸ beyond)⟩

theorem list_step (a : s.Aligned) (allowed : s.Allowed e) (kept : ¬ Brings i e)
    (stepped : s.handle isURL e = some t) :
    t.viewModel.articlesArray[i]? = s.viewModel.articlesArray[i]? ∧
      t.viewModel.canLoadMore[i]? = s.viewModel.canLoadMore[i]? := by
  have saves : ¬ IsSave e := by
    intro save
    cases e with
    | saveSettingSubTabs screen => exact kept trivial
    | _ => cases save
  have a' := handle_aligned a allowed stepped
  have same : t.categories = s.categories := by
    rw [categories, categories, handle_setting a allowed saves stepped]
  by_cases bound : i < s.categories.length
  · obtain ⟨c, f, category, found⟩ := exists_feed a bound
    obtain ⟨articles, more⟩ := list_of_feed found
    obtain ⟨fe, concerns, -, moved⟩ | ⟨-, stays⟩ :=
      handle_feed a allowed saves stepped category found
    · have failed : ∀ r response, fe ≠ .respond r (.success response) := by
        rintro r response rfl
        obtain ⟨rfl, here⟩ := feedEvent_respond concerns
        exact kept here
      obtain ⟨articles', more'⟩ := list_of_feed moved
      obtain ⟨list, grows⟩ := Feed.list_step isURL i c f failed
      rw [articles', more', articles, more, list, grows]
      exact ⟨rfl, rfl⟩
    · obtain ⟨articles', more'⟩ := list_of_feed stays
      rw [articles', more', articles, more]
      exact ⟨rfl, rfl⟩
  · have beyond : s.categories.length ≤ i := Nat.not_lt.mp bound
    obtain ⟨none, off⟩ := list_beyond a beyond
    obtain ⟨none', off'⟩ := list_beyond a' (same ▸ beyond)
    rw [none, none', off, off']
    exact ⟨rfl, rfl⟩

/-- **The list stays as it is** through any events that bring it nothing, failures of its
own requests among them. -/
theorem list_kept {p q : HomeViewController × (Nat → List Nat)} (a : p.1.Aligned)
    (h : ((pagedMachine isURL).given fun _ e => ¬ Brings i e).Reachable (· = p) q) :
    q.1.Aligned ∧ q.1.viewModel.articlesArray[i]? = p.1.viewModel.articlesArray[i]? ∧
      q.1.viewModel.canLoadMore[i]? = p.1.viewModel.canLoadMore[i]? := by
  induction h with
  | start same =>
    subst same
    exact ⟨a, rfl, rfl⟩
  | next _ allowed stepped ih =>
    obtain ⟨a', articles, more⟩ := ih
    obtain ⟨handled, -⟩ := Machine.observed_step.mp stepped
    obtain ⟨articles', more'⟩ := list_step a' allowed.1 allowed.2 handled
    exact ⟨handle_aligned a' allowed.1 handled, articles'.trans articles, more'.trans more⟩

/-- A request that goes out and fails, in an orderly run that brings the list nothing in
between, is asked for again exactly where it fails in order. -/
theorem retried_after {p q : HomeViewController × (Nat → List Nat)} {r : Request}
    (reached : ((pagedMachine isURL).given fun p e => p.1.Orderly isURL r.index e).Reachable
      (Starts isURL r.index) p)
    (since : ((pagedMachine isURL).given fun p e =>
      p.1.Orderly isURL r.index e ∧ ¬ Brings r.index e).Reachable (· = p) q)
    (mem : r ∈ q.1.outstanding) (error : APIError) :
    (∃ t, q.1.handle isURL (.respond r (.failure error)) = some t ∧
        Retried isURL p.1 t r.index (q.2 r.index)) ↔
      r.action = .pullToRefresh ∧ q.1.viewModel.isLoading[r.index]? = some false := by
  obtain ⟨a, tracks⟩ := tracksPages_of_reachable (reached.trans (since.weaken fun _ _ => And.left))
  have aligned := (tracksPages_of_reachable reached).1
  obtain ⟨-, articles, more⟩ := list_kept aligned (since.weaken fun _ _ => And.right)
  have inRange := tracks.inRange r (mem_requestsFor.mpr ⟨mem, rfl⟩)
  obtain ⟨t, stepped⟩ := Option.isSome_iff_exists.mp
    ((a.respond_isSome_iff r (.failure error)).mpr inRange)
  have same : Retried isURL p.1 t r.index (q.2 r.index) ↔
      Retried isURL q.1 t r.index (q.2 r.index) := by
    constructor
    · rintro ⟨list, grows, free, next⟩
      exact ⟨list.trans articles.symm, grows.trans more.symm, free, next⟩
    · rintro ⟨list, grows, free, next⟩
      exact ⟨list.trans articles, grows.trans more, free, next⟩
  rw [← retried_iff a tracks mem stepped, ← same]
  constructor
  · rintro ⟨t', stepped', retried⟩
    obtain rfl := Option.mem_unique stepped' stepped
    exact retried
  · intro retried
    exact ⟨t, stepped, retried⟩

end

end HomeViewController

end NewsReader
