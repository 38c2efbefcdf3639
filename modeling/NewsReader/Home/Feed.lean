import NewsReader.Home.Slots

/-!
# The feed of one category

What the Home screen is for one category taken alone: a slot, and the requests
made for it that have not answered. The screen with a fixed category list is
these feeds side by side (`Runs.lean`).
-/

namespace NewsReader

structure Feed where
  slot : Slot
  requests : List Request
  deriving DecidableEq, Repr

inductive FeedEvent
  | refresh
  | loadMore
  | respond (r : Request) (result : APIResult News)
  | clear
  deriving DecidableEq, Repr

namespace Feed

/-- The child of a category as `configHomeChildViewController` leaves it. -/
def newChild (i : Nat) (c : CategoryType) : HomeChildViewController :=
  { viewModel := { articles := [], category := c, isLoading := true, index := i }
    tag := i
    isViewLoaded := true
    errorViewIsHidden := true }

def newSlot (i : Nat) (c : CategoryType) : Slot :=
  { articles := [], isLoading := true, currentPageParam := 1, canLoadMore := true, error := ""
    child := newChild i c }

section Steps

variable (isURL : String → Bool)

def send (r : Request) (f : Feed) : Feed :=
  match APIManager.getTopHeadlines isURL r.page r.category.param "us" with
  | some result => { f with slot := f.slot.answer r result }
  | none => { f with requests := f.requests ++ [r] }

/-- A feed right after its child has loaded its view and fetched. -/
def opening (i : Nat) (c : CategoryType) : Feed :=
  send isURL ⟨.fetchData, i, c, 1⟩ ⟨newSlot i c, []⟩

def refresh (i : Nat) (c : CategoryType) (f : Feed) : Feed :=
  let child := { f.slot.child with refreshControlIsRefreshing := true }
  let f := { f with slot := { f.slot with child } }
  if f.slot.isLoading then f else send isURL ⟨.pullToRefresh, i, c, 1⟩ f

def loadMore (i : Nat) (c : CategoryType) (f : Feed) : Feed :=
  if f.slot.isLoading then f
  else if f.slot.canLoadMore then
    let page := f.slot.currentPageParam + 1
    send isURL ⟨.loadMore, i, c, page⟩
      { f with slot := { f.slot with isLoading := true, currentPageParam := page } }
  else f

def respond (r : Request) (result : APIResult News) (f : Feed) : Feed :=
  ⟨f.slot.answer r result, f.requests.erase r⟩

def clear (f : Feed) : Feed :=
  { f with slot := { f.slot with child := f.slot.child.setArticles [] } }

def step (i : Nat) (c : CategoryType) (f : Feed) : FeedEvent → Feed
  | .refresh => f.refresh isURL i c
  | .loadMore => f.loadMore isURL i c
  | .respond r result => f.respond r result
  | .clear => f.clear

end Steps

def Allowed (f : Feed) : FeedEvent → Prop
  | .respond r _ => r ∈ f.requests
  | _ => True

/-- A request sent at once answered is a failure; otherwise it is outstanding. -/
theorem send_cases (isURL : String → Bool) (r : Request) (f : Feed) :
    (∃ error, f.send isURL r = { f with slot := f.slot.answer r (.failure error) }) ∨
    f.send isURL r = { f with requests := f.requests ++ [r] } := by
  unfold send
  split
  · rename_i result answered
    obtain ⟨error, rfl⟩ := APIManager.getTopHeadlines_failure isURL answered
    exact Or.inl ⟨error, rfl⟩
  · exact Or.inr rfl

/-- A request brings no articles before it is outstanding: an answer given at once is
a failure. -/
theorem sameArticles_send (isURL : String → Bool) (r : Request) (f : Feed) :
    f.slot.SameArticles (f.send isURL r).slot := by
  obtain ⟨error, answered⟩ | started := f.send_cases isURL r
  · rw [answered]
    exact Slot.sameArticles_failure r error f.slot
  · rw [started]
    exact ⟨rfl, rfl⟩

/-- Only a response or a cleared child changes the articles of a feed. -/
theorem sameArticles_step (isURL : String → Bool) (i : Nat) (c : CategoryType) (f : Feed)
    {fe : FeedEvent} (asks : fe = .refresh ∨ fe = .loadMore) :
    f.slot.SameArticles (f.step isURL i c fe).slot := by
  rcases asks with rfl | rfl
  · simp only [step, refresh]
    split
    · exact ⟨rfl, rfl⟩
    · exact sameArticles_send isURL _ _
  · simp only [step, loadMore]
    split
    · exact ⟨rfl, rfl⟩
    · split
      · exact sameArticles_send isURL _ _
      · exact ⟨rfl, rfl⟩

/-- A first fetch that is answered at once sets the error and clears the flag. -/
theorem opening_slot (isURL : String → Bool) (i : Nat) (c : CategoryType) :
    (opening isURL i c).slot =
      { newSlot i c with
        isLoading := (opening isURL i c).slot.isLoading
        error := (opening isURL i c).slot.error } := by
  obtain ⟨error, answered⟩ | started :=
    send_cases isURL ⟨.fetchData, i, c, 1⟩ ⟨newSlot i c, []⟩
  · rw [opening, answered]
    rfl
  · rw [opening, started]

theorem mem_opening_requests {isURL : String → Bool} {i : Nat} {c : CategoryType} {r : Request}
    (h : r ∈ (opening isURL i c).requests) : r = ⟨.fetchData, i, c, 1⟩ := by
  obtain ⟨error, answered⟩ | started :=
    send_cases isURL ⟨.fetchData, i, c, 1⟩ ⟨newSlot i c, []⟩
  · rw [opening, answered] at h
    cases h
  · rw [opening, started] at h
    simpa using h

end Feed

namespace HomeViewController

/-- The requests that have not answered for one index. -/
def requestsFor (s : HomeViewController) (i : Nat) : List Request :=
  s.outstanding.filter (·.index = i)

def feed (s : HomeViewController) (i : Nat) : Option Feed :=
  (s.slot i).map fun σ => ⟨σ, s.requestsFor i⟩

theorem feed_eq_some_iff {s : HomeViewController} {i : Nat} {f : Feed} :
    s.feed i = some f ↔ s.slot i = some f.slot ∧ s.requestsFor i = f.requests := by
  obtain ⟨σ, requests⟩ := f
  simp only [feed, Option.map_eq_some_iff, Feed.mk.injEq]
  constructor
  · rintro ⟨_, found, rfl, rfl⟩
    exact ⟨found, rfl⟩
  · rintro ⟨found, rfl⟩
    exact ⟨σ, found, rfl, rfl⟩

theorem mem_requestsFor {s : HomeViewController} {i : Nat} {r : Request} :
    r ∈ s.requestsFor i ↔ r ∈ s.outstanding ∧ r.index = i := by
  simp [requestsFor]

/-- What an event is to the feed at one index, if it concerns that index. -/
def feedEvent (s : HomeViewController) (i : Nat) : HomeEvent → Option FeedEvent
  | .refreshHomeChildVC position => if position = i then some .refresh else none
  | .loadMore position => if position = i then some .loadMore else none
  | .respond r result => if r.index = i then some (.respond r result) else none
  | .confirm (.categoryError _) => if s.viewModel.currentPage = i then some .clear else none
  | _ => none

/-- An event of a feed names its index, a confirmed error alert by the page that is shown. -/
theorem feedEvent_cases {s : HomeViewController} {i : Nat} {e : HomeEvent} {fe : FeedEvent}
    (h : s.feedEvent i e = some fe) :
    (e = .refreshHomeChildVC i ∧ fe = .refresh) ∨ (e = .loadMore i ∧ fe = .loadMore) ∨
    (∃ r result, e = .respond r result ∧ r.index = i ∧ fe = .respond r result) ∨
    ∃ message, e = .confirm (.categoryError message) ∧ s.viewModel.currentPage = i ∧
      fe = .clear := by
  cases e with
  | refreshHomeChildVC position =>
    obtain ⟨rfl, named⟩ := Option.ite_none_right_eq_some.mp h
    exact Or.inl ⟨rfl, (Option.some.inj named).symm⟩
  | loadMore position =>
    obtain ⟨rfl, named⟩ := Option.ite_none_right_eq_some.mp h
    exact Or.inr (Or.inl ⟨rfl, (Option.some.inj named).symm⟩)
  | respond r result =>
    obtain ⟨here, named⟩ := Option.ite_none_right_eq_some.mp h
    exact Or.inr (Or.inr (Or.inl ⟨r, result, rfl, here, (Option.some.inj named).symm⟩))
  | confirm alert =>
    cases alert with
    | notice message => cases h
    | categoryError message =>
      obtain ⟨here, named⟩ := Option.ite_none_right_eq_some.mp h
      exact Or.inr (Or.inr (Or.inr ⟨message, rfl, here, (Option.some.inj named).symm⟩))
  | saveSettingSubTabs | didSelectItemAt | swipe => cases h

theorem feedEvent_respond {s : HomeViewController} {i : Nat} {e : HomeEvent} {r : Request}
    {result : APIResult News} (h : s.feedEvent i e = some (.respond r result)) :
    e = .respond r result ∧ r.index = i := by
  obtain ⟨-, other⟩ | ⟨-, other⟩ | ⟨_, _, rfl, here, same⟩ | ⟨_, -, -, other⟩ := feedEvent_cases h
  · cases other
  · cases other
  · cases same
    exact ⟨rfl, here⟩
  · cases other

/-- Only an error alert that is confirmed clears a child, and it is that of the page shown. -/
theorem feedEvent_clear {s : HomeViewController} {i : Nat} {e : HomeEvent}
    (h : s.feedEvent i e = some .clear) :
    (∃ message, e = .confirm (.categoryError message)) ∧ s.viewModel.currentPage = i := by
  obtain ⟨-, other⟩ | ⟨-, other⟩ | ⟨_, _, -, -, other⟩ | ⟨message, rfl, here, -⟩ :=
    feedEvent_cases h
  · cases other
  · cases other
  · cases other
  · exact ⟨⟨message, rfl⟩, here⟩

end HomeViewController

end NewsReader
