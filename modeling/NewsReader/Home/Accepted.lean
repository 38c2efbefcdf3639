import NewsReader.Home.Independence
import NewsReader.PagedList

/-!
# The pages Home accepts

A page of Home shows what its answers make of it: `pageEvent` says what an event is to the
list at one index, in any run and with settings saves included (`run_pagedList`). So the
list is the first page that was last accepted, and the further pages since, each once
(`articles_accepted`).
-/

namespace NewsReader

/-- What an answer is to the list of its category. -/
def Request.pageEvent (r : Request) : APIResult News → Option (PageEvent News)
  | .failure _ => none
  | .success response =>
    let articles := setCategoryInNews response.articles r.category
    match r.action with
    | .fetchData => if response.articles.isEmpty then none else some (.first articles)
    | .pullToRefresh => some (.restart articles)
    | .loadMore => if response.articles.isEmpty then some .last else some (.more articles)

def Slot.pagedList (σ : Slot) : PagedList News := ⟨σ.articles, σ.canLoadMore⟩

def FeedEvent.pageEvent : FeedEvent → Option (PageEvent News)
  | .respond r result => r.pageEvent result
  | .refresh | .loadMore | .clear => none

theorem Slot.pagedList_answer (σ : Slot) (r : Request) (result : APIResult News) :
    (σ.answer r result).pagedList = σ.pagedList.after (r.pageEvent result) := by
  obtain ⟨action, i, c, page⟩ := r
  cases result with
  | failure error => cases action <;> rfl
  | success response =>
    cases action with
    | fetchData =>
      cases empty : response.articles.isEmpty <;>
        simp [answer, fecthDataResponse, Request.pageEvent, empty, pagedList, showArticles,
          PagedList.after, PagedList.step]
    | pullToRefresh => rfl
    | loadMore =>
      cases articles : response.articles <;>
        simp [answer, loadMoreApiResponse, Request.pageEvent, articles, pagedList, showArticles,
          PagedList.after, PagedList.step]

namespace Feed

variable (isURL : String → Bool)

theorem pagedList_send (r : Request) (f : Feed) :
    (f.send isURL r).slot.pagedList = f.slot.pagedList := by
  obtain ⟨error, answered⟩ | started := f.send_cases isURL r
  · rw [answered]
    exact f.slot.pagedList_answer r (.failure error)
  · rw [started]

theorem pagedList_step (i : Nat) (c : CategoryType) (f : Feed) (fe : FeedEvent) :
    (f.step isURL i c fe).slot.pagedList = f.slot.pagedList.after fe.pageEvent := by
  cases fe with
  | refresh =>
    simp only [step, refresh]
    split
    · rfl
    · exact pagedList_send isURL _ _
  | loadMore =>
    simp only [step, loadMore]
    split
    · rfl
    · split
      · exact pagedList_send isURL _ _
      · rfl
  | respond r result => exact f.slot.pagedList_answer r result
  | clear => rfl

theorem pagedList_opening (i : Nat) (c : CategoryType) :
    (opening isURL i c).slot.pagedList = {} := by
  rw [opening_slot]
  rfl

end Feed

namespace HomeViewController

/-- The list at an index, empty where there is none. -/
def pagedList (s : HomeViewController) (i : Nat) : PagedList News :=
  ((s.slot i).map (·.pagedList)).getD {}

/-- What an event is to the list at one index. A settings save that posts begins every list
anew. -/
def pageEvent (i : Nat) (s : HomeViewController) : HomeEvent → Option (PageEvent News)
  | .saveSettingSubTabs screen =>
    if (screen.saveSettingSubTabs s.setting).2.2 then some (.restart []) else none
  | .respond r result => if r.index = i then r.pageEvent result else none
  | .refreshHomeChildVC _ | .loadMore _ | .didSelectItemAt _ | .swipe _ | .confirm _ => none

/-- What the events of a run are to the list at one index, in their order. -/
def accepted (isURL : String → Bool) (i : Nat) (s : HomeViewController) (es : List HomeEvent) :
    List (PageEvent News) :=
  (machine isURL).project (pageEvent i) s es

section

variable {isURL : String → Bool} {s t : HomeViewController} {e : HomeEvent} {i : Nat}
  {es : List HomeEvent}

theorem pagedList_of_slot {σ : Slot} (found : s.slot i = some σ) :
    s.pagedList i = σ.pagedList := by
  rw [pagedList, found]
  rfl

/-- A rebuilt screen has begun every list anew. -/
theorem Rebuilt.pagedList (h : Rebuilt isURL s t) (a : t.Aligned) : t.pagedList i = {} := by
  cases found : t.slot i with
  | none => simp [HomeViewController.pagedList, found]
  | some σ =>
    obtain ⟨c, rfl⟩ := h.opening a found
    rw [pagedList_of_slot found, Feed.pagedList_opening]

/-- A save apart, an event is to a list what it is to the feed there. -/
theorem pageEvent_eq (kept : ¬ IsSave e) :
    s.pageEvent i e = (s.feedEvent i e).bind FeedEvent.pageEvent := by
  cases e with
  | saveSettingSubTabs screen => exact absurd trivial kept
  | refreshHomeChildVC position | loadMore position =>
    simp only [pageEvent, feedEvent]
    split <;> rfl
  | respond r result =>
    simp only [pageEvent, feedEvent]
    split <;> rfl
  | didSelectItemAt row | swipe direction => rfl
  | confirm alert =>
    cases alert with
    | notice message => rfl
    | categoryError message =>
      simp only [pageEvent, feedEvent]
      split <;> rfl

theorem pagedList_handle (a : s.Aligned) (allowed : s.Allowed e)
    (stepped : s.handle isURL e = some t) :
    t.pagedList i = (s.pagedList i).after (s.pageEvent i e) := by
  by_cases saves : IsSave e
  · cases e with
    | saveSettingSubTabs screen =>
      obtain ⟨refused, rfl⟩ | ⟨posted, setting, -, rebuilt, aligned⟩ :=
        handle_save_cases allowed stepped
      · simp [pageEvent, refused, PagedList.after]
      · rw [rebuilt.pagedList aligned, pageEvent, if_pos posted]
        rfl
    | _ => cases saves
  · rw [pageEvent_eq saves]
    obtain saves' | ⟨j, c, f, fe, -, found, -, concerns, touched⟩ | ⟨nowhere, same⟩ :=
      handle_cases a allowed stepped
    · exact absurd saves' saves
    · rw [concerns i]
      by_cases here : i = j
      · subst here
        rw [pagedList_of_slot (feed_eq_some_iff.mp touched.feed).1,
          pagedList_of_slot (feed_eq_some_iff.mp found).1, Feed.pagedList_step, if_pos rfl]
        rfl
      · rw [if_neg here, pagedList, touched.slots i here]
        rfl
    · rw [nowhere i, pagedList, same.slots i]
      rfl

/-- **The list at an index**, at the end of any run, is what was accepted for it. -/
theorem run_pagedList (launched : Launched isURL s) (ran : (machine isURL).run s es = some t) :
    t.pagedList i = (s.accepted isURL i es).foldl PagedList.step {} := by
  obtain ⟨setting, rebuilt, a⟩ := launched.rebuilt
  have fresh : s.pagedList i = {} := rebuilt.pagedList a
  rw [← fresh]
  refine PagedList.run_foldl (fun s => s.pagedList i) Aligned ?_ ?_ a ran
  · intro s e t a allowed stepped
    exact handle_aligned a allowed stepped
  · intro s e t a allowed stepped
    exact pagedList_handle a allowed stepped

/-- **Home shows the pages it accepted.** After any run, the articles at an index are the
first page that was last accepted for it and the further pages since, each once and in the
order of their answers. No more are asked for once an answer since the last restart had
none. -/
theorem articles_accepted (launched : Launched isURL s)
    (ran : (machine isURL).run s es = some t) {articles : List News}
    (shown : t.viewModel.articlesArray[i]? = some articles) :
    articles = PagedList.begun (s.accepted isURL i es) ++
      PagedList.pagesSince (s.accepted isURL i es) ∧
    t.viewModel.canLoadMore[i]? = some (! PagedList.atEnd (s.accepted isURL i es)) := by
  have a : t.Aligned := reachable_aligned (Machine.reachable_run launched ran)
  have bound : i < t.categories.length :=
    a.articlesArray ▸ (List.getElem?_eq_some_iff.mp shown).1
  obtain ⟨σ, found⟩ := a.slot_of_lt bound
  obtain ⟨same, -, -, canLoadMore, -, -⟩ := slot_eq_some_iff.mp found
  have folded := run_pagedList (i := i) launched ran
  rw [pagedList_of_slot found] at folded
  constructor
  · rw [← PagedList.items_foldl, ← folded]
    exact Option.mem_unique shown same
  · rw [canLoadMore, ← PagedList.canLoadMore_foldl, ← folded]
    rfl

end

section

/-- The us page answers its fetch, its second page and, when it is empty, its third. The
page is refreshed then, and asks for a second page again. -/
def usRefreshed : List HomeEvent :=
  let page (action : Action) (page : Nat) (result : APIResult News) : HomeEvent :=
    .respond ⟨action, 0, .us, page⟩ result
  [page .fetchData 1 answered, .loadMore 0, page .loadMore 2 answered, .loadMore 0,
    page .loadMore 3 (.success ⟨"ok", []⟩), .refreshHomeChildVC 0,
    page .pullToRefresh 1 answered, .loadMore 0, page .loadMore 2 answered]

theorem articles_accepted_usRefreshed : ∃ t articles,
    (machine anyURL).run (launch {}) usRefreshed = some t ∧
    t.viewModel.articlesArray[0]? = some articles ∧ articles.length = 4 ∧
    articles = PagedList.begun ((launch {}).accepted anyURL 0 usRefreshed) ++
      PagedList.pagesSince ((launch {}).accepted anyURL 0 usRefreshed) := by
  have four : (((machine anyURL).run (launch {}) usRefreshed).bind fun t =>
      t.viewModel.articlesArray[0]?).map (·.length) = some 4 := by decide
  obtain ⟨articles, found, length⟩ := Option.map_eq_some_iff.mp four
  obtain ⟨t, ran, shown⟩ := Option.bind_eq_some_iff.mp found
  exact ⟨t, articles, ran, shown, length, (articles_accepted (launched {}) ran shown).1⟩

end

end HomeViewController

end NewsReader
