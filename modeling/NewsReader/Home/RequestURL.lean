import NewsReader.Home.Requests
import NewsReader.Search.SearchURL

/-!
# The URL of a page of Home

Home writes the items of a request into its URL as they are. None has a sign that parts
items or ends them, so they read back, and no two pages share a URL. Every request that is
out has such a URL, and none is for health, which the API layer refuses
(`requests_read_back`).
-/

namespace NewsReader

namespace Request

/-- The URL `getTopHeadlines` asks for. -/
def url (r : Request) : String :=
  APIManager.QueryString.getTopHeadlines r.category.param "us" r.page 10

def items (r : Request) : List (String × String) :=
  [("country", "us"), ("category", r.category.param), ("apiKey", APIManager.apiKey),
    ("page", (r.page : Int).repr), ("pageSize", "10")]

theorem url_eq (r : Request) :
    r.url = String.ofList (APIManager.Path.TopHeadlines.path.toList ++
      '?' :: ['&'].intercalate (r.items.map writtenItem)) := by
  have ten : toString (10 : Int) = "10" := by decide
  apply String.toList_injective
  simp [url, items, writtenItem, APIManager.QueryString.getTopHeadlines,
    APIManager.Path.TopHeadlines.url, List.intercalate, ten]

theorem isPlain_repr (n : Int) : isPlain n.repr = true := by
  simp only [isPlain, List.all_eq_true]
  intro c mem
  have apart (d : Char) (other : d.isDigit = false) (sign : d ≠ '-') : c ≠ d :=
    isDigit_ne (mem_repr mem) other sign
  simp [apart '%' (by decide) (by decide), apart '&' (by decide) (by decide),
    apart '=' (by decide) (by decide)]

theorem isPlain_param (c : CategoryType) : isPlain c.param = true := by
  cases c <;> decide

theorem legal_url (r : Request) : ∀ c ∈ r.url.toList, isURLCharacter c = true := by
  have category : ∀ c ∈ r.category.param.toList, isURLCharacter c = true := by
    cases r.category <;> exact legal_of_all (by decide)
  have page : ∀ c ∈ (r.page : Int).repr.toList, isURLCharacter c = true :=
    fun c mem => legal_of_digit (mem_repr mem)
  have joined : r.url.toList = (APIManager.Path.TopHeadlines.path ++ "?country=us&category=").toList
      ++ r.category.param.toList ++ ("&apiKey=" ++ APIManager.apiKey ++ "&page=").toList
      ++ (r.page : Int).repr.toList ++ "&pageSize=10".toList := by
    rw [url_eq, String.toList_ofList]
    simp [items, writtenItem, List.intercalate]
  rw [joined]
  simp only [List.forall_mem_append]
  exact ⟨⟨⟨⟨legal_of_all (by decide), category⟩, legal_of_all (by decide)⟩, page⟩,
    legal_of_all (by decide)⟩

theorem queryItems_url (r : Request) : queryItems r.url = some r.items := by
  have unended := ne_hash_of_legal r.legal_url
  rw [url_eq, String.toList_ofList] at unended
  rw [url_eq]
  apply queryItems_written (by decide) (by simp [items]) ?_ unended
  simp only [items, List.forall_mem_cons, List.not_mem_nil, false_implies, implies_true, and_true]
  exact ⟨⟨by decide, by decide⟩, ⟨by decide, isPlain_param _⟩, ⟨by decide, by decide⟩,
    ⟨by decide, isPlain_repr _⟩, by decide, by decide⟩

/-- A request that is out: for a category the API layer asks for, at a URL, and for a page
of its action. -/
structure Sent (isURL : String → Bool) (r : Request) : Prop where
  category : r.category ≠ .health
  accepted : isURL r.url = true
  page : if r.action = .loadMore then 2 ≤ r.page else r.page = 1

end Request

/-! ## What is asked -/

namespace Feed

variable {isURL : String → Bool} {i : Nat} {c : CategoryType} {f : Feed}

structure Asks (isURL : String → Bool) (f : Feed) : Prop where
  page : 1 ≤ f.slot.currentPageParam
  sent : ∀ r ∈ f.requests, r.Sent isURL

theorem answer_page {σ : Slot} (h : 1 ≤ σ.currentPageParam) (r : Request)
    (result : APIResult News) : 1 ≤ (σ.answer r result).currentPageParam := by
  obtain ⟨action, i, c, page⟩ := r
  cases action <;> cases result <;>
    simp only [Slot.answer, Slot.fecthDataResponse, Slot.refreshDataResponse,
      Slot.loadMoreApiResponse]
  all_goals first
    | exact h
    | exact Nat.le_refl 1
    | split <;> exact h

/-- A request is refused at once, or it is out. -/
theorem asks_send (h : f.Asks isURL) {r : Request}
    (page : if r.action = .loadMore then 2 ≤ r.page else r.page = 1) :
    (f.send isURL r).Asks isURL := by
  unfold send
  cases asked : (APIManager.getTopHeadlines isURL r.page r.category.param "us" :
    Option (APIResult News)) with
  | some result => exact ⟨answer_page h.page r result, h.sent⟩
  | none =>
    refine ⟨h.page, ?_⟩
    intro other mem
    obtain before | new := List.mem_append.mp mem
    · exact h.sent other before
    · obtain rfl := List.mem_singleton.mp new
      simp only [APIManager.getTopHeadlines, APIManager.request] at asked
      split at asked
      · cases asked
      · rename_i healthy
        split at asked
        · rename_i accepted
          exact ⟨fun health => healthy (congrArg CategoryType.param health), accepted, page⟩
        · cases asked

theorem asks_opening (isURL : String → Bool) (i : Nat) (c : CategoryType) :
    (opening isURL i c).Asks isURL := by
  have fresh : Asks isURL ⟨newSlot i c, []⟩ := ⟨Nat.le_refl 1, fun _ none => nomatch none⟩
  exact asks_send fresh rfl

theorem asks_step (h : f.Asks isURL) (fe : FeedEvent) : (f.step isURL i c fe).Asks isURL := by
  cases fe with
  | refresh =>
    simp only [step, refresh]
    have shown : Asks isURL { f with
        slot.child := { f.slot.child with refreshControlIsRefreshing := true } } :=
      ⟨h.page, h.sent⟩
    split
    · exact shown
    · exact asks_send shown (r := ⟨.pullToRefresh, i, c, 1⟩) rfl
  | loadMore =>
    simp only [step, loadMore]
    split
    · exact h
    · split
      · have page : 2 ≤ f.slot.currentPageParam + 1 := Nat.succ_le_succ h.page
        have turned : Asks isURL { f with slot := { f.slot with
            isLoading := true, currentPageParam := f.slot.currentPageParam + 1 } } :=
          ⟨Nat.le_of_succ_le page, h.sent⟩
        exact asks_send turned (r := ⟨.loadMore, i, c, f.slot.currentPageParam + 1⟩) page
      · exact h
  | respond r result =>
    exact ⟨answer_page h.page r result, fun other mem => h.sent other (List.mem_of_mem_erase mem)⟩
  | clear => exact ⟨h.page, h.sent⟩

end Feed

namespace HomeViewController

variable {isURL : String → Bool} {s t : HomeViewController}

/-- What every feed has asked, and what is still out for a category that is turned off. -/
structure Asks (isURL : String → Bool) (s : HomeViewController) : Prop where
  page : ∀ i σ, s.slot i = some σ → 1 ≤ σ.currentPageParam
  sent : ∀ r ∈ s.outstanding, r.Sent isURL

theorem Asks.feed (h : s.Asks isURL) {i : Nat} {f : Feed} (found : s.feed i = some f) :
    f.Asks isURL := by
  obtain ⟨slot, requests⟩ := feed_eq_some_iff.mp found
  refine ⟨h.page i _ slot, fun r mem => ?_⟩
  rw [← requests] at mem
  exact h.sent r (mem_requestsFor.mp mem).1

theorem Rebuilt.asks (h : Rebuilt isURL s t) (a : t.Aligned)
    (sent : ∀ r ∈ s.outstanding, r.Sent isURL) : t.Asks isURL := by
  constructor
  · intro i σ found
    obtain ⟨c, rfl⟩ := h.opening a found
    exact (Feed.asks_opening isURL i c).page
  · intro r mem
    have here := mem_requestsFor.mpr ⟨mem, rfl⟩
    cases category : s.categories[r.index]? with
    | none =>
      rw [h.beyond _ category] at here
      exact sent r (mem_requestsFor.mp here).1
    | some c =>
      rw [h.requests _ c category, List.mem_append] at here
      rcases here with before | new
      · exact sent r (mem_requestsFor.mp before).1
      · exact (Feed.asks_opening isURL r.index c).sent r new

theorem asks_handle {e : HomeEvent} (a : s.Aligned) (allowed : s.Allowed e)
    (stepped : s.handle isURL e = some t) (h : s.Asks isURL) : t.Asks isURL := by
  obtain saves | ⟨i, c, f, fe, -, found, -, -, touched⟩ | ⟨-, same⟩ :=
    handle_cases a allowed stepped
  · cases e with
    | saveSettingSubTabs screen =>
      obtain rfl | ⟨setting, -, rebuilt, aligned⟩ := handle_save allowed stepped
      · exact h
      · exact rebuilt.asks aligned h.sent
    | _ => cases saves
  · have stepped := Feed.asks_step (i := i) (c := c) (h.feed found) fe
    obtain ⟨slot, requests⟩ := feed_eq_some_iff.mp touched.feed
    constructor
    · intro j σ there
      by_cases here : j = i
      · subst here
        obtain rfl := Option.mem_unique slot there
        exact stepped.page
      · exact h.page j σ (touched.slots j here ▸ there)
    · intro r mem
      have there := mem_requestsFor.mpr ⟨mem, rfl⟩
      by_cases here : r.index = i
      · rw [here, requests] at there
        exact stepped.sent r there
      · rw [touched.requests r.index here] at there
        exact h.sent r (mem_requestsFor.mp there).1
  · exact ⟨fun j σ there => h.page j σ (same.slots j ▸ there), same.requests ▸ h.sent⟩

theorem reachable_asks (h : (machine isURL).Reachable (Launched isURL) s) : s.Asks isURL := by
  apply h.invariant (Asks isURL)
  · intro s launched
    obtain ⟨setting, rebuilt, aligned⟩ := launched.rebuilt
    exact rebuilt.asks aligned nofun
  · intro s e t reached before allowed stepped
    exact asks_handle (reachable_aligned reached) allowed stepped before

/-- **Every request that is out reads back from its URL**: the items are those of its
category and its page, no request for another of these has the URL, and health is never
asked for. A first page is a fetch or a refresh, and a later one a load-more. -/
theorem requests_read_back (h : (machine isURL).Reachable (Launched isURL) s) {r : Request}
    (out : r ∈ s.outstanding) :
    r.Sent isURL ∧ (∀ c ∈ r.url.toList, isURLCharacter c = true) ∧
    queryItems r.url = some [("country", "us"), ("category", r.category.param),
      ("apiKey", APIManager.apiKey), ("page", (r.page : Int).repr), ("pageSize", "10")] ∧
    ∀ r' : Request, r'.url = r.url → r'.category = r.category ∧ r'.page = r.page := by
  refine ⟨(reachable_asks h).sent r out, r.legal_url, r.queryItems_url, ?_⟩
  intro r' same
  have items := r'.queryItems_url
  rw [same, r.queryItems_url] at items
  simp only [Request.items, Option.some.injEq, List.cons.injEq, Prod.mk.injEq, true_and,
    and_true] at items
  obtain ⟨category, page⟩ := items
  exact ⟨(CategoryType.param_injective category).symm,
    Int.ofNat_inj.mp (Int.repr_injective page).symm⟩

/-- Page 2 of us is out. -/
theorem requests_read_back_loadingMore :
    Request.Sent anyURL ⟨.loadMore, 0, .us, 2⟩ ∧
      queryItems (Request.url ⟨.loadMore, 0, .us, 2⟩) = some [("country", "us"),
        ("category", "general"), ("apiKey", APIManager.apiKey), ("page", (2 : Int).repr),
        ("pageSize", "10")] := by
  have reached : ((machine anyURL).given fun _ e => ¬ IsSave e).Reachable (Launched anyURL)
      loadingMore := Machine.reachable_getD _ (launched _) (by decide)
  obtain ⟨sent, -, items, -⟩ :=
    requests_read_back reached.of_given (r := ⟨.loadMore, 0, .us, 2⟩) (by decide)
  exact ⟨sent, items⟩

end HomeViewController

end NewsReader
