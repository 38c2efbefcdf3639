import NewsReader.Bookmarks.Listing
import NewsReader.Home.RequestURL
import NewsReader.Scene.Components

/-!
# Where a bookmark comes from

No screen records which document an article was read from. A run of the scene keeps the
documents its data tasks deliver beside it. Every article that a screen shows or opens is
an element of one of them, and so is every bookmark that was not stored before the run
(`bookmarks_delivered`).
-/

namespace NewsReader

variable {Document : Type}

/-- A document that a data task ended with, and the category of its request. A search has
none. -/
structure Delivery (Document : Type) where
  category : Option CategoryType
  document : Document

/-- `news` is an element of the document as it is decoded, with the tag of the request. -/
def Delivery.Brings (F : Foundation Document) (d : Delivery Document) (news : News) : Prop :=
  ∃ json elements element, F.parse d.document = .ok json ∧
    json.member "articles" = some (.array elements) ∧ element ∈ elements ∧
    news = { News.ofJSON F.date element with categoryNews := d.category.map (·.param) }

/-- One of the documents brought `news`. -/
def Delivered (F : Foundation Document) (deliveries : List (Delivery Document)) (news : News) :
    Prop := ∃ d ∈ deliveries, d.Brings F news

namespace Scene

/-- A data task that ends with a document delivers it. -/
def deliver (_ : Scene) :
    SceneEvent Document → List (Delivery Document) → List (Delivery Document)
  | .homeAnswered r (some document) none, deliveries => deliveries ++ [⟨some r.category, document⟩]
  | .searchAnswered _ (some document) none, deliveries => deliveries ++ [⟨none, document⟩]
  | _, deliveries => deliveries

variable {F : Foundation Document} {s t : Scene} {e : SceneEvent Document}
  {deliveries : List (Delivery Document)} {news : News}

theorem delivered_later (h : Delivered F deliveries news) :
    Delivered F (s.deliver e deliveries) news := by
  obtain ⟨d, mem, brings⟩ := h
  refine ⟨d, ?_, brings⟩
  unfold deliver
  split
  · exact List.mem_append_left _ mem
  · exact List.mem_append_left _ mem
  · exact mem

theorem dataTaskDone_success {data : Option Document} {error : Option String} {document : Document}
    (done : API.dataTaskDone data error = some (.success (some document))) :
    data = some document ∧ error = none := by
  unfold API.dataTaskDone at done
  cases error with
  | some localizedDescription => cases done
  | none => cases data <;> cases done; exact ⟨rfl, rfl⟩

/-- A response that Home reads is that of the document delivered with it. -/
theorem delivered_home {r : Request} {response : Response News} (own : s.Allowed e)
    (is : homeEvent F e = some (.respond r (.success response)))
    (mem : news ∈ setCategoryInNews response.articles r.category) :
    Delivered F (s.deliver e deliveries) news := by
  cases e with
  | home own' =>
    obtain rfl := Option.some.inj is
    cases own.1
  | homeAnswered r' data error =>
    obtain ⟨answer, done, same⟩ := Option.map_eq_some_iff.mp is
    obtain ⟨rfl, read⟩ := HomeEvent.respond.inj same
    obtain ⟨document, json, elements, rfl, parsed, member, articles⟩ :=
      APIManager.completion_success _ _ _ read
    obtain ⟨rfl, rfl⟩ := dataTaskDone_success done
    rw [articles] at mem
    obtain ⟨_, decoded, rfl⟩ := List.mem_map.mp mem
    obtain ⟨element, listed, rfl⟩ := List.mem_map.mp decoded
    exact ⟨⟨some r'.category, document⟩, List.mem_append_right _ (List.mem_singleton_self _),
      json, elements, element, parsed, member, listed, rfl⟩
  | _ => cases is

theorem delivered_search {task : SearchTask} {response : Response News} (own : s.Allowed e)
    (is : searchEvent F e = some (.respond task (.success response)))
    (mem : news ∈ response.articles) : Delivered F (s.deliver e deliveries) news := by
  cases e with
  | search own' =>
    obtain rfl := Option.some.inj is
    cases own.1
  | searchAnswered task' data error =>
    obtain ⟨answer, done, same⟩ := Option.map_eq_some_iff.mp is
    obtain ⟨rfl, read⟩ := SearchEvent.respond.inj same
    obtain ⟨document, json, elements, rfl, parsed, member, articles⟩ :=
      APIManager.completion_success _ _ _ read
    obtain ⟨rfl, rfl⟩ := dataTaskDone_success done
    rw [articles] at mem
    obtain ⟨element, listed, rfl⟩ := List.mem_map.mp mem
    have untagged := (News.readFrom_ofJSON F.date element).categoryNews
    refine ⟨⟨none, document⟩, List.mem_append_right _ (List.mem_singleton_self _),
      json, elements, element, parsed, member, listed, ?_⟩
    rw [Option.map_none, ← untagged]
  | _ => cases is

/-! ## The invariant -/

/-- Every article on a screen was delivered, and so was every bookmark that is not in the
store `m` the run began with. -/
structure Sourced (F : Foundation Document) (m : RealmManager)
    (deliveries : List (Delivery Document)) (s : Scene) : Prop where
  home : ∀ i σ, s.home.slot i = some σ → σ.Holds (Delivered F deliveries)
  search : ∀ news ∈ s.search.viewModel.searchItems, Delivered F deliveries news
  details : ∀ vm ∈ s.bookmarks.newsDetails, ∀ news, vm.news = .unmanaged news →
    Delivered F deliveries news
  stored : ∀ row ∈ s.bookmarks.manager.storedNews, row ∈ m.storedNews ∨
    ∃ news, Delivered F deliveries news ∧ row.record = news.record
  asked : ∀ d ∈ deliveries, d.category ≠ some .health

variable {m : RealmManager}

/-- Home is never answered for health. -/
theorem asked_deliver (reached : (machine F).Reachable (Launched F) s) (own : s.Allowed e)
    (asked : ∀ d ∈ deliveries, d.category ≠ some .health) :
    ∀ d ∈ s.deliver e deliveries, d.category ≠ some .health := by
  intro d mem
  unfold deliver at mem
  split at mem
  · rename_i r document
    obtain before | new := List.mem_append.mp mem
    · exact asked d before
    · obtain rfl := List.mem_singleton.mp new
      have asks := HomeViewController.reachable_asks (home_and_session reached).1
      intro health
      exact (asks.sent r own).category (Option.some.inj health)
  · obtain before | new := List.mem_append.mp mem
    · exact asked d before
    · obtain rfl := List.mem_singleton.mp new
      exact nofun
  · exact asked d mem

theorem Sourced.later (reached : (machine F).Reachable (Launched F) s) (own : s.Allowed e)
    (h : Sourced F m deliveries s) : Sourced F m (s.deliver e deliveries) s where
  home i σ there news shown := delivered_later (h.home i σ there news shown)
  search news mem := delivered_later (h.search news mem)
  details vm mem news shown := delivered_later (h.details vm mem news shown)
  stored row mem := by
    obtain before | ⟨news, delivered, same⟩ := h.stored row mem
    · exact Or.inl before
    · exact Or.inr ⟨news, delivered_later delivered, same⟩
  asked := asked_deliver reached own h.asked

/-- An event of Home, or of Home and the settings, leaves articles that were delivered. -/
theorem Sourced.withHome (h : Sourced F m deliveries s) {home : HomeViewController}
    {screen : Option SettingSubTabsViewModel}
    (slots : ∀ i σ, home.slot i = some σ → σ.Holds (Delivered F deliveries)) :
    Sourced F m deliveries { s with home, settingSubTabs := screen } :=
  ⟨slots, h.search, h.details, h.stored, h.asked⟩

theorem Sourced.withBookmarks (h : Sourced F m deliveries s) {e' : BookmarkEvent}
    {bookmarks : Bookmarks} (reached : (machine F).Reachable (Launched F) s) (opens : s.Opens e')
    (stepped : s.bookmarks.handle e' = some bookmarks) :
    Sourced F m deliveries { s with bookmarks } := by
  refine ⟨h.home, h.search, ?_, ?_, h.asked⟩
  · intro vm mem news shown
    obtain ⟨old, before, same⟩ | rfl | rfl := Bookmarks.details_handle stepped mem shown
    · exact h.details old before news same
    · obtain ⟨child, there, listed⟩ := opens
      obtain ⟨i, σ, slot, rfl⟩ :=
        (HomeViewController.reachable_aligned (home_and_session reached).1).slot_of_child there
      exact h.home i σ slot news (Or.inr listed)
    · exact h.search news opens
  · intro row mem
    obtain before | ⟨news, stores, same⟩ := Bookmarks.stored_handle stepped mem
    · exact h.stored row before
    · exact Or.inr ⟨news, h.details _ stores.shown news rfl, same⟩

theorem Sourced.step (reached : (machine F).Reachable (Launched F) s)
    (h : Sourced F m deliveries s) (own : s.Allowed e) (stepped : s.handle F e = some t) :
    Sourced F m (s.deliver e deliveries) t := by
  have later : Sourced F m (s.deliver e deliveries) s := h.later reached own
  obtain ⟨home, -⟩ := home_and_session reached
  have aligned := HomeViewController.reachable_aligned home
  cases moved own stepped with
  | connected loaded =>
    have launched : HomeViewController.Launched F.isURL _ := ⟨_, loaded⟩
    obtain ⟨setting, rebuilt, a⟩ := launched.rebuilt
    refine ⟨rebuilt.holds a, ?_, ?_, later.stored, later.asked⟩
    · intro news mem
      cases mem
    · intro vm mem
      cases mem
  | home is kept allowed handled =>
    apply later.withHome
    apply HomeViewController.holds_handle aligned allowed handled _ later.home
    rintro r response rfl news mem
    exact delivered_home own is mem
  | saved shown saves =>
    obtain ⟨-, screens⟩ := home_and_session reached
    have opened := screens _ (by rw [session, shown]; rfl)
    have permitted : s.home.Allowed (.saveSettingSubTabs _) :=
      SettingSession.reachable_permitted opened
    apply later.withHome
    apply HomeViewController.holds_handle aligned permitted saves _ later.home
    rintro r response ⟨⟩
  | opened | toggled | closed | downloader | same =>
    exact ⟨later.home, later.search, later.details, later.stored, later.asked⟩
  | search is allowed =>
    refine ⟨later.home, ?_, later.details, later.stored, later.asked⟩
    intro news mem
    obtain before | ⟨task, response, rfl, new⟩ := SearchNewsViewController.mem_items_handle mem
    · exact later.search news before
    · exact delivered_search own is new
  | bookmarks opens handled => exact later.withBookmarks reached opens handled

theorem sourced_of_reachable
    (h : ((machine F).observed deliver).Reachable
      (fun p => Launched F p.1 ∧ p.1.bookmarks.manager = m ∧ p.2 = []) (s, deliveries)) :
    Sourced F m deliveries s := by
  apply h.invariant (fun p => Sourced F m p.2 p.1)
  · rintro ⟨s, deliveries⟩ ⟨⟨-, search, launched, ⟨details, -⟩, -⟩, rfl, rfl⟩
    obtain ⟨setting, rebuilt, a⟩ := HomeViewController.Launched.rebuilt launched
    refine ⟨rebuilt.holds a, ?_, ?_, fun row mem => Or.inl mem, nofun⟩
    · intro news mem
      dsimp only at search
      rw [search] at mem
      cases mem
    · intro vm mem
      dsimp only at details
      rw [details] at mem
      cases mem
  · rintro ⟨s, deliveries⟩ e ⟨t, deliveries'⟩ reached before own stepped
    obtain ⟨handled, rfl⟩ := Machine.observed_step.mp stepped
    exact before.step (reached.mono fun p first => first.1).of_observed own handled

/-- **Every bookmark has a source**: it was stored before the run, or it is an article of a
document that one of the run's data tasks ended with, decoded and tagged for the category
that was asked for. The untagged ones come from Search. -/
theorem bookmarks_delivered
    (h : ((machine F).observed deliver).Reachable
      (fun p => Launched F p.1 ∧ p.1.bookmarks.manager = m ∧ p.2 = []) (s, deliveries))
    {row : NewsRow} (stored : row ∈ s.bookmarks.manager.storedNews) :
    row ∈ m.storedNews ∨ ∃ d ∈ deliveries, ∃ news, d.Brings F news ∧ row.record = news.record ∧
      row.record.categoryNews = d.category.map (·.param) := by
  obtain before | ⟨news, ⟨d, mem, brings⟩, same⟩ := (sourced_of_reachable h).stored row stored
  · exact Or.inl before
  · refine Or.inr ⟨d, mem, news, brings, same, ?_⟩
    obtain ⟨json, elements, element, -, -, -, rfl⟩ := brings
    rw [same]
    rfl

/-- The article of `marsDocument`, as Home shows it. -/
def marsNews : News :=
  { source := none, titleNews := some "Mars", urlNews := some "https://a.example/mars"
    categoryNews := some "general" }

/-- `marsBookmarked`, with what was delivered. -/
def marsDelivered : Scene × List (Delivery JSON) :=
  (((machine plain).observed deliver).run (started, []) marsBookmarked).getD (started, [])

theorem marsDelivered_reachable : ((machine plain).observed deliver).Reachable
    (fun p => Launched plain p.1 ∧ p.1.bookmarks.manager = ⟨some {}⟩ ∧ p.2 = []) marsDelivered :=
  Machine.reachable_getD _ ⟨started_launched, rfl, rfl⟩ (by decide)

theorem bookmarks_delivered_mars : ∃ row ∈ marsDelivered.1.bookmarks.manager.storedNews,
    ∃ d ∈ marsDelivered.2, ∃ news, d.Brings plain news ∧ row.record = news.record ∧
      row.record.categoryNews = d.category.map (·.param) := by
  have stored : ⟨0, marsNews.record⟩ ∈ marsDelivered.1.bookmarks.manager.storedNews := by decide
  obtain before | delivered := bookmarks_delivered marsDelivered_reachable stored
  · cases before
  · exact ⟨_, stored, delivered⟩

/-- **No bookmark is new under Health.** The list of a store only shrinks there, whatever
the screens do: the API layer fails every request of Home for it. -/
theorem health_bookmarks_stored_before
    (h : (machine F).Reachable (fun s => Launched F s ∧ s.bookmarks.manager = m) s)
    {row : NewsRow} (stored : row ∈ s.bookmarks.manager.storedNews)
    (health : row.record.categoryNews = some CategoryType.health.param) :
    row ∈ m.storedNews := by
  obtain ⟨deliveries, observed⟩ : ∃ deliveries, ((machine F).observed deliver).Reachable
      (fun p => (Launched F p.1 ∧ p.1.bookmarks.manager = m) ∧ p.2 = []) (s, deliveries) :=
    h.exists_history []
  have sourced : Sourced F m deliveries s :=
    sourced_of_reachable (observed.mono fun p first => ⟨first.1.1, first.1.2, first.2⟩)
  obtain before | ⟨news, ⟨d, mem, brings⟩, same⟩ := sourced.stored row stored
  · exact before
  · obtain ⟨json, elements, element, -, -, -, rfl⟩ := brings
    rw [same] at health
    obtain ⟨c, asked, param⟩ := Option.map_eq_some_iff.mp health
    obtain rfl := CategoryType.param_injective param
    exact absurd asked (sourced.asked d mem)

/-- A health bookmark of an earlier version of the app. -/
def healthNews : News :=
  { urlNews := some "https://a.example/sleep", categoryNews := some "health" }

def healthStarted : Scene :=
  { started with bookmarks.manager := ⟨some (({} : Realm).create (.unmanaged healthNews))⟩ }

theorem health_bookmarks_stored_before_run :
    ∃ s : Scene, s.bookmarks.manager.getObjects.length = 2 ∧
      ∀ row ∈ s.bookmarks.manager.storedNews, row.record.categoryNews = some "health" →
        row ∈ healthStarted.bookmarks.manager.storedNews := by
  have launched : Launched plain healthStarted :=
    ⟨rfl, rfl, HomeViewController.launched { stored := some [0, 1] }, ⟨rfl, rfl, rfl⟩,
      Downloader.configured⟩
  have reached : (machine plain).Reachable (fun s => Launched plain s ∧
      s.bookmarks.manager = healthStarted.bookmarks.manager)
      (((machine plain).run healthStarted marsBookmarked).getD healthStarted) :=
    Machine.reachable_getD _ ⟨launched, rfl⟩ (by decide)
  exact ⟨_, by decide, fun row stored health =>
    health_bookmarks_stored_before reached stored health⟩

end Scene

end NewsReader
