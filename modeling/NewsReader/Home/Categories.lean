import NewsReader.Home.IndexSafety

/-!
# Articles under their own category

A response is stored at the index its request was made for, tagged with the
category it was made for. The two still belong together unless a settings save
has moved the categories in between (`articles_in_their_category`).
-/

namespace NewsReader

/-- Every article a slot holds, in the model and in the child, is tagged `c`. -/
def Slot.Tagged (c : CategoryType) (σ : Slot) : Prop :=
  (∀ news ∈ σ.articles, news.categoryNews = some c.param) ∧
  ∀ news ∈ σ.child.viewModel.articles, news.categoryNews = some c.param

/-- The response brings articles. -/
def Brings : APIResult News → Prop
  | .failure _ => False
  | .success response => response.articles ≠ []

instance : (result : APIResult News) → Decidable (Brings result)
  | .failure _ => .isFalse id
  | .success response => inferInstanceAs (Decidable (response.articles ≠ []))

namespace Slot

theorem tagged_setCategoryInNews {articles : List News} {c d : CategoryType} :
    (∀ news ∈ setCategoryInNews articles d, news.categoryNews = some c.param) ↔
      (articles ≠ [] → d = c) := by
  constructor
  · intro tagged nonempty
    obtain ⟨news, rest, rfl⟩ := List.exists_cons_of_ne_nil nonempty
    have head := tagged { news with categoryNews := some d.param } (by simp [setCategoryInNews])
    exact CategoryType.param_injective (Option.some.inj head)
  · intro same news mem
    have nonempty : articles ≠ [] := by
      rintro rfl
      cases mem
    rw [setCategoryInNews_category mem, same nonempty]

theorem SameArticles.tagged {c : CategoryType} {σ σ' : Slot} (same : σ.SameArticles σ')
    (h : σ.Tagged c) : σ'.Tagged c := by
  obtain ⟨model, child⟩ := same
  rw [Tagged, model, child]
  exact h

/-- A response keeps a slot's tags exactly when it brings no articles, or
articles of the slot's own category. -/
theorem tagged_answer_iff {c : CategoryType} {σ : Slot} (h : σ.Tagged c) (r : Request)
    (result : APIResult News) :
    (σ.answer r result).Tagged c ↔ (Brings result → r.category = c) := by
  cases result with
  | failure error =>
    have kept : (σ.answer r (.failure error)).Tagged c := (sameArticles_failure r error σ).tagged h
    exact ⟨fun _ => False.elim, fun _ => kept⟩
  | success response =>
    obtain ⟨model, child⟩ := h
    obtain ⟨action, i, d, page⟩ := r
    cases action with
    | fetchData =>
      by_cases empty : response.articles = []
      · simpa [answer, fecthDataResponse, Tagged, Brings, empty] using And.intro model child
      · simp [answer, fecthDataResponse, showArticles, Tagged, Brings, empty,
          tagged_setCategoryInNews]
    | pullToRefresh =>
      simp [answer, refreshDataResponse, showArticles, Tagged, Brings, tagged_setCategoryInNews]
    | loadMore =>
      by_cases empty : response.articles = []
      · simpa [answer, loadMoreApiResponse, Tagged, Brings, empty] using And.intro model child
      · have more : response.articles.length > 0 := List.length_pos_iff.mpr empty
        have appended : (∀ news ∈ σ.articles ++ setCategoryInNews response.articles d,
            news.categoryNews = some c.param) ↔ (response.articles ≠ [] → d = c) := by
          rw [List.forall_mem_append, tagged_setCategoryInNews]
          exact and_iff_right model
        simp only [answer, loadMoreApiResponse, more, if_true, showArticles, Tagged, Brings,
          HomeChildViewController.setArticles_viewModel, appended, and_self]

end Slot

/-- A step of a feed other than a response keeps its tags: what is answered
before the request returns is a failure. -/
theorem Feed.tagged_step {isURL : String → Bool} {i : Nat} {c : CategoryType} {f : Feed}
    {fe : FeedEvent} (h : f.slot.Tagged c)
    (inPlace : ∀ r result, fe = .respond r result → Brings result → r.category = c) :
    (f.step isURL i c fe).slot.Tagged c := by
  cases fe with
  | refresh => exact (f.sameArticles_step isURL i c (Or.inl rfl)).tagged h
  | loadMore => exact (f.sameArticles_step isURL i c (Or.inr rfl)).tagged h
  | respond r result => exact (Slot.tagged_answer_iff h r result).mpr (inPlace r result rfl)
  | clear => exact ⟨h.1, by simp [Feed.step, Feed.clear]⟩

theorem Feed.tagged_opening (isURL : String → Bool) (i : Nat) (c : CategoryType) :
    (Feed.opening isURL i c).slot.Tagged c := by
  rw [Feed.opening_slot]
  simp [Slot.Tagged, Feed.newSlot, Feed.newChild]

namespace HomeViewController

/-- Every list on the Home screen holds articles of its own category only. -/
def Uncontaminated (s : HomeViewController) : Prop :=
  ∀ (i : Nat) c, s.categories[i]? = some c →
    (∀ articles, s.viewModel.articlesArray[i]? = some articles →
      ∀ news ∈ articles, news.categoryNews = some c.param) ∧
    (∀ child, s.viewControllers[i]? = some child →
      ∀ news ∈ child.viewModel.articles, news.categoryNews = some c.param)

/-- A response that brings articles finds its category still at its index. -/
def FindsCategory (s : HomeViewController) : HomeEvent → Prop
  | .respond r result => Brings result → s.categories[r.index]? = some r.category
  | _ => True

instance (s : HomeViewController) : (e : HomeEvent) → Decidable (FindsCategory s e)
  | .respond r result =>
    inferInstanceAs (Decidable (Brings result → s.categories[r.index]? = some r.category))
  | .saveSettingSubTabs _ | .refreshHomeChildVC _ | .loadMore _ | .didSelectItemAt _ | .swipe _
  | .confirm _ => .isTrue trivial

section

variable {isURL : String → Bool} {s t : HomeViewController}

theorem Aligned.uncontaminated_iff (a : s.Aligned) :
    s.Uncontaminated ↔
      ∀ i c σ, s.categories[i]? = some c → s.slot i = some σ → σ.Tagged c := by
  constructor
  · intro h i c σ category found
    obtain ⟨h1, -, -, -, -, h6⟩ := slot_eq_some_iff.mp found
    exact ⟨(h i c category).1 _ h1, (h i c category).2 _ h6⟩
  · intro h i c category
    obtain ⟨σ, found⟩ := a.slot_of_lt (List.getElem?_eq_some_iff.mp category).1
    obtain ⟨h1, -, -, -, -, h6⟩ := slot_eq_some_iff.mp found
    obtain ⟨model, child⟩ := h i c σ category found
    refine ⟨fun articles here => ?_, fun view here => ?_⟩
    · obtain rfl := Option.mem_unique h1 here
      exact model
    · obtain rfl := Option.mem_unique h6 here
      exact child

theorem Rebuilt.uncontaminated (h : Rebuilt isURL s t) (a : t.Aligned) : t.Uncontaminated := by
  rw [a.uncontaminated_iff]
  intro i c σ category found
  rw [h.categories] at category
  obtain rfl := Option.mem_unique (h.slot i c category) found
  exact Feed.tagged_opening isURL i c

/-- One response, stored in place or not. -/
theorem respond_uncontaminated_iff (a : s.Aligned) (clean : s.Uncontaminated) {r : Request}
    {result : APIResult News} (stepped : s.handle isURL (.respond r result) = some t) :
    t.Uncontaminated ↔ FindsCategory s (.respond r result) := by
  have bound : r.index < s.categories.length :=
    (a.respond_isSome_iff r result).mp (by rw [stepped]; rfl)
  obtain ⟨c, f, category, found⟩ := exists_feed a bound
  obtain ⟨u, ran, touched⟩ := touches_answered a found result
  obtain rfl : u = t := Option.mem_unique ran stepped
  have tagged := a.uncontaminated_iff.mp clean
  have here := (feed_eq_some_iff.mp found).1
  have answered := (feed_eq_some_iff.mp touched.feed).1
  rw [(touched.aligned a).uncontaminated_iff, categories, touched.setting, ← categories]
  have exact := Slot.tagged_answer_iff (tagged _ c _ category here) r result
  constructor
  · intro h brings
    rw [exact.mp (h _ c _ category answered) brings]
    exact category
  · intro finds i d σ named there
    by_cases same : i = r.index
    · subst same
      obtain rfl : c = d := Option.mem_unique category named
      obtain rfl := Option.mem_unique answered there
      apply exact.mpr
      intro brings
      exact Option.mem_unique (finds brings) category
    · exact tagged i d σ named (touched.slots i same ▸ there)

theorem uncontaminated_step {e : HomeEvent} (a : s.Aligned) (allowed : s.Allowed e)
    (finds : FindsCategory s e) (stepped : s.handle isURL e = some t)
    (clean : s.Uncontaminated) : t.Uncontaminated := by
  obtain saves | ⟨i, c, f, fe, category, found, -, concerns, touched⟩ | ⟨-, same⟩ :=
    handle_cases a allowed stepped
  · cases e with
    | saveSettingSubTabs screen =>
      obtain rfl | ⟨setting, -, rebuilt, aligned⟩ := handle_save allowed stepped
      · exact clean
      · exact rebuilt.uncontaminated aligned
    | _ => cases saves
  · have tagged := a.uncontaminated_iff.mp clean
    have here := tagged i c f.slot category (feed_eq_some_iff.mp found).1
    have kept : (f.step isURL i c fe).slot.Tagged c := by
      apply Feed.tagged_step here
      rintro r result rfl brings
      obtain ⟨rfl, rfl⟩ := feedEvent_respond (by simpa using concerns i)
      exact Option.mem_unique (finds brings) category
    rw [(touched.aligned a).uncontaminated_iff, categories, touched.setting]
    intro j d σ named there
    by_cases same : j = i
    · subst same
      obtain rfl : c = d := Option.mem_unique category named
      obtain rfl := Option.mem_unique (feed_eq_some_iff.mp touched.feed).1 there
      exact kept
    · exact tagged j d σ named (touched.slots j same ▸ there)
  · have kept := a.uncontaminated_iff.mp clean
    rw [same.aligned.uncontaminated_iff, categories, same.setting]
    intro i c σ category found
    exact kept i c σ category (same.slots i ▸ found)

end

/-- **Articles stay in their category** in every run whose responses with
articles find their category still at their index. A response that does not is
what mixes them. -/
theorem articles_in_their_category (isURL : String → Bool) (s : HomeViewController) :
    (((machine isURL).given FindsCategory).Reachable (Launched isURL) s → s.Uncontaminated) ∧
    ((machine isURL).Reachable (Launched isURL) s → s.Uncontaminated →
      ∀ r result t, s.handle isURL (.respond r result) = some t →
        (t.Uncontaminated ↔ FindsCategory s (.respond r result))) := by
  constructor
  · intro h
    apply h.invariant Uncontaminated
    · intro s launched
      obtain ⟨setting, rebuilt, aligned⟩ := launched.rebuilt
      exact rebuilt.uncontaminated aligned
    · intro s e t reached clean allowed stepped
      exact uncontaminated_step (reachable_aligned reached.of_given) allowed.1 allowed.2 stepped
        clean
  · intro h clean r result t stepped
    exact respond_uncontaminated_iff (reachable_aligned h) clean stepped

def anArticle : News := { titleNews := some "Mars", urlNews := some "https://a.example/mars" }

def anotherArticle : News :=
  { titleNews := some "Venus", urlNews := some "https://a.example/venus" }

/-- A page of two articles, which no loading view covers. -/
def answered : APIResult News := .success ⟨"ok", [anArticle, anotherArticle]⟩

/-- The fetch of the us page answers. -/
def fetched : HomeViewController :=
  (((machine anyURL).given FindsCategory).run (launch {})
    [.respond ⟨.fetchData, 0, .us, 1⟩ answered]).getD {}

theorem fetched_reachable :
    ((machine anyURL).given FindsCategory).Reachable (Launched anyURL) fetched :=
  Machine.reachable_getD _ (launched _) (by decide)

theorem articles_in_their_category_fetched :
    fetched.Uncontaminated ∧ fetched.viewModel.articlesArray.head? =
      some (setCategoryInNews [anArticle, anotherArticle] .us) ∧
    ∀ t, fetched.handle anyURL (.respond ⟨.fetchData, 2, .science, 1⟩ answered) = some t →
      t.Uncontaminated := by
  have clean := (articles_in_their_category anyURL fetched).1 fetched_reachable
  refine ⟨clean, by decide, fun t stepped => ?_⟩
  exact ((articles_in_their_category anyURL fetched).2 fetched_reachable.of_given clean _ _ t
    stepped).mpr (by decide)

/-- A save that drops science moves technology to its index; then the fetch of
science answers. -/
def moved : HomeViewController :=
  ((machine anyURL).run (launch {})
    [.saveSettingSubTabs (settingScreen
        [.us, .health, .technology, .sports, .entertainment, .business]),
      .respond ⟨.fetchData, 2, .science, 1⟩ answered]).getD {}

theorem moved_reachable : (machine anyURL).Reachable (Launched anyURL) moved :=
  Machine.reachable_getD _ (launched {}) (by decide)

theorem late_response_contaminates :
    ¬ ∀ s, (machine anyURL).Reachable (Launched anyURL) s → s.Uncontaminated := by
  intro clean
  have tagged := (clean moved moved_reachable 2 .technology (by decide)).1
    (setCategoryInNews [anArticle, anotherArticle] .science) (by decide)
    { anArticle with categoryNews := some "science" } (List.mem_cons_self)
  revert tagged
  decide

end HomeViewController

end NewsReader
