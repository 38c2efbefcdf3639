import NewsReader.Home.Runs

/-!
# What Home shows

Every article on the Home screen is tagged with some category, settings saves and
late responses included (`home_articles_tagged`). Which category is the subject of
`Categories.lean`.
-/

namespace NewsReader

namespace Slot

/-- An article that a response leaves in a slot was there before, or the response has
brought it. -/
theorem mem_answer {σ : Slot} {r : Request} {result : APIResult News} {news : News}
    (mem : news ∈ (σ.answer r result).articles ∨
      news ∈ (σ.answer r result).child.viewModel.articles) :
    (news ∈ σ.articles ∨ news ∈ σ.child.viewModel.articles) ∨
      ∃ response, result = .success response ∧
        news ∈ setCategoryInNews response.articles r.category := by
  obtain ⟨action, i, d, page⟩ := r
  cases result with
  | failure error => cases action <;> exact Or.inl mem
  | success response =>
    cases action with
    | fetchData =>
      by_cases empty : response.articles = []
      · simp only [answer, fecthDataResponse, empty] at mem
        exact Or.inl mem
      · have shown : news ∈ setCategoryInNews response.articles d := by
          simpa [answer, fecthDataResponse, empty, showArticles] using mem
        exact Or.inr ⟨response, rfl, shown⟩
    | pullToRefresh =>
      have shown : news ∈ setCategoryInNews response.articles d := by
        simpa [answer, refreshDataResponse, showArticles] using mem
      exact Or.inr ⟨response, rfl, shown⟩
    | loadMore =>
      by_cases empty : response.articles = []
      · simp only [answer, loadMoreApiResponse, empty] at mem
        exact Or.inl mem
      · have more : response.articles.length > 0 := List.length_pos_iff.mpr empty
        have shown : news ∈ σ.articles ++ setCategoryInNews response.articles d := by
          simpa [answer, loadMoreApiResponse, more, showArticles] using mem
        obtain old | new := List.mem_append.mp shown
        · exact Or.inl (Or.inl old)
        · exact Or.inr ⟨response, rfl, new⟩

/-- Every article a slot holds is one `P` says. -/
def Holds (P : News → Prop) (σ : Slot) : Prop :=
  ∀ news, news ∈ σ.articles ∨ news ∈ σ.child.viewModel.articles → P news

/-- Every article a slot holds is tagged with some category. -/
def Categorised (σ : Slot) : Prop :=
  ∀ news, news ∈ σ.articles ∨ news ∈ σ.child.viewModel.articles →
    ∃ c : CategoryType, news.categoryNews = some c.param

theorem SameArticles.holds {P : News → Prop} {σ σ' : Slot} (same : σ.SameArticles σ')
    (h : σ.Holds P) : σ'.Holds P := by
  obtain ⟨model, child⟩ := same
  rw [Holds, model, child]
  exact h

end Slot

namespace Feed

variable {isURL : String → Bool} {i : Nat} {c : CategoryType} {f : Feed} {P : News → Prop}

/-- Only a response brings articles. -/
theorem holds_step (h : f.slot.Holds P) {fe : FeedEvent}
    (brings : ∀ r response, fe = .respond r (.success response) →
      ∀ news ∈ setCategoryInNews response.articles r.category, P news) :
    (f.step isURL i c fe).slot.Holds P := by
  cases fe with
  | refresh => exact (f.sameArticles_step isURL i c (Or.inl rfl)).holds h
  | loadMore => exact (f.sameArticles_step isURL i c (Or.inr rfl)).holds h
  | respond r result =>
    intro news mem
    obtain old | ⟨response, rfl, new⟩ := Slot.mem_answer mem
    · exact h news old
    · exact brings r response rfl news new
  | clear =>
    intro news mem
    simp only [step, clear, HomeChildViewController.setArticles_viewModel] at mem
    obtain kept | none := mem
    · exact h news (Or.inl kept)
    · cases none

theorem holds_opening : (opening isURL i c).slot.Holds P := by
  intro news mem
  rw [opening_slot] at mem
  simp [newSlot, newChild] at mem

theorem categorised_step (h : f.slot.Categorised) (fe : FeedEvent) :
    (f.step isURL i c fe).slot.Categorised := by
  apply holds_step h
  rintro r response - news mem
  exact ⟨r.category, setCategoryInNews_category mem⟩

end Feed

namespace HomeViewController

/-- **Home articles are tagged**, in the model and in what the pages show. -/
theorem home_articles_tagged {isURL : String → Bool} {s : HomeViewController}
    (h : (machine isURL).Reachable (Launched isURL) s)
    {child : HomeChildViewController} (mem : child ∈ s.viewControllers) {news : News}
    (shown : news ∈ child.viewModel.articles) :
    ∃ c : CategoryType, news.categoryNews = some c.param := by
  obtain ⟨i, σ, slot, rfl⟩ := (reachable_aligned h).slot_of_child mem
  have categorised : σ.Categorised :=
    slot_invariant Slot.Categorised (fun _ _ => Feed.holds_opening)
      (fun _ _ _ fe before => Feed.categorised_step before fe) h slot
  exact categorised news (Or.inr shown)

/-- A rebuilt screen shows no articles. -/
theorem Rebuilt.holds {isURL : String → Bool} {P : News → Prop} {s t : HomeViewController}
    (h : Rebuilt isURL s t) (a : t.Aligned) : ∀ i σ, t.slot i = some σ → σ.Holds P := by
  intro i σ there
  obtain ⟨c, rfl⟩ := h.opening a there
  exact Feed.holds_opening

/-- **One event** leaves Home with articles it showed before, and those of the response. -/
theorem holds_handle {isURL : String → Bool} {P : News → Prop} {s t : HomeViewController}
    {e : HomeEvent} (a : s.Aligned) (allowed : s.Allowed e)
    (stepped : s.handle isURL e = some t)
    (brings : ∀ r response, e = .respond r (.success response) →
      ∀ news ∈ setCategoryInNews response.articles r.category, P news)
    (before : ∀ i σ, s.slot i = some σ → σ.Holds P) :
    ∀ i σ, t.slot i = some σ → σ.Holds P := by
  obtain saves | ⟨i, c, f, fe, -, found, -, concerns, touched⟩ | ⟨-, same⟩ :=
    handle_cases a allowed stepped
  · cases e with
    | saveSettingSubTabs screen =>
      obtain rfl | ⟨setting, -, rebuilt, aligned⟩ := handle_save allowed stepped
      · exact before
      · exact rebuilt.holds aligned
    | _ => cases saves
  · intro j σ there
    by_cases here : j = i
    · subst here
      obtain rfl := Option.mem_unique (feed_eq_some_iff.mp touched.feed).1 there
      apply Feed.holds_step (before j _ (feed_eq_some_iff.mp found).1)
      rintro r response rfl
      obtain ⟨rfl, -⟩ := feedEvent_respond (by simpa using concerns j)
      exact brings r response rfl
    · exact before j σ (touched.slots j here ▸ there)
  · exact fun j σ there => before j σ (same.slots j ▸ there)

end HomeViewController

end NewsReader
