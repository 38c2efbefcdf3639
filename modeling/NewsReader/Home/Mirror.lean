import NewsReader.Home.Categories

/-!
# The model's lists and the children's

Each list of articles is held twice, in `articlesArray` and by the child that shows
it. Responses write both. Confirming the alert of `scrollToCategory` empties the
child alone, so the two stay equal as long as the list it empties was empty
(`children_mirror_articlesArray`).
-/

namespace NewsReader

namespace Slot

def Mirrored (σ : Slot) : Prop := σ.child.viewModel.articles = σ.articles

theorem SameArticles.mirrored {σ σ' : Slot} (same : σ.SameArticles σ') (h : σ.Mirrored) :
    σ'.Mirrored := by
  obtain ⟨model, child⟩ := same
  rw [Mirrored, model, child]
  exact h

/-- A response writes both lists, or neither. -/
theorem Mirrored.answer {σ : Slot} (h : σ.Mirrored) (r : Request) (result : APIResult News) :
    (σ.answer r result).Mirrored := by
  cases result with
  | failure error => exact (sameArticles_failure r error σ).mirrored h
  | success response =>
    obtain ⟨action, i, c, page⟩ := r
    cases action with
    | fetchData =>
      simp only [Slot.answer, fecthDataResponse]
      split
      · exact h
      · simp [Mirrored, showArticles]
    | pullToRefresh => simp [Slot.answer, refreshDataResponse, Mirrored, showArticles]
    | loadMore =>
      simp only [Slot.answer, loadMoreApiResponse]
      split
      · simp [Mirrored, showArticles]
      · exact h

end Slot

namespace Feed

variable {isURL : String → Bool} {i : Nat} {c : CategoryType} {f : Feed} {fe : FeedEvent}

/-- One step of a feed: clearing the child parts it from a list that is not empty. -/
theorem mirrored_step_iff (h : f.slot.Mirrored) :
    (f.step isURL i c fe).slot.Mirrored ↔ (fe = .clear → f.slot.articles = []) := by
  have asks (tap : fe = .refresh ∨ fe = .loadMore) : (f.step isURL i c fe).slot.Mirrored :=
    (f.sameArticles_step isURL i c tap).mirrored h
  cases fe with
  | refresh => exact ⟨fun _ => nofun, fun _ => asks (Or.inl rfl)⟩
  | loadMore => exact ⟨fun _ => nofun, fun _ => asks (Or.inr rfl)⟩
  | respond r result => exact ⟨fun _ => nofun, fun _ => h.answer r result⟩
  | clear =>
    simp only [Slot.Mirrored, step, clear, HomeChildViewController.setArticles_viewModel,
      forall_const]
    exact eq_comm

theorem mirrored_opening (isURL : String → Bool) (i : Nat) (c : CategoryType) :
    (opening isURL i c).slot.Mirrored := by
  rw [opening_slot]
  rfl

end Feed

namespace HomeViewController

/-- Each child shows the list the model keeps at its index. -/
def Mirrors (s : HomeViewController) : Prop :=
  s.viewControllers.map (·.viewModel.articles) = s.viewModel.articlesArray

instance (s : HomeViewController) : Decidable s.Mirrors :=
  inferInstanceAs (Decidable (_ = _))

/-- An error alert is confirmed only on a page whose list is empty. -/
def DiscardsNothing (s : HomeViewController) : HomeEvent → Prop
  | .confirm (.categoryError _) =>
    s.viewModel.articlesArray[s.viewModel.currentPage]? = some []
  | _ => True

instance (s : HomeViewController) : (e : HomeEvent) → Decidable (DiscardsNothing s e)
  | .confirm (.categoryError _) => inferInstanceAs (Decidable
    (s.viewModel.articlesArray[s.viewModel.currentPage]? = some []))
  | .confirm (.notice _) | .saveSettingSubTabs _ | .refreshHomeChildVC _ | .loadMore _
  | .respond .. | .didSelectItemAt _ | .swipe _ => .isTrue trivial

section

variable {isURL : String → Bool} {s t : HomeViewController} {e : HomeEvent}

theorem Aligned.mirrors_iff (a : s.Aligned) :
    s.Mirrors ↔ ∀ i σ, s.slot i = some σ → σ.Mirrored := by
  constructor
  · intro mirrors i σ found
    obtain ⟨articles, -, -, -, -, child⟩ := slot_eq_some_iff.mp found
    have shown := congrArg (·[i]?) mirrors
    simp only [List.getElem?_map, child, articles, Option.map_some, Option.some.injEq] at shown
    exact shown
  · intro mirrored
    apply List.ext_getElem?
    intro i
    rw [List.getElem?_map]
    by_cases bound : i < s.categories.length
    · obtain ⟨σ, found⟩ := a.slot_of_lt bound
      obtain ⟨articles, -, -, -, -, child⟩ := slot_eq_some_iff.mp found
      rw [child, articles]
      exact congrArg some (mirrored i σ found)
    · rw [List.getElem?_eq_none (a.viewControllers ▸ Nat.not_lt.mp bound),
        List.getElem?_eq_none (a.articlesArray ▸ Nat.not_lt.mp bound)]
      rfl

/-- An event that clears a feed finds it empty exactly when it discards nothing. -/
theorem clear_iff {i : Nat} {f : Feed} (found : s.feed i = some f)
    (concerns : s.feedEvent i e = some .clear) : s.DiscardsNothing e ↔ f.slot.articles = [] := by
  obtain ⟨⟨message, rfl⟩, rfl⟩ := feedEvent_clear concerns
  have articles := (slot_eq_some_iff.mp (feed_eq_some_iff.mp found).1).1
  simp only [DiscardsNothing, articles, Option.some.injEq]

theorem discardsNothing_of_feedEvent
    (keeps : s.feedEvent s.viewModel.currentPage e ≠ some .clear) : s.DiscardsNothing e := by
  cases e with
  | confirm alert =>
    cases alert with
    | notice message => trivial
    | categoryError message => exact absurd (if_pos rfl) keeps
  | _ => trivial

theorem mirrors_step_iff (a : s.Aligned) (mirrors : s.Mirrors) (allowed : s.Allowed e)
    (kept : ¬ IsSave e) (stepped : s.handle isURL e = some t) :
    t.Mirrors ↔ s.DiscardsNothing e := by
  have before := a.mirrors_iff.mp mirrors
  rw [(handle_aligned a allowed stepped).mirrors_iff]
  obtain saves | ⟨i, c, f, fe, -, found, -, concerns, touched⟩ | ⟨nowhere, same⟩ :=
    handle_cases a allowed stepped
  · exact absurd saves kept
  · have slot := (feed_eq_some_iff.mp found).1
    have moved := (feed_eq_some_iff.mp touched.feed).1
    have here : s.feedEvent i e = some fe := by simp [concerns]
    have step : (f.step isURL i c fe).slot.Mirrored ↔ (fe = .clear → f.slot.articles = []) :=
      Feed.mirrored_step_iff (before i f.slot slot)
    have only : (∀ j σ, t.slot j = some σ → σ.Mirrored) ↔ (f.step isURL i c fe).slot.Mirrored := by
      constructor
      · intro after
        exact after i _ moved
      · intro mirrored j σ there
        by_cases own : j = i
        · subst own
          exact Option.mem_unique moved there ▸ mirrored
        · rw [touched.slots j own] at there
          exact before j σ there
    rw [only, step]
    by_cases clears : fe = .clear
    · subst clears
      rw [clear_iff found here]
      exact ⟨fun empty => empty rfl, fun empty _ => empty⟩
    · have discards : s.DiscardsNothing e := by
        apply discardsNothing_of_feedEvent
        rw [concerns]
        split
        · intro same
          exact clears (Option.some.inj same)
        · nofun
      exact ⟨fun _ => discards, fun _ same => absurd same clears⟩
  · have after : ∀ j σ, t.slot j = some σ → σ.Mirrored := by
      intro j σ there
      rw [same.slots j] at there
      exact before j σ there
    have discards : s.DiscardsNothing e := by
      apply discardsNothing_of_feedEvent
      rw [nowhere]
      nofun
    exact ⟨fun _ => discards, fun _ => after⟩

/-- **The children mirror the model** in every run without a settings save in which
error alerts are confirmed on empty pages only. Confirming one on a page with articles
discards what its child shows. -/
theorem children_mirror_articlesArray
    (h : ((machine isURL).given fun s e => ¬ IsSave e ∧ s.DiscardsNothing e).Reachable
      (Launched isURL) s) :
    s.Mirrors ∧ ∀ e t, s.Allowed e → ¬ IsSave e → s.handle isURL e = some t →
      (t.Mirrors ↔ s.DiscardsNothing e) := by
  have a := reachable_aligned h.of_given
  have mirrors : s.Mirrors := by
    apply h.invariant Mirrors
    · intro s launched
      obtain ⟨setting, rebuilt, aligned⟩ := launched.rebuilt
      rw [aligned.mirrors_iff]
      intro i σ found
      obtain ⟨c, f, category, there⟩ := exists_feed aligned (aligned.lt_of_slot found)
      have opening := rebuilt.slot i c (rebuilt.categories ▸ category)
      obtain rfl := Option.mem_unique opening found
      exact Feed.mirrored_opening isURL i c
    · intro s e t reached mirrors allowed stepped
      have aligned := reachable_aligned reached.of_given
      exact (mirrors_step_iff aligned mirrors allowed.1 allowed.2.1 stepped).mpr allowed.2.2
  refine ⟨mirrors, ?_⟩
  intro e t allowed kept stepped
  exact mirrors_step_iff a mirrors allowed kept stepped

end

/-- The fetch of the science page has failed, and its page is shown. -/
def scienceFailed : HomeViewController :=
  (((machine anyURL).given fun s e => ¬ IsSave e ∧ s.DiscardsNothing e).run (launch {})
    [.respond ⟨.fetchData, 2, .science, 1⟩ (.failure .errorNetwork), .didSelectItemAt 2]).getD {}

theorem scienceFailed_reachable :
    ((machine anyURL).given fun s e => ¬ IsSave e ∧ s.DiscardsNothing e).Reachable
      (Launched anyURL) scienceFailed :=
  Machine.reachable_getD _ (launched _) (by decide)

def offline : Alert := .categoryError APIError.errorNetwork.localizedDescription

theorem children_mirror_scienceFailed : offline ∈ scienceFailed.alerts ∧
    ∀ t, scienceFailed.handle anyURL (.confirm offline) = some t → t.Mirrors := by
  refine ⟨by decide, ?_⟩
  intro t stepped
  have step := (children_mirror_articlesArray scienceFailed_reachable).2 _ t (by decide) id stepped
  exact step.mpr (by decide)

/-- The pages of us and science load. A flick to health raises its alert while a second flick
is under way, which ends on science. The alert is confirmed there. -/
def flickedPast : HomeViewController :=
  (((machine anyURL).given fun _ e => ¬ IsSave e).run (launch {})
    [.respond ⟨.fetchData, 0, .us, 1⟩ answered, .respond ⟨.fetchData, 2, .science, 1⟩ answered,
      .swipe .after, .swipe .after, .confirm offline]).getD {}

theorem flickedPast_reachable :
    ((machine anyURL).given fun _ e => ¬ IsSave e).Reachable (Launched anyURL) flickedPast :=
  Machine.reachable_getD _ (launched _) (by decide)

theorem stale_error_discards_articles :
    ¬ ∀ s, ((machine anyURL).given fun _ e => ¬ IsSave e).Reachable (Launched anyURL) s →
      s.Mirrors := by
  intro mirrors
  have mirrored := mirrors flickedPast flickedPast_reachable
  revert mirrored
  decide

end HomeViewController

end NewsReader
