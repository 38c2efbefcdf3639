import NewsReader.Home.Categories

/-!
# Categories apart

With the category list fixed, what happens to one category does not depend on what
happens to the others: responses for two of them can come in either order
(`respond_comm`), and after a run each is what its own events make of it
(`run_feed`).
-/

namespace NewsReader

namespace HomeViewController

section Responses

variable {isURL : String → Bool} {s : HomeViewController}

/-- The screen once `r` has answered, into the slot `σ`. -/
def afterResponse (s : HomeViewController) (r : Request) (result : APIResult News) (σ : Slot) :
    HomeViewController :=
  (putSlot { s with outstanding := s.outstanding.erase r } r.index (σ.answer r result)).settle
    r result

theorem handle_respond_eq {r : Request} {σ : Slot} (a : s.Aligned)
    (found : s.slot r.index = some σ) (result : APIResult News) :
    s.handle isURL (.respond r result) = some (s.afterResponse r result σ) := by
  have erased : slot { s with outstanding := s.outstanding.erase r } r.index = some σ := found
  exact respond_eq erased (a.category_of_slot found) result

theorem slot_afterResponse_ne {r : Request} (result : APIResult News) (σ : Slot) {j : Nat}
    (other : j ≠ r.index) : (s.afterResponse r result σ).slot j = s.slot j :=
  slot_putSlot_ne (s := { s with outstanding := s.outstanding.erase r }) other
    (σ.answer r result)

/-- Two responses into different slots, in either order: only the order of the alerts
they raise differs. -/
theorem afterResponse_comm {r₁ r₂ : Request} (apart : r₁.index ≠ r₂.index)
    (result₁ result₂ : APIResult News) (σ₁ σ₂ : Slot) :
    (s.afterResponse r₁ result₁ σ₁).afterResponse r₂ result₂ σ₂ =
      { (s.afterResponse r₂ result₂ σ₂).afterResponse r₁ result₁ σ₁ with
        alerts := ((s.afterResponse r₁ result₁ σ₁).afterResponse r₂ result₂ σ₂).alerts } := by
  have swap {α : Type} (array : List α) (x y : α) :
      (array.set r₁.index x).set r₂.index y = (array.set r₂.index y).set r₁.index x :=
    List.set_comm x y apart
  have once : (s.outstanding.erase r₁).erase r₂ = (s.outstanding.erase r₂).erase r₁ :=
    List.erase_comm r₁ r₂
  have flag : (if r₂.action = .pullToRefresh then false
        else if r₁.action = .pullToRefresh then false else s.viewModel.isRefreshing) =
      (if r₁.action = .pullToRefresh then false
        else if r₂.action = .pullToRefresh then false else s.viewModel.isRefreshing) := by
    split <;> split <;> rfl
  simp only [afterResponse, settle, putSlot, swap, once, flag]

theorem alerts_afterResponse (r₁ r₂ : Request) (result₁ result₂ : APIResult News) (σ₁ σ₂ : Slot) :
    ((s.afterResponse r₁ result₁ σ₁).afterResponse r₂ result₂ σ₂).alerts =
      s.alerts ++ r₁.notices result₁ ++ r₂.notices result₂ := rfl

theorem run_responses {r₁ r₂ : Request} {σ₁ σ₂ : Slot} (a : s.Aligned)
    (mem₁ : r₁ ∈ s.outstanding) (mem₂ : r₂ ∈ s.outstanding) (apart : r₁.index ≠ r₂.index)
    (found₁ : s.slot r₁.index = some σ₁) (found₂ : s.slot r₂.index = some σ₂)
    (result₁ result₂ : APIResult News) :
    (machine isURL).run s [.respond r₁ result₁, .respond r₂ result₂] =
      some ((s.afterResponse r₁ result₁ σ₁).afterResponse r₂ result₂ σ₂) := by
  have first : s.handle isURL (.respond r₁ result₁) = some (s.afterResponse r₁ result₁ σ₁) :=
    handle_respond_eq a found₁ result₁
  have aligned := handle_aligned a (e := .respond r₁ result₁) mem₁ first
  have kept : (s.afterResponse r₁ result₁ σ₁).slot r₂.index = some σ₂ := by
    rw [slot_afterResponse_ne result₁ σ₁ (Ne.symm apart)]
    exact found₂
  have second : (s.afterResponse r₁ result₁ σ₁).handle isURL (.respond r₂ result₂) =
      some ((s.afterResponse r₁ result₁ σ₁).afterResponse r₂ result₂ σ₂) :=
    handle_respond_eq aligned kept result₂
  have other : r₂ ≠ r₁ := by
    rintro rfl
    exact apart rfl
  have waiting : r₂ ∈ (s.afterResponse r₁ result₁ σ₁).outstanding :=
    (List.mem_erase_of_ne other).mpr mem₂
  exact (machine isURL).run_cons.mpr ⟨mem₁, _, first,
    (machine isURL).run_cons.mpr ⟨waiting, _, second, rfl⟩⟩

/-- Responses of two categories come in either order: neither order traps, and they
leave the same screen and the same alerts, but for the order of the alerts. -/
theorem respond_comm
    (h : ((machine isURL).given fun _ e => ¬ IsSave e).Reachable (Launched isURL) s)
    {r₁ r₂ : Request} (mem₁ : r₁ ∈ s.outstanding) (mem₂ : r₂ ∈ s.outstanding)
    (apart : r₁.index ≠ r₂.index) (result₁ result₂ : APIResult News) :
    ∃ t u, (machine isURL).run s [.respond r₁ result₁, .respond r₂ result₂] = some t ∧
      (machine isURL).run s [.respond r₂ result₂, .respond r₁ result₁] = some u ∧
      t = { u with alerts := t.alerts } ∧ t.alerts.Perm u.alerts := by
  have a := reachable_aligned h.of_given
  have keeps (s : HomeViewController) (e : HomeEvent) (kept : ¬ IsSave e) :
      SavesKeepIndices s e := by
    cases e with
    | saveSettingSubTabs screen => exact absurd trivial kept
    | _ => trivial
  have bound := index_bound (h.weaken keeps)
  obtain ⟨σ₁, found₁⟩ := a.slot_of_lt (bound r₁ mem₁)
  obtain ⟨σ₂, found₂⟩ := a.slot_of_lt (bound r₂ mem₂)
  refine ⟨_, _, run_responses a mem₁ mem₂ apart found₁ found₂ result₁ result₂,
    run_responses a mem₂ mem₁ (Ne.symm apart) found₂ found₁ result₂ result₁,
    afterResponse_comm apart result₁ result₂ σ₁ σ₂, ?_⟩
  rw [alerts_afterResponse, alerts_afterResponse, List.append_assoc, List.append_assoc]
  exact List.perm_append_comm.append_left s.alerts

end Responses

section Runs

variable {isURL : String → Bool} {s t : HomeViewController} {i : Nat} {c : CategoryType}
  {es : List HomeEvent}

/-- The events of a run that are events of the feed at `i`, in their order. -/
def feedEvents (isURL : String → Bool) (i : Nat) (s : HomeViewController) (es : List HomeEvent) :
    List FeedEvent :=
  ((machine isURL).given fun _ e => ¬ IsSave e).project (fun s e => s.feedEvent i e) s es

/-- A feed at the end of a run is what its own events make of it. -/
theorem run_feed (a : s.Aligned) (category : s.categories[i]? = some c) {f : Feed}
    (found : s.feed i = some f)
    (ran : ((machine isURL).given fun _ e => ¬ IsSave e).run s es = some t) :
    t.feed i = some ((feedEvents isURL i s es).foldl (Feed.step isURL i c) f) := by
  refine Machine.run_project (fun s => s.feed i)
    (fun s => s.Aligned ∧ s.categories[i]? = some c) ?_ ?_ ⟨a, category⟩ found ran
  · rintro s e t ⟨a, category⟩ allowed stepped
    refine ⟨handle_aligned a allowed.1 stepped, ?_⟩
    rw [categories, handle_setting a allowed.1 allowed.2 stepped]
    exact category
  · rintro s e t f ⟨a, category⟩ allowed stepped found
    obtain ⟨fe, concerns, -, moved⟩ | ⟨away, stays⟩ :=
      handle_feed a allowed.1 allowed.2 stepped category found
    · exact Or.inl ⟨fe, concerns, moved⟩
    · exact Or.inr ⟨away, stays⟩

/-- A feed at the end of a run from launch. -/
theorem run_launched_feed (launched : Launched isURL s) (category : s.categories[i]? = some c)
    (ran : ((machine isURL).given fun _ e => ¬ IsSave e).run s es = some t) :
    t.feed i = some ((feedEvents isURL i s es).foldl (Feed.step isURL i c)
      (Feed.opening isURL i c)) := by
  obtain ⟨setting, rebuilt, a⟩ := launched.rebuilt
  exact run_feed a category (rebuilt.feed (rebuilt.categories ▸ category)) ran

/-- **Categories are independent** while the category list is fixed. Responses of two
of them may be exchanged, and two runs in which a category has the same events of its
own, in the same order, leave it the same. -/
theorem categories_independent (isURL : String → Bool) :
    (∀ s, ((machine isURL).given fun _ e => ¬ IsSave e).Reachable (Launched isURL) s →
      ∀ r₁ ∈ s.outstanding, ∀ r₂ ∈ s.outstanding, r₁.index ≠ r₂.index →
      ∀ result₁ result₂, ∃ t u,
        (machine isURL).run s [.respond r₁ result₁, .respond r₂ result₂] = some t ∧
        (machine isURL).run s [.respond r₂ result₂, .respond r₁ result₁] = some u ∧
        t = { u with alerts := t.alerts } ∧ t.alerts.Perm u.alerts) ∧
    (∀ s s' es es' t t' i c, Launched isURL s → Launched isURL s' →
      s.categories[i]? = some c → s'.categories[i]? = some c →
      ((machine isURL).given fun _ e => ¬ IsSave e).run s es = some t →
      ((machine isURL).given fun _ e => ¬ IsSave e).run s' es' = some t' →
      feedEvents isURL i s es = feedEvents isURL i s' es' → t.slot i = t'.slot i) := by
  constructor
  · intro s h r₁ mem₁ r₂ mem₂ apart result₁ result₂
    exact respond_comm h mem₁ mem₂ apart result₁ result₂
  · intro s s' es es' t t' i c launched launched' category category' ran ran' own
    have feed := run_launched_feed launched category ran
    have feed' := run_launched_feed launched' category' ran'
    rw [own, ← feed'] at feed
    have found := (feed_eq_some_iff.mp feed').1
    exact (feed_eq_some_iff.mp (feed.trans feed')).1.trans found.symm

end Runs

/-- The fetches of the us and the science page answer, in one order and in the other. -/
def usThenScience : List HomeEvent :=
  [.respond ⟨.fetchData, 0, .us, 1⟩ answered,
    .respond ⟨.fetchData, 2, .science, 1⟩ (.failure .errorNetwork)]

def scienceThenUs : List HomeEvent := usThenScience.reverse

theorem categories_independent_launch :
    (∃ t u, (machine anyURL).run (launch {}) usThenScience = some t ∧
      (machine anyURL).run (launch {}) scienceThenUs = some u ∧
      t = { u with alerts := t.alerts } ∧ t.alerts.Perm u.alerts) ∧
    ∀ t t', ((machine anyURL).given fun _ e => ¬ IsSave e).run (launch {}) usThenScience = some t →
      ((machine anyURL).given fun _ e => ¬ IsSave e).run (launch {}) scienceThenUs = some t' →
      t.slot 2 = t'.slot 2 := by
  obtain ⟨exchanged, own⟩ := categories_independent anyURL
  refine ⟨exchanged _ (.start (launched {})) ⟨.fetchData, 0, .us, 1⟩ (by decide)
    ⟨.fetchData, 2, .science, 1⟩ (by decide) (by decide) _ _, ?_⟩
  intro t t' ran ran'
  exact own _ _ _ _ t t' 2 .science (launched {}) (launched {}) (by decide) (by decide) ran ran'
    (by decide)

end HomeViewController

end NewsReader
