import Mathlib.Data.List.Basic

/-!
# Event machines

A program driven by events from outside: taps, timers, responses. A step may
trap, and a run ends at its first trap.

* `Machine.Reachable`: the states of all trap-free runs, in any order of events;
* `Machine.given`: the same program, run only through steps that meet a condition;
* `Machine.observed`: the same program, with a history kept beside its state;
* `Reachable.invariant`: what every step preserves holds in every state;
* `Reachable.component`: a run of a system is, of each component, a run of its own;
* `Machine.run`: one given sequence of events, computed;
* `Machine.run_erase`: a run without its hidden events is a run of the erased states;
* `Machine.run_project`: a part of the state that moves by its own events only is,
  after a run, what those events make of it;
* `Machine.run_part`: the same for a part that is a machine of its own;
* `Machine.run_view`: what is seen of a machine moves by itself, and traps where it does.
-/

namespace NewsReader

/-- `allowed` says which events the outside world can raise in a state. A step
that is `none` traps. -/
structure Machine (State Event : Type) where
  allowed : State → Event → Prop
  step : State → Event → Option State

namespace Machine

variable {State Event : Type} (M : Machine State Event)

inductive Reachable (init : State → Prop) : State → Prop
  | start {s} : init s → Reachable init s
  | next {s t} {e : Event} : Reachable init s → M.allowed s e → M.step s e = some t →
      Reachable init t

/-- The runs of `M` whose steps all meet `cond` in the state they start from. -/
def given (cond : State → Event → Prop) : Machine State Event :=
  { M with allowed := fun s e => M.allowed s e ∧ cond s e }

instance {cond : State → Event → Prop} [∀ s e, Decidable (M.allowed s e)]
    [∀ s e, Decidable (cond s e)] (s : State) (e : Event) :
    Decidable ((M.given cond).allowed s e) :=
  inferInstanceAs (Decidable (M.allowed s e ∧ cond s e))

/-- `M` with a history that `observe` extends at each event. No step depends on it. -/
def observed {History : Type} (observe : State → Event → History → History) :
    Machine (State × History) Event where
  allowed p e := M.allowed p.1 e
  step p e := (M.step p.1 e).map fun t => (t, observe p.1 e p.2)

instance {History : Type} {observe : State → Event → History → History}
    [∀ s e, Decidable (M.allowed s e)] (p : State × History) (e : Event) :
    Decidable ((M.observed observe).allowed p e) :=
  inferInstanceAs (Decidable (M.allowed p.1 e))

variable {M} {init : State → Prop}

/-- Any property that holds at the start and is kept by every step holds in
every reachable state. A step may use what is already known of reachable states. -/
theorem Reachable.invariant (Inv : State → Prop) (start : ∀ s, init s → Inv s)
    (step : ∀ s e t, M.Reachable init s → Inv s → M.allowed s e → M.step s e = some t → Inv t)
    {s : State} (h : M.Reachable init s) : Inv s := by
  induction h with
  | start h => exact start _ h
  | next reached allowed stepped ih => exact step _ _ _ reached ih allowed stepped

theorem Reachable.of_given {cond : State → Event → Prop} {s : State}
    (h : (M.given cond).Reachable init s) : M.Reachable init s := by
  induction h with
  | start h => exact .start h
  | next _ allowed stepped ih => exact .next ih allowed.1 stepped

theorem Reachable.weaken {cond cond' : State → Event → Prop} {s : State}
    (weaker : ∀ s e, cond s e → cond' s e) (h : (M.given cond).Reachable init s) :
    (M.given cond').Reachable init s := by
  induction h with
  | start h => exact .start h
  | next _ allowed stepped ih => exact .next ih ⟨allowed.1, weaker _ _ allowed.2⟩ stepped

theorem Reachable.mono {init' : State → Prop} (le : ∀ s, init s → init' s) {s : State}
    (h : M.Reachable init s) : M.Reachable init' s := by
  induction h with
  | start h => exact .start (le _ h)
  | next _ allowed stepped ih => exact .next ih allowed stepped

/-- A run goes on where another ends. -/
theorem Reachable.trans {s t : State} (h : M.Reachable init s) (h' : M.Reachable (· = s) t) :
    M.Reachable init t := by
  induction h' with
  | start same => exact same ▸ h
  | next _ allowed stepped ih => exact .next ih allowed stepped

/-- A step of `M` starts a component, moves it by a step of its own or leaves it as it is.
Then a run of `M` is a run of the component, for as long as it is there. -/
theorem Reachable.component {Part PartEvent : Type} {N : Machine Part PartEvent}
    {start : Part → Prop} (view : State → Option Part)
    (first : ∀ s p, init s → view s = some p → start p)
    (moves : ∀ s e t q, M.Reachable init s → M.allowed s e → M.step s e = some t →
      view t = some q → start q ∨
        ∃ p, view s = some p ∧ (q = p ∨ ∃ e', N.allowed p e' ∧ N.step p e' = some q))
    {s : State} {p : Part} (h : M.Reachable init s) (seen : view s = some p) :
    N.Reachable start p := by
  induction h generalizing p with
  | start h => exact .start (first _ p h seen)
  | next reached allowed stepped ih =>
    obtain started | ⟨q, before, rfl | ⟨e', allowed', stepped'⟩⟩ :=
      moves _ _ _ p reached allowed stepped seen
    · exact .start started
    · exact ih before
    · exact (ih before).next allowed' stepped'

section Observed

variable {History : Type} {observe : State → Event → History → History} {s t : State}
  {h k : History} {e : Event}

theorem observed_step : (M.observed observe).step (s, h) e = some (t, k) ↔
    M.step s e = some t ∧ observe s e h = k := by
  simp [observed]

/-- A run with its history is a run. -/
theorem Reachable.of_observed {p : State × History}
    (reached : (M.observed observe).Reachable (fun p => init p.1) p) : M.Reachable init p.1 := by
  induction reached with
  | start h => exact .start h
  | next _ allowed stepped ih => exact .next ih allowed (observed_step.mp stepped).1

/-- Every run has a history. -/
theorem Reachable.exists_history (reached : M.Reachable init s) (first : History) :
    ∃ h, (M.observed observe).Reachable (fun p => init p.1 ∧ p.2 = first) (s, h) := by
  induction reached with
  | start h => exact ⟨first, .start ⟨h, rfl⟩⟩
  | next _ allowed stepped ih =>
    obtain ⟨h, observed⟩ := ih
    exact ⟨_, observed.next allowed (observed_step.mpr ⟨stepped, rfl⟩)⟩

end Observed

section Runs

variable (M) [∀ s e, Decidable (M.allowed s e)]

/-- One sequence of events. `none` when an event is not allowed where it comes,
or traps. -/
def run : State → List Event → Option State
  | s, [] => some s
  | s, e :: es => if M.allowed s e then (M.step s e).bind (run · es) else none

theorem run_cons {s t : State} {e : Event} {es : List Event} :
    M.run s (e :: es) = some t ↔ M.allowed s e ∧ ∃ u, M.step s e = some u ∧ M.run u es = some t := by
  simp only [run]
  split
  · rename_i allowed
    simp [allowed, Option.bind_eq_some_iff]
  · rename_i refused
    simp [refused]

variable {M}

theorem Reachable.run {s t : State} {es : List Event} (h : M.Reachable init s)
    (ran : M.run s es = some t) : M.Reachable init t := by
  induction es generalizing s with
  | nil => exact Option.some.inj ran ▸ h
  | cons e es ih =>
    obtain ⟨allowed, u, stepped, rest⟩ := M.run_cons.mp ran
    exact ih (.next h allowed stepped) rest

theorem reachable_run {s t : State} {es : List Event} (h : init s)
    (ran : M.run s es = some t) : M.Reachable init t :=
  (Reachable.start h).run ran

theorem reachable_getD {s : State} {es : List Event} (default : State) (h : init s)
    (ran : (M.run s es).isSome = true) : M.Reachable init ((M.run s es).getD default) := by
  obtain ⟨t, ran⟩ := Option.isSome_iff_exists.mp ran
  rw [ran]
  exact reachable_run h ran

end Runs

/-- `P` holds of every event of a run in the state it happens in. -/
def Throughout (M : Machine State Event) (P : State → Event → Prop) : State → List Event → Prop
  | _, [] => True
  | s, e :: es => P s e ∧ ∀ t, M.step s e = some t → Throughout M P t es

section Erasure

variable [∀ s e, Decidable (M.allowed s e)] {erase : State → State} {hidden : Event → Bool}
  {quiet : State → Event → Prop}

/-- A step is erased to a step where its event is visible, and to nothing where it
is hidden and `quiet`. Then so is a run. -/
theorem run_erase (Inv : State → Prop)
    (kept : ∀ s e t, Inv s → M.allowed s e → M.step s e = some t → Inv t)
    (visible : ∀ s e t, Inv s → M.allowed s e → hidden e = false → M.step s e = some t →
      M.allowed (erase s) e ∧ M.step (erase s) e = some (erase t))
    (silent : ∀ s e t, Inv s → M.allowed s e → hidden e = true → quiet s e →
      M.step s e = some t → erase t = erase s)
    {s t : State} {es : List Event} (inv : Inv s)
    (throughout : M.Throughout (fun s e => hidden e = true → quiet s e) s es)
    (ran : M.run s es = some t) :
    M.run (erase s) (es.filter (! hidden ·)) = some (erase t) := by
  induction es generalizing s with
  | nil =>
    obtain rfl := Option.some.inj ran
    rfl
  | cons e es ih =>
    obtain ⟨allowed, u, stepped, rest⟩ := M.run_cons.mp ran
    obtain ⟨here, later⟩ := throughout
    have tail := ih (kept s e u inv allowed stepped) (later u stepped) rest
    cases hides : hidden e with
    | true =>
      rw [List.filter_cons_of_neg (by simp [hides]),
        ← silent s e u inv allowed hides (here hides) stepped]
      exact tail
    | false =>
      rw [List.filter_cons_of_pos (by simp [hides])]
      obtain ⟨allowed', stepped'⟩ := visible s e u inv allowed hides stepped
      exact M.run_cons.mpr ⟨allowed', _, stepped', tail⟩

end Erasure

section Projection

variable {Part View : Type} [∀ s e, Decidable (M.allowed s e)]

/-- What the events of a run are to one part of the state, in their order. -/
def project (M : Machine State Event) (part : State → Event → Option Part) :
    State → List Event → List Part
  | _, [] => []
  | s, e :: es => (part s e).toList ++ (M.step s e).elim [] (project M part · es)

/-- An event moves the part it is an event of, and leaves the part as it is otherwise.
Then a run moves the part by its own events. -/
theorem run_project {part : State → Event → Option Part} (view : State → Option View)
    {move : View → Part → View} (Inv : State → Prop)
    (kept : ∀ s e t, Inv s → M.allowed s e → M.step s e = some t → Inv t)
    (moves : ∀ s e t v, Inv s → M.allowed s e → M.step s e = some t → view s = some v →
      (∃ p, part s e = some p ∧ view t = some (move v p)) ∨ (part s e = none ∧ view t = some v))
    {s t : State} {es : List Event} {v : View} (inv : Inv s) (seen : view s = some v)
    (ran : M.run s es = some t) : view t = some ((M.project part s es).foldl move v) := by
  induction es generalizing s v with
  | nil =>
    obtain rfl := Option.some.inj ran
    exact seen
  | cons e es ih =>
    obtain ⟨allowed, u, stepped, rest⟩ := M.run_cons.mp ran
    have inv' := kept s e u inv allowed stepped
    simp only [project, stepped, Option.elim_some, List.foldl_append]
    obtain ⟨p, concerns, moved⟩ | ⟨away, stays⟩ := moves s e u v inv allowed stepped seen
    · rw [concerns]
      exact ih inv' moved rest
    · rw [away]
      exact ih inv' stays rest

/-- An event is one of a part, or leaves the part as it is. Then a run is, of the part, the
run of the part's own events. -/
theorem run_part {PartEvent : Type} {N : Machine View PartEvent}
    [∀ v e, Decidable (N.allowed v e)] (view : State → View) (own : Event → Option PartEvent)
    (away : ∀ s e t, own e = none → M.allowed s e → M.step s e = some t → view t = view s)
    (moves : ∀ s e t e', own e = some e' → M.allowed s e → M.step s e = some t →
      N.allowed (view s) e' ∧ N.step (view s) e' = some (view t))
    {s t : State} {es : List Event} (ran : M.run s es = some t) :
    N.run (view s) (es.filterMap own) = some (view t) := by
  induction es generalizing s with
  | nil =>
    obtain rfl := Option.some.inj ran
    rfl
  | cons e es ih =>
    obtain ⟨allowed, u, stepped, rest⟩ := M.run_cons.mp ran
    cases here : own e with
    | none =>
      rw [List.filterMap_cons_none here, ← away s e u here allowed stepped]
      exact ih rest
    | some e' =>
      rw [List.filterMap_cons_some here]
      obtain ⟨allowed', stepped'⟩ := moves s e u e' here allowed stepped
      exact N.run_cons.mpr ⟨allowed', _, stepped', ih rest⟩

/-- What is seen of a state moves, or traps, as the state does. Then a run is seen as the run
of what was seen at its start. -/
theorem run_view (view : State → View) {move : View → Event → Option View} (Inv : State → Prop)
    (always : ∀ s e, Inv s → M.allowed s e)
    (kept : ∀ s e t, Inv s → M.step s e = some t → Inv t)
    (seen : ∀ s e, Inv s → (M.step s e).map view = move (view s) e)
    {s : State} (inv : Inv s) (es : List Event) :
    (M.run s es).map view = es.foldlM move (view s) := by
  induction es generalizing s with
  | nil => rfl
  | cons e es ih =>
    rw [run, if_pos (always s e inv), List.foldlM_cons, ← seen s e inv]
    cases stepped : M.step s e with
    | none => rfl
    | some t => exact ih (kept s e t inv stepped)

end Projection

end Machine

end NewsReader
