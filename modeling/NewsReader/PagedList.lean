import Mathlib.Data.List.DropRight
import NewsReader.Machine

/-!
# Lists that come in pages

A list that its events begin anew or add a page to, until one finds no page after it.

* `run_foldl`: the list of a machine whose events do this, at the end of a run;
* `items_foldl`: the list is the one it was last begun with, and the pages that came
  since, each once and in their order;
* `canLoadMore_foldl`: it is at its end if an event since the last restart found it so.
-/

namespace NewsReader

structure PagedList (α : Type) where
  items : List α := []
  canLoadMore : Bool := true
  deriving DecidableEq, Repr

/-- `restart` and `first` begin the list anew. Only `restart` forgets that it was at its
end. -/
inductive PageEvent (α : Type)
  | restart (items : List α)
  | first (items : List α)
  | more (items : List α)
  | last
  deriving DecidableEq, Repr

variable {α : Type}

namespace PageEvent

def items : PageEvent α → List α
  | .restart items | .first items | .more items => items
  | .last => []

def begins : PageEvent α → Bool
  | .restart _ | .first _ => true
  | .more _ | .last => false

def restarts : PageEvent α → Bool
  | .restart _ => true
  | .first _ | .more _ | .last => false

def ends : PageEvent α → Bool
  | .last => true
  | .restart _ | .first _ | .more _ => false

end PageEvent

namespace PagedList

def step (p : PagedList α) : PageEvent α → PagedList α
  | .restart items => ⟨items, true⟩
  | .first items => { p with items }
  | .more items => { p with items := p.items ++ items }
  | .last => { p with canLoadMore := false }

/-- The list once something has happened, if anything has. -/
def after (p : PagedList α) (e : Option (PageEvent α)) : PagedList α := e.elim p p.step

/-- The list as it was last begun. -/
def begun (es : List (PageEvent α)) : List α :=
  ((es.rdropWhile (! ·.begins)).getLast?.map (·.items)).getD []

/-- The pages that came after it was. -/
def pagesSince (es : List (PageEvent α)) : List α :=
  (es.rtakeWhile (! ·.begins)).flatMap (·.items)

/-- The list has been found to be at its end since it was last restarted. -/
def atEnd (es : List (PageEvent α)) : Bool := (es.rtakeWhile (! ·.restarts)).any (·.ends)

/-- An event of a machine is `part` to the list. Then the list is, after a run, what the
events of the run make of it. -/
theorem run_foldl {State Event : Type} {M : Machine State Event} [∀ s e, Decidable (M.allowed s e)]
    (view : State → PagedList α) {part : State → Event → Option (PageEvent α)}
    (Inv : State → Prop) (kept : ∀ s e t, Inv s → M.allowed s e → M.step s e = some t → Inv t)
    (moves : ∀ s e t, Inv s → M.allowed s e → M.step s e = some t →
      view t = (view s).after (part s e))
    {s t : State} {es : List Event} (inv : Inv s) (ran : M.run s es = some t) :
    view t = (M.project part s es).foldl step (view s) := by
  apply Option.some.inj
  refine Machine.run_project (fun s => some (view s)) Inv kept ?_ inv rfl ran
  rintro s e t _ inv allowed stepped ⟨⟩
  rw [moves s e t inv allowed stepped]
  cases part s e with
  | none => exact Or.inr ⟨rfl, rfl⟩
  | some moved => exact Or.inl ⟨moved, rfl, rfl⟩

section Concat

variable (es : List (PageEvent α)) {e : PageEvent α}

theorem begun_concat : begun (es ++ [e]) = if e.begins then e.items else begun es := by
  unfold begun
  rw [List.rdropWhile_concat]
  cases e.begins with
  | true => simp
  | false => simp

theorem pagesSince_concat :
    pagesSince (es ++ [e]) = if e.begins then [] else pagesSince es ++ e.items := by
  unfold pagesSince
  rw [List.rtakeWhile_concat]
  cases e.begins with
  | true => simp
  | false => simp

theorem atEnd_concat : atEnd (es ++ [e]) = if e.restarts then false else atEnd es || e.ends := by
  unfold atEnd
  rw [List.rtakeWhile_concat]
  cases e.restarts with
  | true => simp
  | false => simp

end Concat

variable (es : List (PageEvent α))

theorem items_foldl : (es.foldl step {}).items = begun es ++ pagesSince es := by
  induction es using List.reverseRecOn with
  | nil => rfl
  | append_singleton es e ih =>
    rw [List.foldl_append, begun_concat, pagesSince_concat]
    cases e with
    | restart items => simp [step, PageEvent.begins, PageEvent.items]
    | first items => simp [step, PageEvent.begins, PageEvent.items]
    | more items => simp [step, PageEvent.begins, PageEvent.items, ih]
    | last => simp [step, PageEvent.begins, PageEvent.items, ih]

theorem canLoadMore_foldl : (es.foldl step {}).canLoadMore = ! atEnd es := by
  induction es using List.reverseRecOn with
  | nil => rfl
  | append_singleton es e ih =>
    rw [List.foldl_append, atEnd_concat]
    cases e with
    | restart items => simp [step, PageEvent.restarts]
    | first items => simp [step, PageEvent.restarts, PageEvent.ends, ih]
    | more items => simp [step, PageEvent.restarts, PageEvent.ends, ih]
    | last => simp [step, PageEvent.restarts, PageEvent.ends]

end PagedList

end NewsReader
