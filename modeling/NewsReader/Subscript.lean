import Mathlib.Data.List.Basic

/-!
# Array subscripts that trap

Reading `array[index]` is `array[index]?`: `none` is the trap of an index out
of range. `assign` is the write `array[index] = value`, with the same trap.
-/

namespace NewsReader

variable {α : Type}

/-- `array[index] = value`. -/
def assign (array : List α) (index : Nat) (value : α) : Option (List α) :=
  if index < array.length then some (array.set index value) else none

theorem assign_of_lt {array : List α} {index : Nat} (h : index < array.length) (value : α) :
    assign array index value = some (array.set index value) := if_pos h

theorem assign_of_ge {array : List α} {index : Nat} (h : array.length ≤ index) (value : α) :
    assign array index value = none := if_neg (Nat.not_lt.mpr h)

/-- An array entry that can be read can be written. -/
theorem assign_of_getElem? {array : List α} {index : Nat} {old : α}
    (h : array[index]? = some old) (value : α) :
    assign array index value = some (array.set index value) :=
  assign_of_lt (List.getElem?_eq_some_iff.mp h).1 value

/-- Writing back the entry that is there changes nothing. -/
theorem set_getElem? {array : List α} {index : Nat} {value : α}
    (h : array[index]? = some value) : array.set index value = array := by
  obtain ⟨_, rfl⟩ := List.getElem?_eq_some_iff.mp h
  exact List.set_getElem_self _

theorem getElem?_set_of_some {array : List α} {index : Nat} {old : α}
    (h : array[index]? = some old) (value : α) : (array.set index value)[index]? = some value := by
  have bound := (List.getElem?_eq_some_iff.mp h).1
  simp [bound]

/-- What holds of every entry once one is written. -/
theorem forall_mem_set {P : α → Prop} {array : List α} {index : Nat} {old value : α}
    (found : array[index]? = some old) :
    (∀ x ∈ array.set index value, P x) ↔
      P value ∧ ∀ j x, j ≠ index → array[j]? = some x → P x := by
  have bound : index < array.length := (List.getElem?_eq_some_iff.mp found).1
  constructor
  · intro all
    refine ⟨all value (List.mem_set bound value), ?_⟩
    intro j x other there
    have kept : (array.set index value)[j]? = some x := by
      rw [List.getElem?_set_ne (Ne.symm other), there]
    exact all x (List.mem_of_getElem? kept)
  · rintro ⟨here, others⟩ x mem
    obtain ⟨j, there⟩ := List.mem_iff_getElem?.mp mem
    by_cases same : j = index
    · subst same
      rw [List.getElem?_set_self bound] at there
      exact Option.some.inj there ▸ here
    · rw [List.getElem?_set_ne (Ne.symm same)] at there
      exact others j x same there

end NewsReader
