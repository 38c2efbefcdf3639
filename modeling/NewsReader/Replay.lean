import Mathlib.Data.List.Basic

/-!
# Replayed writes

A store of values under keys, told by the writes to it. It starts out empty, and under a
key it holds what the last write to that key has left, whatever was written to other keys
in between (`replay_append`).
-/

namespace NewsReader

inductive Write (Key Value : Type)
  | put (key : Key) (value : Value)
  | remove (keys : List Key)
  deriving DecidableEq, Repr

variable {Key Value : Type} [DecidableEq Key]

/-- What the write leaves under a key, where it writes to that key. -/
def Write.leaves (k : Key) : Write Key Value → Option (Option Value)
  | put key value => if k = key then some (some value) else none
  | remove keys => if k ∈ keys then some none else none

/-- What is under a key after the writes. -/
def replay (writes : List (Write Key Value)) (k : Key) : Option Value :=
  (writes.filterMap (·.leaves k)).getLast?.join

variable (writes : List (Write Key Value)) (k : Key)

/-- One write more decides over its own keys, and over no others. -/
theorem replay_append (w : Write Key Value) :
    replay (writes ++ [w]) k = (w.leaves k).getD (replay writes k) := by
  cases leaves : w.leaves k with
  | none => simp [replay, leaves]
  | some left => simp [replay, leaves]

theorem replay_put (key : Key) (value : Value) :
    replay (writes ++ [.put key value]) k = if k = key then some value else replay writes k := by
  rw [replay_append, Write.leaves]
  split
  · rfl
  · rfl

theorem replay_remove (keys : List Key) :
    replay (writes ++ [.remove keys]) k = if k ∈ keys then none else replay writes k := by
  rw [replay_append, Write.leaves]
  split
  · rfl
  · rfl

end NewsReader
