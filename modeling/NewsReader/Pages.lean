import Mathlib.Data.List.Basic

/-!
# Numbered pages

A paged source gives a list for every page number from 1 on. `pagesUpTo` is what
a reader has seen after the first `n` of them.
-/

namespace NewsReader

variable {α : Type}

/-- Pages 1 to `n` one after the other. -/
def pagesUpTo (page : Nat → List α) (n : Nat) : List α := (List.range' 1 n).flatMap page

@[simp] theorem pagesUpTo_one (page : Nat → List α) : pagesUpTo page 1 = page 1 := by
  simp [pagesUpTo]

theorem pagesUpTo_succ (page : Nat → List α) (n : Nat) :
    pagesUpTo page (n + 1) = pagesUpTo page n ++ page (n + 1) := by
  rw [pagesUpTo, List.range'_1_concat, List.flatMap_append, Nat.add_comm 1 n]
  simp [pagesUpTo]

theorem pagesUpTo_succ_of_nil {page : Nat → List α} {n : Nat} (h : page (n + 1) = []) :
    pagesUpTo page (n + 1) = pagesUpTo page n := by
  rw [pagesUpTo_succ, h, List.append_nil]

/-- `page` is the first, from 1 on, that is not among `pages`. -/
structure FirstMissing (pages : List Nat) (page : Nat) : Prop where
  positive : 0 < page
  missing : page ∉ pages
  before : ∀ q, 0 < q → q < page → q ∈ pages

theorem firstMissing_range' {n page : Nat} :
    FirstMissing (List.range' 1 n) page ↔ page = n + 1 := by
  constructor
  · rintro ⟨positive, missing, before⟩
    simp only [List.mem_range'_1] at missing before
    by_contra other
    have beyond : n + 1 < page := by omega
    have := before (n + 1) (by omega) beyond
    omega
  · rintro rfl
    refine ⟨by omega, ?_, ?_⟩
    · rw [List.mem_range'_1]
      omega
    · intro q positive earlier
      rw [List.mem_range'_1]
      omega

end NewsReader
