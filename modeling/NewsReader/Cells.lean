import NewsReader.Table

/-!
# Displayed cells

A list on screen displays a cell for some of its rows. A cell is set up when it is
displayed and keeps what it was set up with; the rows may have changed since.
`Cells.All P` says that each displayed cell is as `P` has it for its row.
-/

namespace NewsReader

structure DisplayedCell (Cell : Type) where
  row : Nat
  cell : Cell
  deriving DecidableEq, Repr

abbrev Cells (Cell : Type) := Table fun shown : DisplayedCell Cell => shown.row

namespace Cells

variable {Cell : Type}

/-- A cell is displayed at a row, in the place of the one that was there. -/
def display (cells : Cells Cell) (row : Nat) (cell : Cell) : Cells Cell := cells.upsert ⟨row, cell⟩

def endDisplaying (cells : Cells Cell) (row : Nat) : Cells Cell := cells.erase row

/-- A row that is displayed is set up anew. -/
def configure (setUp : Nat → Option Cell) (cells : Cells Cell) (row : Nat) :
    Option (Cells Cell) :=
  if row ∈ cells.keys then do
    let cell ← setUp row
    return cells.display row cell
  else some cells

def All (P : Nat → Cell → Prop) (cells : Cells Cell) : Prop :=
  ∀ shown ∈ cells.rows, P shown.row shown.cell

variable {P Q : Nat → Cell → Prop} {cells : Cells Cell} {row : Nat} {cell : Cell}

theorem all_empty : All P (Table.empty _ : Cells Cell) := nofun

theorem All.mono (h : cells.All P) (le : ∀ row cell, P row cell → Q row cell) : cells.All Q :=
  fun shown mem => le _ _ (h shown mem)

/-- A new cell is as it is set up, and the others are as they were. -/
theorem All.display (h : cells.All P) (new : Q row cell)
    (others : ∀ row' cell', row' ≠ row → P row' cell' → Q row' cell') :
    (cells.display row cell).All Q := by
  intro shown mem
  obtain rfl | ⟨old, other⟩ := Table.mem_upsert.mp mem
  · exact new
  · exact others _ _ other (h shown old)

/-- The cells that stay displayed are as they were. -/
theorem All.endDisplaying (h : cells.All P)
    (others : ∀ row' cell', row' ≠ row → P row' cell' → Q row' cell') :
    (cells.endDisplaying row).All Q := by
  intro shown mem
  obtain ⟨old, other⟩ := Table.mem_erase.mp mem
  exact others _ _ other (h shown old)

theorem All.configure {setUp : Nat → Option Cell} (h : cells.All P) {cell : Cell}
    (ready : setUp row = some cell) :
    ∃ cells', cells.configure setUp row = some cells' ∧
      cells'.All fun row' cell' => setUp row' = some cell' ∨ row' ≠ row ∧ P row' cell' := by
  by_cases shown : row ∈ cells.keys
  · refine ⟨cells.display row cell, ?_, ?_⟩
    · simp [Cells.configure, shown, ready]
    · exact h.display (Or.inl ready) fun _ _ other was => Or.inr ⟨other, was⟩
  · refine ⟨cells, if_neg shown, ?_⟩
    intro there mem
    have other : there.row ≠ row := fun same => shown (Table.mem_keys.mpr ⟨there, mem, same⟩)
    exact Or.inr ⟨other, h there mem⟩

/-- A loop that sets up the displayed cells among `rows` leaves each of them set up. -/
theorem All.configure_rows {setUp : Nat → Option Cell} {rows : List Nat}
    (ready : ∀ row ∈ rows, ∃ cell, setUp row = some cell) (h : cells.All P) :
    ∃ cells', rows.foldlM (Cells.configure setUp) cells = some cells' ∧
      cells'.All fun row cell => setUp row = some cell ∨ row ∉ rows ∧ P row cell := by
  induction rows generalizing cells P with
  | nil => exact ⟨cells, rfl, h.mono fun _ _ was => Or.inr ⟨List.not_mem_nil, was⟩⟩
  | cons row rows ih =>
    obtain ⟨cell, here⟩ := ready row List.mem_cons_self
    obtain ⟨first, configured, one⟩ := h.configure here
    obtain ⟨last, rest, all⟩ := ih (fun row mem => ready row (List.mem_cons_of_mem _ mem)) one
    refine ⟨last, ?_, all.mono ?_⟩
    · rw [List.foldlM_cons, configured]
      exact rest
    · rintro row' cell' (new | ⟨away, new | ⟨other, was⟩⟩)
      · exact Or.inl new
      · exact Or.inl new
      · exact Or.inr ⟨List.not_mem_cons_of_ne_of_not_mem other away, was⟩

end Cells

end NewsReader
