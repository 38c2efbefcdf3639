import Mathlib.Data.List.Nodup
import Mathlib.Data.List.Perm.Basic

/-!
# Selected rows of a list

Rows taken out of a list one by one shift the rows after them. Taken from the last one
up they shift none that is still to go, and what is left is what erasing the selected
entries leaves, in any order (`foldl_eraseIdx`). So do the selected entries when each is
searched for and taken out, as long as the search tells them apart
(`foldl_removeFirst`, `withoutRows_eq_filter`).
-/

namespace NewsReader

section Selection

variable {α : Type} {xs : List α} {rows rows' : List Nat} {row : Nat} {a : α}

/-- The entries at the rows, in the order of the rows. -/
def select (xs : List α) (rows : List Nat) : List α := rows.filterMap (xs[·]?)

theorem select_cons (found : xs[row]? = some a) :
    select xs (row :: rows) = a :: select xs rows := List.filterMap_cons_some found

theorem mem_of_mem_select (h : a ∈ select xs rows) : a ∈ xs := by
  obtain ⟨row, -, found⟩ := List.mem_filterMap.mp h
  exact List.mem_of_getElem? found

theorem select_perm (xs : List α) (h : rows.Perm rows') :
    (select xs rows).Perm (select xs rows') :=
  h.filterMap _

/-- Subscripts in range trap nowhere. -/
theorem mapM_getElem? (inside : ∀ row ∈ rows, row < xs.length) :
    (rows.mapM fun row => xs[row]?) = some (select xs rows) := by
  induction rows with
  | nil => rfl
  | cons row rows ih =>
    obtain ⟨bound, inside⟩ := List.forall_mem_cons.mp inside
    have found : xs[row]? = some xs[row] := List.getElem?_eq_getElem bound
    simp [List.mapM_cons, found, ih inside, select_cons]

/-- Where the whole list goes through, each entry does. -/
theorem isSome_of_mapM {β : Type} {f : α → Option β} {bs : List β} (ran : xs.mapM f = some bs) :
    ∀ a ∈ xs, (f a).isSome = true := by
  induction xs generalizing bs with
  | nil => exact fun _ mem => absurd mem List.not_mem_nil
  | cons a xs ih =>
    simp only [List.mapM_cons, Option.bind_eq_bind, Option.bind_eq_some_iff] at ran
    obtain ⟨b, here, rest, later, -⟩ := ran
    exact List.forall_mem_cons.mpr ⟨Option.isSome_of_eq_some here, ih later⟩

/-- Where it traps, some entry does. -/
theorem mapM_eq_none_iff {β : Type} {f : α → Option β} :
    xs.mapM f = none ↔ ∃ a ∈ xs, f a = none := by
  induction xs with
  | nil => simp
  | cons a xs ih =>
    rw [List.exists_mem_cons_iff, ← ih, List.mapM_cons]
    cases f a with
    | none => simp
    | some b => cases xs.mapM f <;> simp

/-- Where no subscript traps, all are in range. -/
theorem inside_of_mapM {as : List α} (read : (rows.mapM fun row => xs[row]?) = some as) :
    ∀ row ∈ rows, row < xs.length := by
  intro row mem
  simpa using isSome_of_mapM read row mem

theorem mapM_eq_map {β : Type} {f : α → Option β} {g : α → β} (h : ∀ a ∈ xs, f a = some (g a)) :
    xs.mapM f = some (xs.map g) := by
  induction xs with
  | nil => rfl
  | cons a xs ih =>
    obtain ⟨here, later⟩ := List.forall_mem_cons.mp h
    simp [List.mapM_cons, here, ih later]

theorem select_ne_nil (inside : ∀ row ∈ rows, row < xs.length) (nonempty : rows ≠ []) :
    select xs rows ≠ [] := by
  cases rows with
  | nil => exact absurd rfl nonempty
  | cons row rows =>
    have bound := inside row List.mem_cons_self
    simp [select_cons (List.getElem?_eq_getElem bound)]

/-- A row taken out leaves the rows before it where they are. -/
theorem select_eraseIdx (before : ∀ r ∈ rows, r < row) :
    select (xs.eraseIdx row) rows = select xs rows := by
  apply List.filterMap_congr
  intro r mem
  exact List.getElem?_eraseIdx_of_lt (before r mem)

/-- A row that is taken out moves the rows below it, and no others. -/
theorem getElem?_eraseIdx_iff (distinct : xs.Nodup) {i : Nat} (found : xs[i]? = some a) :
    (xs.eraseIdx row)[i]? = some a ↔ i < row := by
  have bound : i < xs.length := (List.getElem?_eq_some_iff.mp found).1
  by_cases above : i < row
  · simp [List.getElem?_eraseIdx_of_lt above, found, above]
  · rw [List.getElem?_eraseIdx_of_ge (by omega)]
    constructor
    · intro next
      have same : i = i + 1 := (List.getElem?_inj bound distinct).mp (found.trans next.symm)
      omega
    · intro above'
      exact absurd above' above

variable [DecidableEq α]

theorem eraseIdx_eq_erase (distinct : xs.Nodup) (found : xs[row]? = some a) :
    xs.eraseIdx row = xs.erase a := by
  obtain ⟨bound, rfl⟩ := List.getElem?_eq_some_iff.mp found
  exact (distinct.erase_getElem row bound).symm

/-- Rows taken out from the last one up, by induction on the rows still to go. -/
theorem foldl_eraseIdx (distinct : xs.Nodup) (inside : ∀ row ∈ rows, row < xs.length)
    (descending : rows.Pairwise (· > ·)) :
    rows.foldl List.eraseIdx xs = (select xs rows).foldl List.erase xs := by
  induction rows generalizing xs with
  | nil => rfl
  | cons row rows ih =>
    obtain ⟨before, descending⟩ := List.pairwise_cons.mp descending
    obtain ⟨bound, inside⟩ := List.forall_mem_cons.mp inside
    have found : xs[row]? = some xs[row] := List.getElem?_eq_getElem bound
    have shorter : ∀ r ∈ rows, r < (xs.eraseIdx row).length := by
      intro r mem
      have := before r mem
      rw [List.length_eraseIdx_of_lt bound]
      omega
    rw [select_cons found, List.foldl_cons, List.foldl_cons,
      ih (distinct.eraseIdx row) shorter descending, select_eraseIdx before,
      eraseIdx_eq_erase distinct found]

theorem foldl_erase_perm {as bs : List α} (h : as.Perm bs) (xs : List α) :
    as.foldl List.erase xs = bs.foldl List.erase xs := by
  apply h.foldl_eq'
  intro a _ b _ ys
  exact List.erase_comm a b

end Selection

section Removal

variable {α : Type} {xs ys as : List α} {rows : List Nat} {a : α}

/-- `xs` with the entries at the rows filtered out, in one pass. -/
def withoutRows (xs : List α) (rows : List Nat) : List α :=
  (xs.zipIdx.filter fun entry => decide (entry.2 ∉ rows)).map (·.1)

/-- `firstIndex(of:)` and `remove(at:)`, by an equality of one's own. -/
def removeFirst (same : α → α → Bool) (xs : List α) (a : α) : List α :=
  match xs.findIdx? (same · a) with
  | some index => xs.eraseIdx index
  | none => xs

theorem length_withoutRows (distinct : rows.Nodup) (inside : ∀ row ∈ rows, row < xs.length) :
    (withoutRows xs rows).length + rows.length = xs.length := by
  have positions : xs.zipIdx.map (·.2) = List.range xs.length := by
    rw [List.zipIdx_map_snd, List.range_eq_range']
  have kept : (withoutRows xs rows).length =
      ((List.range xs.length).filter fun row => decide (row ∉ rows)).length := by
    rw [withoutRows, List.length_map, ← positions, List.filter_map, List.length_map]
    rfl
  have taken : ((List.range xs.length).filter fun row => decide (row ∈ rows)).Perm rows := by
    rw [List.perm_ext_iff_of_nodup (List.nodup_range.filter _) distinct]
    intro row
    rw [List.mem_filter, List.mem_range, decide_eq_true_iff]
    exact ⟨And.right, fun mem => ⟨inside row mem, mem⟩⟩
  have parts := List.length_eq_length_filter_add (l := List.range xs.length)
    (fun row => decide (row ∈ rows))
  simp only [List.length_range, ← decide_not, taken.length_eq, ← kept] at parts
  omega

theorem withoutRows_sublist (xs : List α) (rows : List Nat) : (withoutRows xs rows).Sublist xs := by
  have parts : (withoutRows xs rows).Sublist (xs.zipIdx.map (·.1)) :=
    List.filter_sublist.map Prod.fst
  rwa [List.zipIdx_map_fst] at parts

theorem map_withoutRows {β : Type} (f : α → β) (xs : List α) (rows : List Nat) :
    (withoutRows xs rows).map f = withoutRows (xs.map f) rows := by
  simp only [withoutRows, List.zipIdx_map, List.filter_map, List.map_map]
  rfl

theorem map_select {β : Type} (f : α → β) (xs : List α) (rows : List Nat) :
    (select xs rows).map f = select (xs.map f) rows := by
  simp only [select, List.map_filterMap, List.getElem?_map]

variable [DecidableEq α]

/-- A row is selected exactly where its entry is. -/
theorem withoutRows_eq_filter (distinct : xs.Nodup) (rows : List Nat) :
    withoutRows xs rows = xs.filter fun a => decide (a ∉ select xs rows) := by
  have same : ∀ entry ∈ xs.zipIdx,
      decide (entry.2 ∉ rows) = decide (entry.1 ∉ select xs rows) := by
    rintro ⟨a, row⟩ mem
    have found : xs[row]? = some a := List.mk_mem_zipIdx_iff_getElem?.mp mem
    have selected : row ∈ rows ↔ a ∈ select xs rows := by
      constructor
      · intro there
        exact List.mem_filterMap.mpr ⟨row, there, found⟩
      · intro there
        obtain ⟨other, listed, found'⟩ := List.mem_filterMap.mp there
        have bound := (List.getElem?_eq_some_iff.mp found).1
        obtain rfl := (List.getElem?_inj bound distinct).mp (found.trans found'.symm)
        exact listed
    simp only [selected]
  rw [withoutRows, List.filter_congr same]
  have pulled := List.filter_map (p := fun a => decide (a ∉ select xs rows)) (f := Prod.fst)
    (l := xs.zipIdx)
  rw [List.zipIdx_map_fst] at pulled
  exact pulled.symm

theorem eraseP_eq_filter {p : α → Bool} (distinct : xs.Nodup)
    (tells : ∀ b ∈ xs, p b = true ↔ b = a) : xs.eraseP p = xs.filter fun b => decide (b ≠ a) := by
  induction xs with
  | nil => rfl
  | cons b xs ih =>
    obtain ⟨fresh, distinct⟩ := List.nodup_cons.mp distinct
    obtain ⟨here, later⟩ := List.forall_mem_cons.mp tells
    by_cases found : b = a
    · subst found
      have others : ∀ c ∈ xs, decide (c ≠ b) = true := by
        intro c mem
        exact decide_eq_true fun again => fresh (again ▸ mem)
      rw [List.eraseP_cons_of_pos (here.mpr rfl), List.filter_cons_of_neg (by simp),
        List.filter_eq_self.mpr others]
    · rw [List.eraseP_cons_of_neg (mt here.mp found), List.filter_cons_of_pos (by simp [found]),
        ih distinct later]

/-- An entry that the equality tells from the others is the one that is removed. -/
theorem removeFirst_eq_filter {same : α → α → Bool} (distinct : xs.Nodup)
    (tells : ∀ b ∈ xs, same b a = true ↔ b = a) :
    removeFirst same xs a = xs.filter fun b => decide (b ≠ a) := by
  rw [← eraseP_eq_filter distinct tells, removeFirst, List.eraseP_eq_eraseIdx]
  cases xs.findIdx? (same · a) <;> rfl

/-- Entries removed one after the other, by induction on those still to go. The list gets
shorter, and the equality still tells each of them from the rest. -/
theorem foldl_removeFirst {same : α → α → Bool} (distinct : xs.Nodup)
    (tells : ∀ a ∈ as, ∀ b ∈ xs, same b a = true ↔ b = a) :
    as.foldl (removeFirst same) xs = xs.filter fun b => decide (b ∉ as) := by
  induction as generalizing xs with
  | nil => simp
  | cons a as ih =>
    obtain ⟨here, later⟩ := List.forall_mem_cons.mp tells
    rw [List.foldl_cons, removeFirst_eq_filter distinct here, ih (distinct.filter _)]
    · rw [List.filter_filter]
      apply List.filter_congr
      intro b _
      simp [Bool.and_comm]
    · intro c mem b left
      exact later c mem b (List.mem_of_mem_filter left)

theorem foldl_erase_eq_filter (distinct : xs.Nodup) (as : List α) :
    as.foldl List.erase xs = xs.filter fun b => decide (b ∉ as) := by
  rw [← List.diff_eq_foldl, distinct.sdiff_eq_filter]

end Removal

end NewsReader
