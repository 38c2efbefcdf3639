import Mathlib.Data.List.Nodup
import Mathlib.Data.List.Perm.Basic

/-!
# Keyed tables

Rows with distinct keys. `upsert` replaces the row that has the new row's key, or
adds the new row at the end; `erase` moves the last row over the row that has a key.
So what was erased shows in the order of the rows left, but not in what is looked up
by key (`find_perm`).
-/

namespace NewsReader

variable {Row Key : Type} {key : Row → Key}

structure Table (key : Row → Key) where
  rows : List Row
  nodup : (rows.map key).Nodup

namespace Table

@[ext] theorem ext {t u : Table key} (h : t.rows = u.rows) : t = u := by
  obtain ⟨rows, nodup⟩ := t
  subst h
  rfl

def empty (key : Row → Key) : Table key := ⟨[], List.nodup_nil⟩

instance : Inhabited (Table key) := ⟨empty key⟩

def keys (t : Table key) : List Key := t.rows.map key

instance [DecidableEq Row] : DecidableEq (Table key) := fun _ _ =>
  decidable_of_iff _ Table.ext_iff.symm

theorem key_injOn {t : Table key} {a b : Row} (ha : a ∈ t.rows) (hb : b ∈ t.rows)
    (same : key a = key b) : a = b :=
  List.inj_on_of_nodup_map t.nodup ha hb same

variable [DecidableEq Key]

def find (t : Table key) (k : Key) : Option Row := t.rows.find? fun row => decide (key row = k)

def replace (t : Table key) (new : Row) : List Row :=
  t.rows.map fun row => if key row = key new then new else row

theorem map_key_replace (t : Table key) (new : Row) :
    (t.replace new).map key = t.rows.map key := by
  rw [replace, List.map_map]
  apply List.map_congr_left
  intro row _
  simp only [Function.comp_apply]
  split
  · rename_i same
    exact same.symm
  · rfl

def upsert (t : Table key) (new : Row) : Table key :=
  if h : key new ∈ t.rows.map key then
    ⟨t.replace new, (t.map_key_replace new).symm ▸ t.nodup⟩
  else
    ⟨t.rows ++ [new], by
      rw [List.map_append, List.nodup_append]
      refine ⟨t.nodup, List.nodup_singleton _, ?_⟩
      rintro k old _ last rfl
      exact h (List.mem_singleton.mp last ▸ old)⟩

/-- The last row takes the place of row `i`. -/
def moveLastOver (rows : List Row) (i : Nat) : List Row :=
  match rows.getLast? with
  | none => []
  | some last => (rows.set i last).dropLast

theorem moveLastOver_perm {rows : List Row} {i : Nat} (inside : i < rows.length) :
    (moveLastOver rows i).Perm (rows.eraseIdx i) := by
  obtain rfl | ⟨others, last, rfl⟩ := List.eq_nil_or_concat' rows
  · cases inside
  · simp only [moveLastOver, List.getLast?_concat]
    by_cases before : i < others.length
    · rw [List.set_append_left i last before, List.dropLast_concat,
        List.eraseIdx_append_of_lt_length before]
      exact (List.set_perm_cons_eraseIdx before last).trans
        (List.perm_append_singleton last _).symm
    · obtain rfl : i = others.length := by
        rw [List.length_append, List.length_singleton] at inside
        omega
      simp [List.eraseIdx_append_of_length_le]

def erase (t : Table key) (k : Key) : Table key :=
  match found : t.rows.findIdx? fun row => decide (key row = k) with
  | none => t
  | some i => ⟨moveLastOver t.rows i, by
      obtain ⟨inside, -⟩ := List.findIdx?_eq_some_iff_getElem.mp found
      exact ((moveLastOver_perm inside).map key).nodup_iff.mpr
        (t.nodup.sublist ((List.eraseIdx_sublist t.rows i).map key))⟩

theorem eraseP_eq_filter_key {rows : List Row} (distinct : (rows.map key).Nodup) (k : Key) :
    (rows.eraseP fun row => decide (key row = k)) =
      rows.filter fun row => decide (key row ≠ k) := by
  induction rows with
  | nil => rfl
  | cons row rows ih =>
    obtain ⟨fresh, distinct⟩ := List.nodup_cons.mp distinct
    by_cases found : key row = k
    · have others : ∀ other ∈ rows, decide (key other ≠ k) = true := by
        intro other mem
        exact decide_eq_true fun again => fresh (found ▸ again ▸ List.mem_map_of_mem mem)
      rw [List.eraseP_cons_of_pos (by simp [found]), List.filter_cons_of_neg (by simp [found]),
        List.filter_eq_self.mpr others]
    · rw [List.eraseP_cons_of_neg (by simp [found]), List.filter_cons_of_pos (by simp [found]),
        ih distinct]

/-- The rows left are those of the other keys, in some order. -/
theorem erase_perm (t : Table key) (k : Key) :
    (t.erase k).rows.Perm (t.rows.filter fun row => decide (key row ≠ k)) := by
  rw [← eraseP_eq_filter_key t.nodup, List.eraseP_eq_eraseIdx]
  unfold erase
  split
  · rename_i absent
    simp only [absent]
    exact List.Perm.refl _
  · rename_i i found
    simp only [found]
    exact moveLastOver_perm (List.findIdx?_eq_some_iff_getElem.mp found).1

/-! ## Lookups -/

variable {t : Table key} {k : Key} {row new : Row}

/-- The row of a key is the one that has it. -/
theorem find_eq_some_iff : t.find k = some row ↔ row ∈ t.rows ∧ key row = k := by
  constructor
  · intro found
    exact ⟨List.mem_of_find?_eq_some found, by simpa using List.find?_some found⟩
  · rintro ⟨mem, rfl⟩
    obtain ⟨other, found⟩ := Option.isSome_iff_exists.mp
      (List.find?_isSome (p := fun r => decide (key r = key row)).mpr ⟨row, mem, by simp⟩)
    have same : key other = key row := by simpa using List.find?_some found
    rw [find, found, key_injOn (List.mem_of_find?_eq_some found) mem same]

theorem find_eq_none_iff : t.find k = none ↔ ∀ row ∈ t.rows, key row ≠ k := by
  simp [find, List.find?_eq_none]

theorem mem_upsert : row ∈ (t.upsert new).rows ↔ row = new ∨ row ∈ t.rows ∧ key row ≠ key new := by
  unfold upsert
  split
  · rename_i present
    simp only [replace, List.mem_map]
    constructor
    · rintro ⟨old, mem, rfl⟩
      split
      · exact Or.inl rfl
      · rename_i other
        exact Or.inr ⟨mem, other⟩
    · rintro (rfl | ⟨mem, other⟩)
      · obtain ⟨old, mem, same⟩ := List.mem_map.mp present
        exact ⟨old, mem, if_pos same⟩
      · exact ⟨row, mem, if_neg other⟩
  · rename_i absent
    simp only [List.mem_append, List.mem_singleton]
    constructor
    · rintro (mem | rfl)
      · exact Or.inr ⟨mem, fun same => absent (List.mem_map.mpr ⟨row, mem, same⟩)⟩
      · exact Or.inl rfl
    · rintro (rfl | ⟨mem, -⟩)
      · exact Or.inr rfl
      · exact Or.inl mem

theorem mem_erase : row ∈ (t.erase k).rows ↔ row ∈ t.rows ∧ key row ≠ k := by
  rw [(t.erase_perm k).mem_iff, List.mem_filter, decide_eq_true_eq]

/-- Two orders of the same rows are looked up alike. -/
theorem find_perm {u : Table key} (same : t.rows.Perm u.rows) (k : Key) : t.find k = u.find k := by
  ext row
  rw [find_eq_some_iff, find_eq_some_iff, same.mem_iff]

theorem erase_congr {u : Table key} (same : t.rows.Perm u.rows) (k : Key) :
    (t.erase k).rows.Perm (u.erase k).rows :=
  (t.erase_perm k).trans ((same.filter _).trans (u.erase_perm k).symm)

theorem erase_comm (t : Table key) (k k' : Key) :
    ((t.erase k).erase k').rows.Perm ((t.erase k').erase k).rows := by
  have left := ((t.erase k).erase_perm k').trans ((t.erase_perm k).filter _)
  have right := ((t.erase k').erase_perm k).trans ((t.erase_perm k').filter _)
  rw [List.filter_filter] at left right
  simp only [Bool.and_comm] at left
  exact left.trans right.symm

theorem find_upsert_self (t : Table key) (new : Row) : (t.upsert new).find (key new) = some new :=
  find_eq_some_iff.mpr ⟨mem_upsert.mpr (Or.inl rfl), rfl⟩

theorem find_erase_self (t : Table key) (k : Key) : (t.erase k).find k = none :=
  find_eq_none_iff.mpr fun _ mem => (mem_erase.mp mem).2

/-- What a change to one key leaves of the others. -/
theorem find_congr {u : Table key} (same : ∀ row, key row = k → (row ∈ t.rows ↔ row ∈ u.rows)) :
    t.find k = u.find k := by
  ext row
  rw [find_eq_some_iff, find_eq_some_iff]
  constructor
  · rintro ⟨mem, has⟩
    exact ⟨(same row has).mp mem, has⟩
  · rintro ⟨mem, has⟩
    exact ⟨(same row has).mpr mem, has⟩

theorem find_upsert_ne (ne : k ≠ key new) : (t.upsert new).find k = t.find k := by
  apply find_congr
  intro row has
  rw [mem_upsert]
  constructor
  · rintro (rfl | ⟨mem, -⟩)
    · exact absurd has.symm ne
    · exact mem
  · exact fun mem => Or.inr ⟨mem, has ▸ ne⟩

theorem find_erase_ne {k' : Key} (ne : k' ≠ k) : (t.erase k).find k' = t.find k' := by
  apply find_congr
  intro row has
  rw [mem_erase]
  exact ⟨And.left, fun mem => ⟨mem, has ▸ ne⟩⟩

/-! ## Keys -/

omit [DecidableEq Key] in
theorem mem_keys : k ∈ t.keys ↔ ∃ row ∈ t.rows, key row = k := List.mem_map

theorem mem_keys_upsert : k ∈ (t.upsert new).keys ↔ k = key new ∨ k ∈ t.keys := by
  simp only [mem_keys, mem_upsert]
  constructor
  · rintro ⟨row, rfl | ⟨mem, -⟩, rfl⟩
    · exact Or.inl rfl
    · exact Or.inr ⟨row, mem, rfl⟩
  · rintro (rfl | ⟨row, mem, rfl⟩)
    · exact ⟨new, Or.inl rfl, rfl⟩
    · by_cases same : key row = key new
      · exact ⟨new, Or.inl rfl, same.symm⟩
      · exact ⟨row, Or.inr ⟨mem, same⟩, rfl⟩

theorem mem_keys_erase {k' : Key} : k' ∈ (t.erase k).keys ↔ k' ∈ t.keys ∧ k' ≠ k := by
  simp only [mem_keys, mem_erase]
  constructor
  · rintro ⟨row, ⟨mem, other⟩, rfl⟩
    exact ⟨⟨row, mem, rfl⟩, other⟩
  · rintro ⟨⟨row, mem, rfl⟩, other⟩
    exact ⟨row, ⟨mem, other⟩, rfl⟩

omit [DecidableEq Key] in
/-- A table has no more rows than any list of keys that covers it. -/
theorem length_rows_le {ks : List Key} (covered : ∀ k ∈ t.keys, k ∈ ks) :
    t.rows.length ≤ ks.length := by
  have counted : t.keys.length = t.rows.length := List.length_map key
  have bound : t.keys.length ≤ ks.length := t.nodup.length_le_of_subset covered
  omega

/-! ## An index kept beside a table -/

/-- `ks` names each row once, and nothing else. -/
def IndexedBy (t : Table key) (ks : List Key) : Prop := ks.Nodup ∧ ∀ k, k ∈ ks ↔ k ∈ t.keys

/-- An index stays one with a new row at its end exactly when that row was not in it,
and nothing but that row was missing from it. -/
theorem indexedBy_append {ks : List Key} (distinct : ks.Nodup) (present : ∀ k ∈ ks, k ∈ t.keys) :
    (t.upsert new).IndexedBy (ks ++ [key new]) ↔
      key new ∉ ks ∧ ∀ k ∈ t.keys, k ≠ key new → k ∈ ks := by
  constructor
  · rintro ⟨nodup, same⟩
    rw [List.nodup_append] at nodup
    obtain ⟨-, -, apart⟩ := nodup
    refine ⟨fun mem => apart _ mem _ (List.mem_singleton_self _) rfl, ?_⟩
    intro k mem other
    have indexed := (same k).mpr (mem_keys_upsert.mpr (Or.inr mem))
    rcases List.mem_append.mp indexed with old | last
    · exact old
    · exact absurd (List.mem_singleton.mp last) other
  · rintro ⟨fresh, missing⟩
    constructor
    · rw [List.nodup_append]
      refine ⟨distinct, List.nodup_singleton _, ?_⟩
      rintro k mem last here rfl
      exact fresh (List.mem_singleton.mp here ▸ mem)
    · intro k
      rw [mem_keys_upsert, List.mem_append, List.mem_singleton]
      constructor
      · rintro (mem | same)
        · exact Or.inr (present k mem)
        · exact Or.inl same
      · rintro (same | mem)
        · exact Or.inr same
        · by_cases same : k = key new
          · exact Or.inr same
          · exact Or.inl (missing k mem same)

/-- Dropping the first of an index with its row. -/
theorem indexedBy_erase_head {ks : List Key} (mem : k ∈ t.keys) :
    (t.erase k).IndexedBy ks ↔ t.IndexedBy (k :: ks) := by
  have gone : k ∉ (t.erase k).keys := fun there => (mem_keys_erase.mp there).2 rfl
  constructor
  · rintro ⟨distinct, same⟩
    have fresh : k ∉ ks := fun there => gone ((same k).mp there)
    refine ⟨List.nodup_cons.mpr ⟨fresh, distinct⟩, ?_⟩
    intro j
    by_cases here : j = k
    · subst here
      simp [mem]
    · simp [here, same, mem_keys_erase]
  · rintro ⟨distinct, same⟩
    obtain ⟨fresh, distinct⟩ := List.nodup_cons.mp distinct
    refine ⟨distinct, ?_⟩
    intro j
    rw [mem_keys_erase, ← same j, List.mem_cons]
    constructor
    · intro there
      exact ⟨Or.inr there, fun here => fresh (here ▸ there)⟩
    · rintro ⟨here | there, other⟩
      · exact absurd here other
      · exact there

end Table

end NewsReader
