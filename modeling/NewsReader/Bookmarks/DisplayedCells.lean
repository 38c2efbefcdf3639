import NewsReader.Bookmarks.BulkDelete

/-!
# The delete button of a Bookmarks cell

A cell names its article by the row it was configured for. The button asks first,
and the row is looked up when the question is answered. A deletion moves the rows
below it up and does not configure their cells again: that is left to the change
notification, which reloads the table.

* `taps_delete_displayed`: every displayed cell deletes the article it displays in
  every run in which a deletion leaves no cell below its row and no question about
  one of the rows it moves, and no cell is left to a write whose commit has thrown;
  and that says exactly when.
-/

namespace NewsReader

structure FavoritesDetailCellViewModel where
  news : Accessor
  row : Nat
  deriving DecidableEq, Repr

/-- The screen, its table and the store. `cells` has the cell that is displayed in
each row of the table, where one is. An alert is the cell whose button raised it, of
which it keeps the row. -/
structure FavoritesDetailViewController where
  manager : RealmManager
  viewModel : FavoritesDetailViewModel
  cells : List (Option FavoritesDetailCellViewModel) := []
  alerts : List FavoritesDetailCellViewModel := []
  deriving DecidableEq

/-- What happens to the screen. Rows are those of the table, and alerts are named by
their position among those that are pending. No change notification is taken to be
pending as a write begins. The last three are writes from elsewhere. -/
inductive FavoritesEvent
  | cellForRowAt (row : Nat)
  | didEndDisplaying (row : Nat)
  | deleteNewsButtonTouchUpInside (row : Nat)
  | ok (alert : Nat) (commit : Commit)
  | cancel (alert : Nat)
  | notify
  | addObject (object : NewsObject) (commit : Commit)
  | deleteObject (key : Option String) (commit : Commit)
  | deleteObjects (keys : List (Option String)) (commit : Commit)
  deriving DecidableEq, Repr

namespace FavoritesDetailViewController

section Handlers

variable (c : FavoritesDetailViewController)

/-- Every row is empty until its cell is asked for. -/
def reloadData : FavoritesDetailViewController :=
  { c with cells := List.replicate c.viewModel.articles.length none }

def setupData (manager : RealmManager) (categoryType : CategoryType) :
    FavoritesDetailViewController :=
  reloadData { manager, viewModel := (FavoritesDetailViewModel.fetchData manager { categoryType }).1 }

/-- `updateUI()` reads the article, which traps if it has been deleted. -/
def cellForRowAt (row : Nat) : Option FavoritesDetailViewController := do
  let news ← c.viewModel.articles[row]?
  let _ ← (NewsObject.managed news).urlNews c.manager
  return { c with cells := c.cells.set row (some ⟨news, row⟩) }

/-- The table checks the row, and that the number of rows has gone down by one. -/
def deleteRows (row : Nat) : Option FavoritesDetailViewController :=
  if row < c.cells.length ∧ c.viewModel.articles.length + 1 = c.cells.length then
    some { c with cells := c.cells.eraseIdx row }
  else none

/-- The alert's "Ok". The rows are deleted in the completion. -/
def removeNews (row : Nat) (commit : Commit) : Option FavoritesDetailViewController := do
  let (manager, viewModel, completions) ←
    c.viewModel.removeNewsInFavorites c.manager row commit
  let c := { c with manager, viewModel }
  if completions.any (·.1) then c.deleteRows row else some c

def handle : FavoritesEvent → Option FavoritesDetailViewController
  | .cellForRowAt row => c.cellForRowAt row
  | .didEndDisplaying row => some { c with cells := c.cells.set row none }
  | .deleteNewsButtonTouchUpInside row => do
    let cell ← c.cells[row]?.join
    return { c with alerts := c.alerts ++ [cell] }
  | .ok alert commit => do
    let cell ← c.alerts[alert]?
    removeNews { c with alerts := c.alerts.eraseIdx alert } cell.row commit
  | .cancel alert => some { c with alerts := c.alerts.eraseIdx alert }
  | .notify => some (reloadData { c with viewModel := (c.viewModel.fetchData c.manager).1 })
  | .addObject object commit => do
    let (manager, _) ← c.manager.addObject object commit
    return { c with manager }
  | .deleteObject key commit => do
    let (manager, _) ← c.manager.deleteObject key commit
    return { c with manager }
  | .deleteObjects keys commit => do
    let (manager, _) ← c.manager.deleteObjects keys commit
    return { c with manager }

/-- The table asks for rows it has, and only a displayed cell and a pending alert can
be tapped. While a write is open nothing is notified. -/
def Allowed : FavoritesEvent → Prop
  | .cellForRowAt row | .didEndDisplaying row => row < c.cells.length
  | .deleteNewsButtonTouchUpInside row => (c.cells[row]?.join).isSome = true
  | .ok alert _ | .cancel alert => alert < c.alerts.length
  | .notify => c.manager.isInWriteTransaction = false
  | .addObject _ _ | .deleteObject _ _ | .deleteObjects _ _ => True

end Handlers

instance (c : FavoritesDetailViewController) : (e : FavoritesEvent) → Decidable (c.Allowed e)
  | .cellForRowAt row | .didEndDisplaying row => inferInstanceAs (Decidable (row < c.cells.length))
  | .deleteNewsButtonTouchUpInside row =>
    inferInstanceAs (Decidable ((c.cells[row]?.join).isSome = true))
  | .ok alert _ | .cancel alert => inferInstanceAs (Decidable (alert < c.alerts.length))
  | .notify => inferInstanceAs (Decidable (c.manager.isInWriteTransaction = false))
  | .addObject _ _ | .deleteObject _ _ | .deleteObjects _ _ => .isTrue trivial

def machine : Machine FavoritesDetailViewController FavoritesEvent where
  allowed := Allowed
  step := handle

instance (c : FavoritesDetailViewController) (e : FavoritesEvent) :
    Decidable (machine.allowed c e) := inferInstanceAs (Decidable (c.Allowed e))

/-- The screen as it opens on a category of any store. It observes the store, which it
cannot while a write is open. -/
def Opened (c : FavoritesDetailViewController) : Prop :=
  ∃ manager categoryType, manager.isInWriteTransaction = false ∧
    c = setupData manager categoryType

/-! ## What is to hold -/

/-- `news` was stored, and it is all that is gone from the store. The rows left may be in
another order. -/
def Removed (m : RealmManager) (news : Accessor) (m' : RealmManager) : Prop :=
  news ∈ m.getObjects ∧
    m'.storedNews.Perm (m.storedNews.filter fun row => decide (row.accessor ≠ news))

/-- Answering any pending alert, and tapping any displayed cell and answering it, removes
the article that the cell displays. Being defined, it does not trap. -/
structure TapsDelete (c : FavoritesDetailViewController) : Prop where
  alerts : ∀ (alert : Nat) cell, c.alerts[alert]? = some cell →
    ∃ t, c.handle (.ok alert .succeeds) = some t ∧ Removed c.manager cell.news t.manager
  cells : ∀ (row : Nat) cell, c.cells[row]? = some (some cell) →
    ∃ t u, c.handle (.deleteNewsButtonTouchUpInside row) = some t ∧
      t.handle (.ok c.alerts.length .succeeds) = some u ∧
      Removed c.manager cell.news u.manager

/-- The cell is displayed, or its alert is pending. -/
def Shown (c : FavoritesDetailViewController) (cell : FavoritesDetailCellViewModel) : Prop :=
  cell ∈ c.alerts ∨ some cell ∈ c.cells

/-- A deletion leaves no cell displayed below its row and no other alert at or below it. A
notification finds the article of every pending alert in its row. No displayed article
is deleted from elsewhere. A write whose commit throws leaves no cell shown, and no cell
is set up afterwards. -/
def Steady (c : FavoritesDetailViewController) : FavoritesEvent → Prop
  | .cellForRowAt _ => c.manager.isInWriteTransaction = false
  | .ok alert commit => ∀ cell, c.alerts[alert]? = some cell →
    (∀ row, cell.row < row ∨ commit.isThrown = true ∧ row < cell.row →
      (c.cells[row]?.join) = none) ∧
    ∀ (j : Nat) other, j ≠ alert → c.alerts[j]? = some other →
      other.row < cell.row ∧ commit.isThrown = false
  | .notify => ∀ cell ∈ c.alerts,
    (c.viewModel.fetchData c.manager).1.articles[cell.row]? = some cell.news
  | .addObject _ commit => ∀ cell, c.Shown cell → commit.isThrown = false
  | .deleteObject key commit => ∀ cell, c.Shown cell →
    cell.news.urlNews ≠ key ∧ commit.isThrown = false
  | .deleteObjects keys commit => ∀ cell, c.Shown cell →
    cell.news.urlNews ∉ keys ∧ commit.isThrown = false
  | _ => True

/-- The row of the cell holds the article it displays, the article is stored, and it can be
deleted. -/
structure Current (c : FavoritesDetailViewController) (cell : FavoritesDetailCellViewModel) :
    Prop where
  listed : c.viewModel.articles[cell.row]? = some cell.news
  attached : c.manager.getObjectForKey cell.news.urlNews = some cell.news
  outside : c.manager.isInWriteTransaction = false

section Deletion

variable {m m' : RealmManager} {a news : Accessor} {commit : Commit} {row : Nat}
  {completions : Completions}

/-- The store after a stored article is deleted. -/
def deleted (m : RealmManager) (a : Accessor) (commit : Commit) : RealmManager :=
  ⟨m.realm.map fun realm => (realm.delete a).commitWrite commit⟩

theorem deleteObject_eq (outside : m.isInWriteTransaction = false)
    (attached : m.getObjectForKey a.urlNews = some a) (commit : Commit) :
    m.deleteObject a.urlNews commit =
      some (deleted m a commit, (true, "") :: commit.completions) := by
  obtain ⟨_ | realm⟩ := m
  · cases attached
  · exact RealmManager.deleteObject_of_object outside attached commit

theorem isInWriteTransaction_deleted (outside : m.isInWriteTransaction = false)
    (attached : m.getObjectForKey a.urlNews = some a) (commit : Commit) :
    (deleted m a commit).isInWriteTransaction = commit.isThrown := by
  obtain ⟨_ | realm⟩ := m
  · cases attached
  · rfl

/-- Deleting a stored article drops its row. -/
theorem storedNews_deleted (attached : m.getObjectForKey a.urlNews = some a) (commit : Commit) :
    (deleted m a commit).storedNews.Perm
      (m.storedNews.filter fun row => decide (row.accessor ≠ a)) := by
  obtain ⟨_ | realm⟩ := m
  · cases attached
  · have stored : realm.isAttached a = true := decide_eq_true attached
    have rows : (deleted ⟨some realm⟩ a commit).storedNews =
        (realm.news.erase a.urlNews).rows := by
      simp [deleted, RealmManager.storedNews, Realm.delete_of_attached stored]
    have filtered : (realm.news.rows.filter fun row => decide (row.urlNews ≠ a.urlNews)) =
        realm.news.rows.filter fun row => decide (row.accessor ≠ a) := by
      apply List.filter_congr
      intro row mem
      have own : realm.objectForPrimaryKey row.urlNews = some row.accessor :=
        RealmManager.getObjectForKey_stored (m := ⟨some realm⟩) mem
      have attached : realm.objectForPrimaryKey a.urlNews = some a := attached
      simp only [decide_eq_decide, not_iff_not]
      constructor
      · intro same
        rw [same, attached] at own
        exact (Option.some.inj own).symm
      · rintro rfl
        rfl
    rw [rows]
    exact filtered ▸ realm.news.erase_perm a.urlNews

theorem mem_getObjects (attached : m.getObjectForKey a.urlNews = some a) : a ∈ m.getObjects := by
  obtain ⟨_ | realm⟩ := m
  · cases attached
  · obtain ⟨row, found, rfl⟩ := Option.map_eq_some_iff.mp attached
    exact List.mem_map_of_mem (Table.find_eq_some_iff.mp found).1

/-- The article that is gone is the one that was deleted. -/
theorem removed_deleted_iff (attached : m.getObjectForKey a.urlNews = some a) :
    Removed m news (deleted m a commit) ↔ news = a := by
  constructor
  · rintro ⟨was, left⟩
    by_contra other
    obtain ⟨row, stored, rfl⟩ : ∃ row ∈ m.storedNews, row.accessor = news := by
      obtain ⟨_ | realm⟩ := m
      · cases was
      · exact List.mem_map.mp was
    have kept : row ∈ m.storedNews.filter fun row => decide (row.accessor ≠ a) :=
      List.mem_filter.mpr ⟨stored, decide_eq_true other⟩
    rw [← (storedNews_deleted attached commit).mem_iff, left.mem_iff, List.mem_filter] at kept
    simp at kept
  · rintro rfl
    exact ⟨mem_getObjects attached, storedNews_deleted attached commit⟩

theorem attached_addObject (attached : m.getObjectForKey a.urlNews = some a) {object : NewsObject}
    (wrote : m.addObject object commit = some (m', completions)) :
    m'.getObjectForKey a.urlNews = some a := by
  obtain ⟨-, rfl, -⟩ | ⟨realm, opened, -, rfl, -⟩ := RealmManager.write_some wrote
  · exact attached
  · obtain ⟨_⟩ := m
    obtain rfl : _ = some realm := opened
    exact Realm.object_create_of_some attached object

variable {c t : FavoritesDetailViewController} {cell : FavoritesDetailCellViewModel}

/-- A deletion that does not trap finds a stored article in its row, and no write open. -/
theorem listed_of_removeNews (removed : c.removeNews row commit = some t) :
    ∃ a, c.viewModel.articles[row]? = some a ∧ c.manager.getObjectForKey a.urlNews = some a ∧
      c.manager.isInWriteTransaction = false := by
  simp only [removeNews, FavoritesDetailViewModel.removeNewsInFavorites, Option.bind_eq_bind,
    Option.bind_eq_some_iff] at removed
  obtain ⟨_, ⟨a, found, key, read, _, wrote, _⟩, _⟩ := removed
  exact ⟨a, found, (NewsObject.urlNews_eq_some_iff.mp read).2 a rfl,
    (RealmManager.write_transaction wrote).1⟩

/-- The screen after the deletion an alert asked about. -/
def answered (c : FavoritesDetailViewController) (alert row : Nat) (a : Accessor)
    (commit : Commit) : FavoritesDetailViewController where
  manager := deleted c.manager a commit
  viewModel := { c.viewModel with articles := c.viewModel.articles.eraseIdx row }
  cells := c.cells.eraseIdx row
  alerts := c.alerts.eraseIdx alert

theorem removeNews_eq (synced : c.cells.length = c.viewModel.articles.length)
    (found : c.viewModel.articles[row]? = some a)
    (attached : c.manager.getObjectForKey a.urlNews = some a)
    (outside : c.manager.isInWriteTransaction = false) (commit : Commit) :
    c.removeNews row commit = some { c with
      manager := deleted c.manager a commit
      viewModel := { c.viewModel with articles := c.viewModel.articles.eraseIdx row }
      cells := c.cells.eraseIdx row } := by
  have bound : row < c.viewModel.articles.length := (List.getElem?_eq_some_iff.mp found).1
  have readable : (NewsObject.managed a).Readable c.manager := by
    rintro _ ⟨⟩
    exact attached
  have shorter : row < c.cells.length ∧
      (c.viewModel.articles.eraseIdx row).length + 1 = c.cells.length := by
    rw [List.length_eraseIdx_of_lt bound]
    omega
  simp [removeNews, removeRow_eq found readable, deleteObject_eq outside attached, deleteRows,
    shorter]

theorem ok_some_iff {alert : Nat} (synced : c.cells.length = c.viewModel.articles.length)
    (pending : c.alerts[alert]? = some cell) :
    c.handle (.ok alert commit) = some t ↔
      ∃ a, c.viewModel.articles[cell.row]? = some a ∧
        c.manager.getObjectForKey a.urlNews = some a ∧
        c.manager.isInWriteTransaction = false ∧ t = c.answered alert cell.row a commit := by
  simp only [handle, pending, Option.bind_eq_bind, Option.bind_some]
  constructor
  · intro removed
    obtain ⟨a, found, attached, outside⟩ := listed_of_removeNews removed
    rw [removeNews_eq (c := { c with alerts := c.alerts.eraseIdx alert }) synced found attached
      outside] at removed
    exact ⟨a, found, attached, outside, (Option.some.inj removed).symm⟩
  · rintro ⟨a, found, attached, outside, rfl⟩
    exact removeNews_eq (c := { c with alerts := c.alerts.eraseIdx alert }) synced found attached
      outside commit

/-- Answering an alert removes the article of its cell exactly when its row still holds it. -/
theorem ok_removes_iff {alert : Nat} (synced : c.cells.length = c.viewModel.articles.length)
    (pending : c.alerts[alert]? = some cell) :
    (∃ t, c.handle (.ok alert .succeeds) = some t ∧ Removed c.manager cell.news t.manager) ↔
      c.Current cell := by
  constructor
  · rintro ⟨t, answer, gone⟩
    obtain ⟨a, found, attached, outside, rfl⟩ := (ok_some_iff synced pending).mp answer
    obtain rfl := (removed_deleted_iff attached).mp gone
    exact ⟨found, attached, outside⟩
  · rintro ⟨listed, attached, outside⟩
    exact ⟨_, (ok_some_iff synced pending).mpr ⟨_, listed, attached, outside, rfl⟩,
      (removed_deleted_iff attached).mpr rfl⟩

theorem tapsDelete_iff (synced : c.cells.length = c.viewModel.articles.length) :
    c.TapsDelete ↔ ∀ cell, c.Shown cell → c.Current cell := by
  have tapped {row : Nat} {cell : FavoritesDetailCellViewModel}
      (displayed : c.cells[row]? = some (some cell)) :
      (∃ t u, c.handle (.deleteNewsButtonTouchUpInside row) = some t ∧
        t.handle (.ok c.alerts.length .succeeds) = some u ∧
        Removed c.manager cell.news u.manager) ↔ c.Current cell := by
    have raised : c.handle (.deleteNewsButtonTouchUpInside row) =
        some { c with alerts := c.alerts ++ [cell] } := by
      simp [handle, displayed]
    simp only [raised, Option.some.injEq, exists_and_left, exists_eq_left']
    rw [show c.Current cell ↔
      FavoritesDetailViewController.Current { c with alerts := c.alerts ++ [cell] } cell from
        ⟨fun h => ⟨h.1, h.2, h.3⟩, fun h => ⟨h.1, h.2, h.3⟩⟩]
    exact ok_removes_iff (c := { c with alerts := c.alerts ++ [cell] }) synced (by simp)
  constructor
  · rintro deletes cell (pending | displayed)
    · obtain ⟨alert, found⟩ := List.mem_iff_getElem?.mp pending
      exact (ok_removes_iff synced found).mp (deletes.alerts alert cell found)
    · obtain ⟨row, found⟩ := List.mem_iff_getElem?.mp displayed
      exact (tapped found).mp (deletes.cells row cell found)
  · intro current
    constructor
    · intro alert cell found
      exact (ok_removes_iff synced found).mpr (current cell (Or.inl (List.mem_of_getElem? found)))
    · intro row cell found
      exact (tapped found).mpr (current cell (Or.inr (List.mem_of_getElem? found)))

end Deletion

/-! ## Steps -/

/-- The table has the rows of the list, and the list has no article twice. -/
structure Tabled (c : FavoritesDetailViewController) : Prop where
  synced : c.cells.length = c.viewModel.articles.length
  distinct : c.viewModel.articles.Nodup

/-- Every displayed cell is in its row, and every cell shown is current. -/
structure Aligned (c : FavoritesDetailViewController) : Prop extends Tabled c where
  inRow : ∀ (row : Nat) cell, c.cells[row]? = some (some cell) → cell.row = row
  current : ∀ cell, c.Shown cell → c.Current cell

section Steps

variable {c t : FavoritesDetailViewController} {cell : FavoritesDetailCellViewModel}

theorem cellForRowAt_some {row : Nat} (asked : c.cellForRowAt row = some t) :
    ∃ news, c.viewModel.articles[row]? = some news ∧
      c.manager.getObjectForKey news.urlNews = some news ∧
      t = { c with cells := c.cells.set row (some ⟨news, row⟩) } := by
  simp only [cellForRowAt, Option.bind_eq_bind, Option.bind_eq_some_iff, Option.pure_def,
    Option.some.injEq] at asked
  obtain ⟨news, found, key, read, rfl⟩ := asked
  exact ⟨news, found, (NewsObject.urlNews_eq_some_iff.mp read).2 news rfl, rfl⟩

theorem deleteButton_some {row : Nat}
    (tapped : c.handle (.deleteNewsButtonTouchUpInside row) = some t) :
    ∃ cell, some cell ∈ c.cells ∧ t = { c with alerts := c.alerts ++ [cell] } := by
  simp only [handle, Option.bind_eq_bind, Option.bind_eq_some_iff, Option.pure_def,
    Option.some.injEq, Option.join_eq_some_iff] at tapped
  obtain ⟨cell, displayed, rfl⟩ := tapped
  exact ⟨cell, List.mem_of_getElem? displayed, rfl⟩

theorem ok_some {alert : Nat} {commit : Commit} (synced : c.cells.length = c.viewModel.articles.length)
    (answer : c.handle (.ok alert commit) = some t) :
    ∃ cell a, c.alerts[alert]? = some cell ∧ c.viewModel.articles[cell.row]? = some a ∧
      c.manager.getObjectForKey a.urlNews = some a ∧
      c.manager.isInWriteTransaction = false ∧ t = c.answered alert cell.row a commit := by
  cases pending : c.alerts[alert]? with
  | none => simp [handle, pending] at answer
  | some cell =>
    obtain ⟨a, found, attached, outside, rfl⟩ := (ok_some_iff synced pending).mp answer
    exact ⟨cell, a, rfl, found, attached, outside, rfl⟩

/-- A write from elsewhere leaves the list and the cells. -/
theorem written_some {written : Option (RealmManager × Completions)}
    (stepped : (written.bind fun outcome => some { c with manager := outcome.1 }) = some t) :
    ∃ manager completions, written = some (manager, completions) ∧ t = { c with manager } := by
  obtain ⟨⟨manager, completions⟩, wrote, returned⟩ := Option.bind_eq_some_iff.mp stepped
  exact ⟨manager, completions, wrote, (Option.some.inj returned).symm⟩

theorem nodup_fetchData {vm : FavoritesDetailViewModel} (m : RealmManager)
    (distinct : vm.articles.Nodup) : (vm.fetchData m).1.articles.Nodup := by
  simp only [FavoritesDetailViewModel.fetchData]
  split
  · exact distinct
  · exact m.nodup_getNewsForCategory _

theorem Tabled.step {e : FavoritesEvent} (h : c.Tabled) (stepped : c.handle e = some t) :
    t.Tabled := by
  cases e with
  | cellForRowAt row =>
    obtain ⟨news, -, -, rfl⟩ := cellForRowAt_some stepped
    exact ⟨List.length_set.trans h.synced, h.distinct⟩
  | didEndDisplaying row =>
    obtain rfl := Option.some.inj stepped
    exact ⟨List.length_set.trans h.synced, h.distinct⟩
  | deleteNewsButtonTouchUpInside row =>
    obtain ⟨_, _, rfl⟩ := deleteButton_some stepped
    exact ⟨h.synced, h.distinct⟩
  | ok alert commit =>
    obtain ⟨cell, a, -, found, -, -, rfl⟩ := ok_some h.synced stepped
    refine ⟨?_, h.distinct.eraseIdx _⟩
    simp only [answered, List.length_eraseIdx, h.synced]
  | cancel alert =>
    obtain rfl := Option.some.inj stepped
    exact ⟨h.synced, h.distinct⟩
  | notify =>
    obtain rfl := Option.some.inj stepped
    exact ⟨List.length_replicate, nodup_fetchData c.manager h.distinct⟩
  | addObject | deleteObject | deleteObjects =>
    obtain ⟨_, _, -, rfl⟩ := written_some stepped
    exact ⟨h.synced, h.distinct⟩

/-- A cell that was shown and whose article is still stored in its row is current. -/
theorem Current.of_same (h : c.Current cell)
    (articles : t.viewModel.articles = c.viewModel.articles) (manager : t.manager = c.manager) :
    t.Current cell where
  listed := articles ▸ h.listed
  attached := manager ▸ h.attached
  outside := manager ▸ h.outside

/-- The cells that a deletion leaves are those above its row, where it meets the condition. -/
theorem above_of_steady {alert : Nat} {commit : Commit} {asked : FavoritesDetailCellViewModel}
    {a : Accessor} (h : c.Aligned) (pending : c.alerts[alert]? = some asked)
    (steady : c.Steady (.ok alert commit))
    (shown : (c.answered alert asked.row a commit).Shown cell) :
    c.Shown cell ∧ cell.row < asked.row ∧ commit.isThrown = false := by
  obtain ⟨below, others⟩ := steady asked pending
  obtain alerted | displayed := shown
  · obtain ⟨j, other, found⟩ := List.mem_eraseIdx_iff_getElem?.mp alerted
    exact ⟨Or.inl (List.mem_of_getElem? found), others j cell other found⟩
  · obtain ⟨row, other, found⟩ := List.mem_eraseIdx_iff_getElem?.mp displayed
    have position : cell.row = row := h.inRow row cell found
    have there : ¬ (asked.row < row ∨ commit.isThrown = true ∧ row < asked.row) := by
      intro hidden
      have none := below row hidden
      simp [found] at none
    refine ⟨Or.inr (List.mem_of_getElem? found), by omega, ?_⟩
    cases thrown : commit.isThrown with
    | false => rfl
    | true => exact absurd (Or.inr ⟨thrown, by omega⟩) there

theorem Aligned.ok_current_iff {alert : Nat} {commit : Commit} (h : c.Aligned)
    (stepped : c.handle (.ok alert commit) = some t) :
    (∀ cell, t.Shown cell → t.Current cell) ↔ c.Steady (.ok alert commit) := by
  obtain ⟨asked, a, pending, found, attached, outside, rfl⟩ := ok_some h.synced stepped
  -- a cell that is current stays listed exactly where its row lies above the deleted one
  have listed {cell : FavoritesDetailCellViewModel} (was : c.Shown cell) :
      (c.viewModel.articles.eraseIdx asked.row)[cell.row]? = some cell.news ↔
        cell.row < asked.row :=
    getElem?_eraseIdx_iff h.distinct (h.current cell was).listed
  have after : (c.answered alert asked.row a commit).manager.isInWriteTransaction =
      commit.isThrown := isInWriteTransaction_deleted outside attached commit
  constructor
  · intro current other same
    obtain rfl := Option.some.inj (pending.symm.trans same)
    constructor
    · intro row hidden
      cases displayed : c.cells[row]?.join with
      | none => rfl
      | some cell =>
        have there : c.cells[row]? = some (some cell) := Option.join_eq_some_iff.mp displayed
        have kept : some cell ∈ c.cells.eraseIdx asked.row :=
          List.mem_eraseIdx_iff_getElem?.mpr ⟨row, by omega, there⟩
        have now := current cell (Or.inr kept)
        have above := (listed (Or.inr (List.mem_of_getElem? there))).mp now.listed
        have position : cell.row = row := h.inRow row cell there
        obtain under | ⟨thrown, -⟩ := hidden
        · omega
        · cases thrown.symm.trans (after.symm.trans now.outside)
    · intro j other apart there
      have kept : other ∈ c.alerts.eraseIdx alert :=
        List.mem_eraseIdx_iff_getElem?.mpr ⟨j, apart, there⟩
      have now := current other (Or.inl kept)
      exact ⟨(listed (Or.inl (List.mem_of_getElem? there))).mp now.listed,
        after.symm.trans now.outside⟩
  · intro steady cell shown
    obtain ⟨was, above, through⟩ := above_of_steady h pending steady shown
    have before := h.current cell was
    refine ⟨(listed was).mpr above, ?_, after.trans through⟩
    have other : cell.news.urlNews ≠ a.urlNews := by
      intro same
      have one : cell.news = a :=
        Option.some.inj ((same ▸ before.attached).symm.trans attached)
      have bound := (List.getElem?_eq_some_iff.mp before.listed).1
      have rows := (List.getElem?_inj bound h.distinct).mp
        (before.listed.trans (one ▸ found.symm))
      omega
    exact (RealmManager.getObjectForKey_deleteObject (deleteObject_eq outside attached commit)
      _).trans ((if_neg other).trans before.attached)

/-- A write from elsewhere leaves the list and the cells, so only the store decides. -/
theorem Aligned.write_current_iff {m : RealmManager} {P : FavoritesDetailCellViewModel → Prop}
    (h : c.Aligned)
    (kept : ∀ cell, c.Shown cell →
      (m.getObjectForKey cell.news.urlNews = some cell.news ∧ m.isInWriteTransaction = false ↔
        P cell)) :
    (∀ cell, Shown { c with manager := m } cell → Current { c with manager := m } cell) ↔
      ∀ cell, c.Shown cell → P cell := by
  constructor
  · intro current cell shown
    have now := current cell shown
    exact (kept cell shown).mp ⟨now.attached, now.outside⟩
  · intro all cell shown
    obtain ⟨attached, outside⟩ := (kept cell shown).mpr (all cell shown)
    exact ⟨(h.current cell shown).listed, attached, outside⟩

/-- A write with a cell shown leaves itself open exactly where its commit throws. -/
theorem Aligned.write_transaction_iff {m : RealmManager} {change : Realm → Realm × Completions}
    {commit : Commit} {completions : Completions} (h : c.Aligned) (shown : c.Shown cell)
    (wrote : c.manager.write commit change = some (m, completions)) :
    m.isInWriteTransaction = false ↔ commit.isThrown = false := by
  have stored := (h.current cell shown).attached
  have opened : c.manager.realm.isSome = true := by
    cases opened : c.manager.realm with
    | none => simp [RealmManager.getObjectForKey, opened] at stored
    | some realm => rfl
  rw [(RealmManager.write_transaction wrote).2, opened, Bool.true_and]

/-- A change that shows no other cell, and leaves the list and the store. -/
theorem Aligned.current_of_same (h : c.Aligned)
    (articles : t.viewModel.articles = c.viewModel.articles) (manager : t.manager = c.manager)
    (shown : ∀ cell, t.Shown cell → c.Shown cell) : ∀ cell, t.Shown cell → t.Current cell := by
  intro cell now
  exact (h.current cell (shown cell now)).of_same articles manager

theorem Aligned.addObject_current_iff {object : NewsObject} {commit : Commit} (h : c.Aligned)
    (stepped : c.handle (.addObject object commit) = some t) :
    (∀ cell, t.Shown cell → t.Current cell) ↔ c.Steady (.addObject object commit) := by
  obtain ⟨m, completions, wrote, rfl⟩ := written_some stepped
  apply h.write_current_iff
  intro cell shown
  have attached := attached_addObject (h.current cell shown).attached wrote
  rw [h.write_transaction_iff shown wrote]
  exact and_iff_right attached

theorem Aligned.deleteObject_current_iff {key : Option String} {commit : Commit} (h : c.Aligned)
    (stepped : c.handle (.deleteObject key commit) = some t) :
    (∀ cell, t.Shown cell → t.Current cell) ↔ c.Steady (.deleteObject key commit) := by
  obtain ⟨m, completions, wrote, rfl⟩ := written_some stepped
  apply h.write_current_iff
  intro cell shown
  rw [RealmManager.getObjectForKey_deleteObject wrote, (h.current cell shown).attached,
    h.write_transaction_iff shown wrote]
  by_cases same : cell.news.urlNews = key <;> simp [same]

theorem Aligned.deleteObjects_current_iff {keys : List (Option String)} {commit : Commit}
    (h : c.Aligned) (stepped : c.handle (.deleteObjects keys commit) = some t) :
    (∀ cell, t.Shown cell → t.Current cell) ↔ c.Steady (.deleteObjects keys commit) := by
  obtain ⟨m, completions, wrote, rfl⟩ := written_some stepped
  have written := wrote
  simp only [RealmManager.deleteObjects] at written
  apply h.write_current_iff
  intro cell shown
  rw [RealmManager.getObjectForKey_deleteObjects wrote, (h.current cell shown).attached,
    h.write_transaction_iff shown written]
  by_cases gone : cell.news.urlNews ∈ keys <;> simp [gone]

theorem Aligned.cellForRowAt_current_iff {row : Nat} (h : c.Aligned)
    (stepped : c.handle (.cellForRowAt row) = some t) :
    (∀ cell, t.Shown cell → t.Current cell) ↔ c.Steady (.cellForRowAt row) := by
  obtain ⟨news, listed, attached, rfl⟩ := cellForRowAt_some stepped
  constructor
  · intro current
    have bound : row < c.cells.length := h.synced.symm ▸ (List.getElem?_eq_some_iff.mp listed).1
    have there : (c.cells.set row (some ⟨news, row⟩))[row]? = some (some ⟨news, row⟩) :=
      List.getElem?_set_self bound
    exact (current ⟨news, row⟩ (Or.inr (List.mem_of_getElem? there))).outside
  · rintro outside cell (pending | displayed)
    · exact (h.current cell (Or.inl pending)).of_same rfl rfl
    · obtain old | same := List.mem_or_eq_of_mem_set displayed
      · exact (h.current cell (Or.inr old)).of_same rfl rfl
      · obtain rfl := Option.some.inj same
        exact ⟨listed, attached, outside⟩

/-- **One event** keeps every shown cell current exactly where it meets the condition. -/
theorem Aligned.current_iff {e : FavoritesEvent} (h : c.Aligned) (stepped : c.handle e = some t) :
    (∀ cell, t.Shown cell → t.Current cell) ↔ c.Steady e := by
  cases e with
  | cellForRowAt row => exact h.cellForRowAt_current_iff stepped
  | didEndDisplaying row =>
    obtain rfl := Option.some.inj stepped
    refine ⟨fun _ => trivial, fun _ => h.current_of_same rfl rfl ?_⟩
    rintro cell (pending | displayed)
    · exact Or.inl pending
    · obtain old | none := List.mem_or_eq_of_mem_set displayed
      · exact Or.inr old
      · cases none
  | deleteNewsButtonTouchUpInside row =>
    obtain ⟨tapped, there, rfl⟩ := deleteButton_some stepped
    refine ⟨fun _ => trivial, fun _ => h.current_of_same rfl rfl ?_⟩
    rintro cell (pending | displayed)
    · obtain old | new := List.mem_append.mp pending
      · exact Or.inl old
      · obtain rfl := List.mem_singleton.mp new
        exact Or.inr there
    · exact Or.inr displayed
  | ok alert commit => exact h.ok_current_iff stepped
  | cancel alert =>
    obtain rfl := Option.some.inj stepped
    refine ⟨fun _ => trivial, fun _ => h.current_of_same rfl rfl ?_⟩
    rintro cell (pending | displayed)
    · exact Or.inl (List.mem_of_mem_eraseIdx pending)
    · exact Or.inr displayed
  | notify =>
    obtain rfl := Option.some.inj stepped
    constructor
    · intro current cell pending
      exact (current cell (Or.inl pending)).listed
    · rintro steady cell (pending | displayed)
      · have before := h.current cell (Or.inl pending)
        exact ⟨steady cell pending, before.attached, before.outside⟩
      · cases List.eq_of_mem_replicate displayed
  | addObject object commit => exact h.addObject_current_iff stepped
  | deleteObject key commit => exact h.deleteObject_current_iff stepped
  | deleteObjects keys commit => exact h.deleteObjects_current_iff stepped

theorem Aligned.inRow_step {e : FavoritesEvent} (h : c.Aligned) (steady : c.Steady e)
    (stepped : c.handle e = some t) {row : Nat} (displayed : t.cells[row]? = some (some cell)) :
    cell.row = row := by
  cases e with
  | cellForRowAt asked =>
    obtain ⟨news, -, -, rfl⟩ := cellForRowAt_some stepped
    rw [List.getElem?_set] at displayed
    split at displayed
    · rename_i same
      split at displayed
      · obtain rfl := Option.some.inj (Option.some.inj displayed)
        exact same
      · cases displayed
    · exact h.inRow row cell displayed
  | didEndDisplaying gone =>
    obtain rfl := Option.some.inj stepped
    rw [List.getElem?_set] at displayed
    split at displayed
    · split at displayed <;> cases displayed
    · exact h.inRow row cell displayed
  | ok alert commit =>
    obtain ⟨asked, a, pending, -, -, -, rfl⟩ := ok_some h.synced stepped
    simp only [answered] at displayed
    by_cases above : row < asked.row
    · rw [List.getElem?_eraseIdx_of_lt above] at displayed
      exact h.inRow row cell displayed
    · rw [List.getElem?_eraseIdx_of_ge (by omega)] at displayed
      have none := (steady asked pending).1 (row + 1) (Or.inl (by omega))
      simp [displayed] at none
  | notify =>
    obtain rfl := Option.some.inj stepped
    cases List.eq_of_mem_replicate (List.mem_of_getElem? displayed)
  | deleteNewsButtonTouchUpInside tapped =>
    obtain ⟨_, _, rfl⟩ := deleteButton_some stepped
    exact h.inRow row cell displayed
  | cancel =>
    obtain rfl := Option.some.inj stepped
    exact h.inRow row cell displayed
  | addObject | deleteObject | deleteObjects =>
    obtain ⟨_, _, -, rfl⟩ := written_some stepped
    exact h.inRow row cell displayed

theorem Aligned.step {e : FavoritesEvent} (h : c.Aligned) (steady : c.Steady e)
    (stepped : c.handle e = some t) : t.Aligned where
  toTabled := h.toTabled.step stepped
  inRow _ _ := h.inRow_step steady stepped
  current := (h.current_iff stepped).mpr steady

theorem Opened.aligned (h : Opened c) : c.Aligned := by
  obtain ⟨manager, categoryType, -, rfl⟩ := h
  refine ⟨⟨List.length_replicate, nodup_fetchData manager List.nodup_nil⟩, ?_, ?_⟩
  · intro row cell displayed
    cases List.eq_of_mem_replicate (List.mem_of_getElem? displayed)
  · rintro cell (pending | displayed)
    · cases pending
    · cases List.eq_of_mem_replicate displayed

/-- **A displayed cell deletes its article** in every state of a run whose events all meet
the condition, and an event that does not leaves a cell that deletes another or traps. -/
theorem taps_delete_displayed (h : (machine.given Steady).Reachable Opened c) :
    c.TapsDelete ∧ ∀ e t, c.handle e = some t → (t.TapsDelete ↔ c.Steady e) := by
  have aligned : c.Aligned := by
    apply h.invariant Aligned (fun _ opened => opened.aligned)
    intro c e t _ before allowed stepped
    exact before.step allowed.2 stepped
  refine ⟨(tapsDelete_iff aligned.synced).mpr aligned.current, ?_⟩
  intro e t stepped
  rw [tapsDelete_iff (aligned.toTabled.step stepped).synced]
  exact aligned.current_iff stepped

end Steps

/-! ## Two bookmarks of one category -/

def venusArticle : News :=
  { titleNews := some "Venus", urlNews := some "https://a.example/venus",
    categoryNews := some "general" }

/-- A category with two bookmarks as it opens. -/
def twoBookmarks : FavoritesDetailViewController :=
  setupData ⟨some ((({} : Realm).create (.unmanaged Bookmarks.homeArticle)).create
    (.unmanaged venusArticle))⟩ .us

theorem twoBookmarks_opened : Opened twoBookmarks := ⟨_, _, rfl, rfl⟩

/-- The button of the last cell is tapped. -/
def lastTapped : FavoritesDetailViewController :=
  (machine.run twoBookmarks
    [.cellForRowAt 0, .cellForRowAt 1, .deleteNewsButtonTouchUpInside 1]).getD twoBookmarks

theorem lastTapped_reachable : (machine.given Steady).Reachable Opened lastTapped := by
  have opened : (machine.given Steady).Reachable Opened twoBookmarks := .start twoBookmarks_opened
  have first := opened.next (e := FavoritesEvent.cellForRowAt 0) ⟨by decide, rfl⟩ rfl
  have second := first.next (e := FavoritesEvent.cellForRowAt 1) ⟨by decide, rfl⟩ rfl
  exact second.next (e := FavoritesEvent.deleteNewsButtonTouchUpInside 1) ⟨by decide, trivial⟩ rfl

theorem taps_delete_displayed_last : lastTapped.TapsDelete ∧
    ∃ t, lastTapped.handle (.ok 0 .succeeds) = some t ∧ t.TapsDelete := by
  obtain ⟨deletes, step⟩ := taps_delete_displayed lastTapped_reachable
  obtain ⟨t, answer, _⟩ := deletes.alerts 0 ⟨⟨1, venusArticle.urlNews⟩, 1⟩ (by decide)
  refine ⟨deletes, t, answer, (step _ t answer).mpr ?_⟩
  intro cell pending
  obtain rfl : (⟨⟨1, venusArticle.urlNews⟩, 1⟩ : FavoritesDetailCellViewModel) = cell :=
    Option.some.inj pending
  constructor
  · rintro row (below | ⟨thrown, -⟩)
    · have none : lastTapped.cells[row]? = none :=
        List.getElem?_eq_none (show lastTapped.cells.length ≤ row from below)
      rw [none]
      rfl
    · cases thrown
  · intro j other apart there
    have one := List.getElem?_eq_some_iff.mp there
    have : j < 1 := one.1
    omega

/-- The first of the two is deleted, and nothing has told the table yet. -/
def firstDeleted : FavoritesDetailViewController :=
  (machine.run twoBookmarks
    [.cellForRowAt 0, .cellForRowAt 1, .deleteNewsButtonTouchUpInside 0,
      .ok 0 .succeeds]).getD twoBookmarks

theorem next_tap_traps :
    ¬ ∀ c, machine.Reachable Opened c → c.TapsDelete := by
  intro deletes
  have reached : machine.Reachable Opened firstDeleted :=
    Machine.reachable_getD _ twoBookmarks_opened (by decide)
  obtain ⟨t, u, tapped, answer, _⟩ := (deletes firstDeleted reached).cells 0
    ⟨⟨1, venusArticle.urlNews⟩, 1⟩ (by decide)
  have trap : ((firstDeleted.handle (.deleteNewsButtonTouchUpInside 0)).bind
      (·.handle (.ok 0 .succeeds))) = none := by decide
  rw [tapped, Option.bind_some] at trap
  cases trap.symm.trans answer

end FavoritesDetailViewController

end NewsReader
