import NewsReader.Bookmarks.DisplayedCells

/-!
# A Bookmarks list on screen

The whole screen of one category: its table with the cells and their questions, the edit
mode with the rows selected in it, the trash button, and the alerts. The table checks at
every deletion and reload that it has been told of as many rows as the list has.

* `table_in_step`: that check never fails, and an event traps exactly where it reads an
  article that is stored no more, answers a question about a row that is gone, or writes
  once a commit has thrown.
-/

namespace NewsReader

inductive BarButtonItem
  | edit | cancel | trash
  deriving DecidableEq, Repr

/-- An alert that waits for a tap, the questions of the cells apart. -/
inductive FavoritesAlert
  | noArticles (message : String)
  | deleteNews
  | notice (message : String)
  deriving DecidableEq, Repr

def FavoritesDetailViewModel.getNewsDetailViewModel (m : RealmManager)
    (vm : FavoritesDetailViewModel) (row : Nat) : Option NewsDetailViewModel := do
  let news ← vm.articles[row]?
  NewsReader.getNewsDetailViewModel m (.managed news)

/-- `selectedRows` are those of `indexPathsForSelectedRows`, and empty where it gives nil. -/
structure FavoritesScreen where
  table : FavoritesDetailViewController
  isEditing : Bool := false
  selectedRows : List Nat := []
  rightBarButtonItems : List BarButtonItem := [.edit]
  alerts : List FavoritesAlert := []
  isPopped : Bool := false
  deriving DecidableEq

/-- What happens to the screen from outside. Leaving the edit mode may clear the selection or
keep it. -/
inductive FavoritesScreenEvent
  | table (e : FavoritesEvent)
  | tapRow (row : Nat)
  | editButtonTouchUpInside (keepsSelection : Bool)
  | deleteNewsButtonTouchUpInside
  | ok (alert : FavoritesAlert) (commit : Commit)
  | cancel (alert : FavoritesAlert)
  | loadImageDone (row : Nat) (isLoaded : Bool)
  | observeError (localizedDescription : String)
  deriving DecidableEq, Repr

namespace FavoritesScreen

section Handlers

variable (s : FavoritesScreen)

/-- What `fetchData` raises where it finds nothing. -/
def fetchAlerts (manager : RealmManager) (vm : FavoritesDetailViewModel) : List FavoritesAlert :=
  match (vm.fetchData manager).2 with
  | (true, _) => []
  | (false, message) => [.noArticles message]

def setupData (manager : RealmManager) (categoryType : CategoryType) : FavoritesScreen where
  table := FavoritesDetailViewController.setupData manager categoryType
  alerts := fetchAlerts manager { categoryType }

/-- What the observer does where the change is no error. Reloading deselects every row. -/
def observe : Option FavoritesScreen := do
  let alerts := s.alerts ++ fetchAlerts s.table.manager s.table.viewModel
  let table ← s.table.handle .notify
  return { s with table, alerts, selectedRows := [] }

/-- The rows that are selected once one is deleted. -/
def rowsAfter (row : Nat) (selectedRows : List Nat) : List Nat :=
  (selectedRows.filter fun r => decide (r ≠ row)).map fun r => if row < r then r - 1 else r

/-- One call of the completion of `removeNewsInFavorites`, the table's rows apart. -/
def removed (row : Nat) (s : FavoritesScreen) (call : Bool × String) : FavoritesScreen :=
  if call.1 then { s with selectedRows := rowsAfter row s.selectedRows }
  else { s with alerts := s.alerts ++ [.notice call.2] }

/-- "Ok" on the question of a cell. -/
def deleteNews (alert : Nat) (commit : Commit) : Option FavoritesScreen := do
  let cell ← s.table.alerts[alert]?
  let table ← s.table.handle (.ok alert commit)
  let (_, _, completions) ←
    s.table.viewModel.removeNewsInFavorites s.table.manager cell.row commit
  return completions.foldl (removed cell.row) { s with table }

def tableHandles : FavoritesEvent → Option FavoritesScreen
  | .ok alert commit => s.deleteNews alert commit
  | .notify => s.observe
  | e => do
    let table ← s.table.handle e
    return { s with table }

/-- The detail screen is made before the edit mode is looked at. -/
def didSelectRowAt (row : Nat) : Option FavoritesScreen := do
  let s := { s with selectedRows := s.selectedRows ++ [row] }
  let _ ← s.table.viewModel.getNewsDetailViewModel s.table.manager row
  if s.isEditing then return s
  else return { s with selectedRows := s.selectedRows.erase row }

/-- A tap on a row that is selected deselects it. -/
def tapRow (row : Nat) : Option FavoritesScreen :=
  if row ∈ s.selectedRows then some { s with selectedRows := s.selectedRows.erase row }
  else s.didSelectRowAt row

def editButtonTouchUpInside (keepsSelection : Bool) : FavoritesScreen :=
  let isEditing := !s.isEditing
  { s with
    isEditing
    selectedRows := if keepsSelection then s.selectedRows else []
    rightBarButtonItems := if isEditing then [.cancel, .trash] else [.edit] }

/-- The table checks the rows, and that the number of rows has gone down by as many. -/
def deleteRows (rows : List Nat) : Option FavoritesScreen :=
  if (∀ row ∈ rows, row < s.table.cells.length) ∧
      s.table.viewModel.articles.length + rows.length = s.table.cells.length then
    some { s with
      table := { s.table with cells := withoutRows s.table.cells rows }
      selectedRows := [] }
  else none

/-- One call of the completion of `removeArticlesInFavorites`. -/
def completion (rows : List Nat) (s : FavoritesScreen) (call : Bool × String) :
    Option FavoritesScreen :=
  if call.1 then s.deleteRows rows else some { s with alerts := s.alerts ++ [.notice call.2] }

/-- "Ok" on the question of the trash button. -/
def deleteSelected (commit : Commit) : Option FavoritesScreen :=
  let selectedRows := s.selectedRows
  if selectedRows = [] then some s
  else do
    let articles ← selectedRows.mapM fun row => s.table.viewModel.articles[row]?
    let (manager, viewModel, completions) ←
      s.table.viewModel.removeArticlesInFavorites s.table.manager articles commit
    completions.foldlM (completion selectedRows)
      { s with table := { s.table with manager, viewModel } }

def ok (alert : FavoritesAlert) (commit : Commit) : Option FavoritesScreen :=
  let s := { s with alerts := s.alerts.erase alert }
  match alert with
  | .noArticles _ => some { s with isPopped := true }
  | .deleteNews => s.deleteSelected commit
  | .notice _ => some s

/-- The table checks the row, and that the number of rows is as before. -/
def reloadRows (row : Nat) : Option FavoritesScreen :=
  if row < s.table.cells.length ∧ s.table.viewModel.articles.length = s.table.cells.length then
    some { s with table := { s.table with cells := s.table.cells.set row none } }
  else none

/-- What `loadImage` of a cell runs when it is done. -/
def loadImageDone (row : Nat) (isLoaded : Bool) : Option FavoritesScreen :=
  if row < s.table.viewModel.articles.length then
    if isLoaded then s.reloadRows row else some s
  else some s

def handle : FavoritesScreenEvent → Option FavoritesScreen
  | .table e => s.tableHandles e
  | .tapRow row => s.tapRow row
  | .editButtonTouchUpInside keepsSelection => some (s.editButtonTouchUpInside keepsSelection)
  | .deleteNewsButtonTouchUpInside => some { s with alerts := s.alerts ++ [.deleteNews] }
  | .ok alert commit => s.ok alert commit
  | .cancel alert => some { s with alerts := s.alerts.erase alert }
  | .loadImageDone row isLoaded => s.loadImageDone row isLoaded
  | .observeError localizedDescription =>
    some { s with alerts := s.alerts ++ [.notice localizedDescription] }

end Handlers

/-- Nothing happens to a screen that is left. Only the question has a "Cancel". -/
def Allowed (s : FavoritesScreen) (e : FavoritesScreenEvent) : Prop :=
  s.isPopped = false ∧ match e with
    | .table e => s.table.Allowed e
    | .tapRow row => row < s.table.cells.length
    | .deleteNewsButtonTouchUpInside => BarButtonItem.trash ∈ s.rightBarButtonItems
    | .ok alert _ => alert ∈ s.alerts
    | .cancel alert => alert = .deleteNews ∧ alert ∈ s.alerts
    | .editButtonTouchUpInside _ | .loadImageDone _ _ | .observeError _ => True

instance (s : FavoritesScreen) (e : FavoritesScreenEvent) : Decidable (s.Allowed e) := by
  unfold Allowed
  cases e <;> infer_instance

def machine : Machine FavoritesScreen FavoritesScreenEvent where
  allowed := Allowed
  step := handle

instance (s : FavoritesScreen) (e : FavoritesScreenEvent) : Decidable (machine.allowed s e) :=
  inferInstanceAs (Decidable (s.Allowed e))

/-- The screen as it opens on a category of any store that has no write open. -/
def Opened (s : FavoritesScreen) : Prop :=
  ∃ manager categoryType, manager.isInWriteTransaction = false ∧ s = setupData manager categoryType

/-! ## What is to hold -/

/-- The row holds an article that is stored. -/
def Stored (s : FavoritesScreen) (row : Nat) : Prop :=
  ∃ a, s.table.viewModel.articles[row]? = some a ∧
    s.table.manager.getObjectForKey a.urlNews = some a

/-- A write is open. -/
abbrev InWrite (s : FavoritesScreen) : Prop := s.table.manager.isInWriteTransaction = true

/-- The event reads an article that is stored no more, or that its row has lost, or it
writes inside a write. -/
def Traps (s : FavoritesScreen) : FavoritesScreenEvent → Prop
  | .table (.cellForRowAt row) => ¬ s.Stored row
  | .table (.ok alert _) => ∀ cell, s.table.alerts[alert]? = some cell →
    ¬ s.Stored cell.row ∨ s.InWrite
  | .table (.addObject _ _) | .table (.deleteObject _ _) | .table (.deleteObjects _ _) => s.InWrite
  | .tapRow row => row ∉ s.selectedRows ∧ ¬ s.Stored row
  | .ok .deleteNews _ => ∃ row ∈ s.selectedRows, ¬ s.Stored row ∨ s.InWrite
  | _ => False

/-- The table has the rows of the list, and the selected rows are rows of it. -/
structure InStep (s : FavoritesScreen) : Prop where
  table : s.table.Tabled
  selected : s.selectedRows.Nodup
  inside : ∀ row ∈ s.selectedRows, row < s.table.cells.length
  buttons : s.rightBarButtonItems = if s.isEditing then [.cancel, .trash] else [.edit]

section Steps

variable {s t : FavoritesScreen} {row : Nat} {rows : List Nat} {commit : Commit}

theorem read_of_stored (stored : s.Stored row) :
    ∃ a, s.table.viewModel.articles[row]? = some a ∧
      (NewsObject.managed a).urlNews s.table.manager = some a.urlNews := by
  obtain ⟨a, found, attached⟩ := stored
  refine ⟨a, found, NewsObject.urlNews_eq_some_iff.mpr ⟨rfl, ?_⟩⟩
  rintro _ ⟨⟩
  exact attached

theorem stored_of_read {a : Accessor} {key : Option String}
    (found : s.table.viewModel.articles[row]? = some a)
    (read : (NewsObject.managed a).urlNews s.table.manager = some key) : s.Stored row :=
  ⟨a, found, (NewsObject.urlNews_eq_some_iff.mp read).2 a rfl⟩

/-! ### The selection -/

theorem nodup_rowsAfter (distinct : rows.Nodup) : (rowsAfter row rows).Nodup := by
  apply (distinct.filter _).map_on
  intro a ha b hb same
  rw [List.mem_filter, decide_eq_true_eq] at ha hb
  obtain ⟨-, ha⟩ := ha
  obtain ⟨-, hb⟩ := hb
  split at same <;> split at same <;> omega

theorem lt_of_mem_rowsAfter {count r : Nat} (inside : ∀ r ∈ rows, r < count) (bound : row < count)
    (mem : r ∈ rowsAfter row rows) : r < count - 1 := by
  obtain ⟨old, kept, rfl⟩ := List.mem_map.mp mem
  obtain ⟨selected, other⟩ := List.mem_filter.mp kept
  have := inside old selected
  have : old ≠ row := of_decide_eq_true other
  split <;> omega

/-- Completions after the first only raise alerts. -/
theorem foldl_errors {later : Completions} (row : Nat)
    (errors : ∀ call ∈ later, call.1 = false) :
    ∃ alerts, later.foldl (removed row) s = { s with alerts } := by
  induction later generalizing s with
  | nil => exact ⟨s.alerts, rfl⟩
  | cons call later ih =>
    obtain ⟨failed, errors⟩ := List.forall_mem_cons.mp errors
    rw [List.foldl_cons, removed, failed]
    exact ih errors

theorem foldlM_errors {later : Completions} (rows : List Nat)
    (errors : ∀ call ∈ later, call.1 = false) :
    ∃ alerts, later.foldlM (completion rows) s = some { s with alerts } := by
  induction later generalizing s with
  | nil => exact ⟨s.alerts, rfl⟩
  | cons call later ih =>
    obtain ⟨failed, errors⟩ := List.forall_mem_cons.mp errors
    rw [List.foldlM_cons, completion, failed]
    exact ih errors

/-! ### Deletions -/

/-- "Ok" on the question of a cell, whose row still holds a stored article. -/
theorem deleteNews_eq (h : s.InStep) {alert : Nat} {cell : FavoritesDetailCellViewModel}
    {a : Accessor} (pending : s.table.alerts[alert]? = some cell)
    (found : s.table.viewModel.articles[cell.row]? = some a)
    (attached : s.table.manager.getObjectForKey a.urlNews = some a)
    (outside : s.table.manager.isInWriteTransaction = false) (commit : Commit) :
    ∃ alerts, s.deleteNews alert commit = some { s with
      table := s.table.answered alert cell.row a commit
      selectedRows := rowsAfter cell.row s.selectedRows
      alerts } := by
  have answer : s.table.handle (.ok alert commit) =
      some (s.table.answered alert cell.row a commit) :=
    (FavoritesDetailViewController.ok_some_iff h.table.synced pending).mpr
      ⟨a, found, attached, outside, rfl⟩
  have readable : (NewsObject.managed a).Readable s.table.manager := by
    rintro _ ⟨⟩
    exact attached
  have wrote := FavoritesDetailViewController.deleteObject_eq outside attached commit
  obtain ⟨alerts, raised⟩ := foldl_errors (s := { s with
    table := s.table.answered alert cell.row a commit
    selectedRows := rowsAfter cell.row s.selectedRows }) cell.row commit.completions_fail
  refine ⟨alerts, ?_⟩
  simp only [deleteNews, pending, answer, removeRow_eq found readable, wrote, Option.map_some,
    Option.bind_eq_bind, Option.bind_some, Option.pure_def, List.foldl_cons, removed, if_true]
  rw [raised]

theorem deleteNews_eq_none_iff (h : s.InStep) {alert : Nat} :
    s.deleteNews alert commit = none ↔
      ∀ cell, s.table.alerts[alert]? = some cell → ¬ s.Stored cell.row ∨ s.InWrite := by
  constructor
  · intro trapped cell pending
    by_contra fine
    obtain ⟨⟨a, found, attached⟩, outside⟩ := by simpa only [not_or, not_not] using fine
    obtain ⟨alerts, deleted⟩ :=
      deleteNews_eq h pending found attached (Bool.eq_false_iff.mpr outside) commit
    cases trapped.symm.trans deleted
  · intro stale
    cases pending : s.table.alerts[alert]? with
    | none => simp [deleteNews, pending]
    | some cell =>
      have trapped : s.table.handle (.ok alert commit) = none := by
        by_contra answered
        obtain ⟨t, answer⟩ := Option.ne_none_iff_exists'.mp answered
        obtain ⟨a, found, attached, outside, -⟩ :=
          (FavoritesDetailViewController.ok_some_iff h.table.synced pending).mp answer
        obtain gone | inside := stale cell pending
        · exact gone ⟨a, found, attached⟩
        · cases outside.symm.trans inside
      simp [deleteNews, pending, trapped]

/-- What is left of the selection, and of the table, once the selected rows are deleted. -/
def withoutSelected (s : FavoritesScreen) (manager : RealmManager) : FavoritesScreen :=
  { s with
    table := { s.table with
      manager
      viewModel := { s.table.viewModel with
        articles := withoutRows s.table.viewModel.articles s.selectedRows }
      cells := withoutRows s.table.cells s.selectedRows }
    selectedRows := [] }

theorem InStep.inside_articles (h : s.InStep) :
    ∀ row ∈ s.selectedRows, row < s.table.viewModel.articles.length := by
  intro row mem
  rw [← h.table.synced]
  exact h.inside row mem

/-- The keys that the selected articles are deleted under. -/
def selectedKeys (s : FavoritesScreen) : List (Option String) :=
  (select s.table.viewModel.articles s.selectedRows).map FavoritesDetailViewModel.bulkKey

/-- The table accepts the deletion of the selected rows. -/
theorem deleteRows_selected (h : s.InStep) (manager : RealmManager) :
    deleteRows { s with table := { s.table with
        manager
        viewModel := { s.table.viewModel with
          articles := withoutRows s.table.viewModel.articles s.selectedRows } } } s.selectedRows =
      some (s.withoutSelected manager) := by
  have length := length_withoutRows h.selected h.inside_articles
  rw [← h.table.synced] at length
  exact if_pos ⟨h.inside, length⟩

/-- Deleting articles that are stored and listed writes once, to the list as well. -/
theorem removeArticles_stored {m : RealmManager} (vm : FavoritesDetailViewModel)
    {articles : List Accessor} (nonempty : articles ≠ [])
    (attached : ∀ a ∈ articles, m.getObjectForKey a.urlNews = some a)
    (outside : m.isInWriteTransaction = false) (commit : Commit) :
    ∃ m', m.deleteObjects (articles.map FavoritesDetailViewModel.bulkKey) commit =
        some (m', (true, "") :: commit.completions) ∧
      vm.removeArticlesInFavorites m articles commit =
        some (m', { vm with articles := articles.foldl List.erase vm.articles },
          (true, "") :: commit.completions) := by
  have readable : ∀ a ∈ articles, (NewsObject.managed a).Readable m := by
    rintro a mem _ ⟨⟩
    exact attached a mem
  obtain ⟨first, rest, rfl⟩ := List.exists_cons_of_ne_nil nonempty
  obtain ⟨realm, opened, -⟩ := Option.bind_eq_some_iff.mp (attached first List.mem_cons_self)
  obtain ⟨_⟩ := m
  obtain rfl : _ = some realm := opened
  have wrote := RealmManager.deleteObjects_of_outside outside
    ((first :: rest).map FavoritesDetailViewModel.bulkKey) commit
  refine ⟨_, wrote, ?_⟩
  rw [removeArticles_eq readable nonempty]
  exact congrArg (Option.map _) wrote

/-- "Ok" on the question of the trash button, where every selected article is stored. -/
theorem deleteSelected_eq (h : s.InStep) (nonempty : s.selectedRows ≠ [])
    (stored : ∀ row ∈ s.selectedRows, s.Stored row)
    (outside : s.table.manager.isInWriteTransaction = false) (commit : Commit) :
    ∃ manager alerts, s.table.manager.deleteObjects s.selectedKeys commit =
        some (manager, (true, "") :: commit.completions) ∧
      s.deleteSelected commit = some { s.withoutSelected manager with alerts } := by
  have attached : ∀ a ∈ select s.table.viewModel.articles s.selectedRows,
      s.table.manager.getObjectForKey a.urlNews = some a := by
    intro a mem
    obtain ⟨row, selected, found⟩ := List.mem_filterMap.mp mem
    obtain ⟨b, found', here⟩ := stored row selected
    exact Option.mem_unique found' found ▸ here
  obtain ⟨manager, wrote, removed⟩ := removeArticles_stored s.table.viewModel
    (select_ne_nil h.inside_articles nonempty) attached outside commit
  rw [foldl_erase_eq_filter h.table.distinct, ← withoutRows_eq_filter h.table.distinct] at removed
  have accepted := deleteRows_selected h manager
  obtain ⟨alerts, ran⟩ :=
    foldlM_errors (s := s.withoutSelected manager) s.selectedRows commit.completions_fail
  refine ⟨manager, alerts, wrote, ?_⟩
  simp only [deleteSelected, if_neg nonempty, mapM_getElem? h.inside_articles, removed,
    Option.bind_eq_bind, Option.bind_some, List.foldlM_cons, completion, if_true]
  exact Option.bind_eq_some_iff.mpr ⟨_, accepted, ran⟩

theorem deleteSelected_eq_none_iff (h : s.InStep) :
    s.deleteSelected commit = none ↔ ∃ row ∈ s.selectedRows, ¬ s.Stored row ∨ s.InWrite := by
  constructor
  · intro trapped
    by_contra fine
    have each : ∀ row ∈ s.selectedRows, s.Stored row ∧ ¬ s.InWrite := by
      intro row mem
      by_contra gone
      exact fine ⟨row, mem, by tauto⟩
    by_cases none : s.selectedRows = []
    · simp [deleteSelected, none] at trapped
    · obtain ⟨row, mem⟩ := List.exists_mem_of_ne_nil _ none
      have outside := Bool.eq_false_iff.mpr (each row mem).2
      obtain ⟨manager, alerts, -, deleted⟩ :=
        deleteSelected_eq h none (fun row mem => (each row mem).1) outside commit
      cases trapped.symm.trans deleted
  · rintro ⟨row, selected, traps⟩
    have nonempty : s.selectedRows ≠ [] := List.ne_nil_of_mem selected
    obtain ⟨a, found⟩ : ∃ a, s.table.viewModel.articles[row]? = some a :=
      ⟨_, List.getElem?_eq_getElem (h.inside_articles row selected)⟩
    by_contra ran
    obtain ⟨t, ran⟩ := Option.ne_none_iff_exists'.mp ran
    simp only [deleteSelected, if_neg nonempty, mapM_getElem? h.inside_articles,
      FavoritesDetailViewModel.removeArticlesInFavorites, Option.bind_eq_bind, Option.bind_some,
      Option.bind_eq_some_iff] at ran
    obtain ⟨_, ⟨keys, read, _, -, _, wrote, -⟩, -⟩ := ran
    obtain stale | inside := traps
    · have unread : (select s.table.viewModel.articles s.selectedRows).mapM
          (fun news => (NewsObject.managed news).urlNews s.table.manager) = none := by
        refine mapM_eq_none_iff.mpr ⟨a, List.mem_filterMap.mpr ⟨row, selected, found⟩, ?_⟩
        by_contra read
        obtain ⟨key, read⟩ := Option.ne_none_iff_exists'.mp read
        exact stale (stored_of_read found read)
      cases unread.symm.trans read
    · simp only [RealmManager.deleteObjects] at wrote
      cases (RealmManager.write_transaction wrote).1.symm.trans inside

theorem InStep.withoutSelected (h : s.InStep) (manager : RealmManager)
    (alerts : List FavoritesAlert) : InStep { s.withoutSelected manager with alerts } where
  table := by
    have list := length_withoutRows h.selected h.inside_articles
    have table := length_withoutRows h.selected h.inside
    have synced := h.table.synced
    constructor
    · change (withoutRows s.table.cells s.selectedRows).length =
        (withoutRows s.table.viewModel.articles s.selectedRows).length
      omega
    · exact h.table.distinct.sublist (withoutRows_sublist _ _)
  selected := List.nodup_nil
  inside := nofun
  buttons := h.buttons

/-! ### Taps and cells -/

theorem cellForRowAt_eq_none_iff : s.table.cellForRowAt row = none ↔ ¬ s.Stored row := by
  constructor
  · intro trapped stored
    obtain ⟨a, found, read⟩ := read_of_stored stored
    simp [FavoritesDetailViewController.cellForRowAt, found, read] at trapped
  · intro stale
    by_contra asked
    obtain ⟨t, asked⟩ := Option.ne_none_iff_exists'.mp asked
    obtain ⟨news, listed, attached, -⟩ := FavoritesDetailViewController.cellForRowAt_some asked
    exact stale ⟨news, listed, attached⟩

theorem getNewsDetailViewModel_eq_none_iff :
    s.table.viewModel.getNewsDetailViewModel s.table.manager row = none ↔ ¬ s.Stored row := by
  constructor
  · intro trapped stored
    obtain ⟨a, found, read⟩ := read_of_stored stored
    simp [FavoritesDetailViewModel.getNewsDetailViewModel, NewsReader.getNewsDetailViewModel, found,
      read] at trapped
  · intro stale
    by_contra made
    obtain ⟨vm, made⟩ := Option.ne_none_iff_exists'.mp made
    obtain ⟨a, found, made⟩ := Option.bind_eq_some_iff.mp made
    obtain ⟨key, read, -⟩ := Option.bind_eq_some_iff.mp made
    exact stale (stored_of_read found read)

theorem tapRow_eq_none_iff :
    s.tapRow row = none ↔ row ∉ s.selectedRows ∧ ¬ s.Stored row := by
  by_cases selected : row ∈ s.selectedRows
  · simp [tapRow, selected]
  · simp only [tapRow, selected, if_false, not_false_eq_true, true_and, didSelectRowAt,
      ← getNewsDetailViewModel_eq_none_iff, Option.bind_eq_bind, Option.bind_eq_none_iff]
    constructor
    · intro trapped
      by_contra made
      obtain ⟨vm, made⟩ := Option.ne_none_iff_exists'.mp made
      have := trapped vm made
      split at this <;> cases this
    · intro unread vm made
      cases unread.symm.trans made

/-- What a tap leaves: the row selected or not, and nothing else. -/
theorem tapRow_some (h : s.InStep) (bound : row < s.table.cells.length)
    (tapped : s.tapRow row = some t) :
    ∃ selectedRows, t = { s with selectedRows } ∧ selectedRows.Nodup ∧
      ∀ r ∈ selectedRows, r < s.table.cells.length := by
  have erased : (s.selectedRows.erase row).Nodup ∧
      ∀ r ∈ s.selectedRows.erase row, r < s.table.cells.length :=
    ⟨h.selected.erase row, fun r mem => h.inside r (List.mem_of_mem_erase mem)⟩
  unfold tapRow at tapped
  split at tapped
  · exact ⟨_, (Option.some.inj tapped).symm, erased⟩
  · rename_i fresh
    obtain ⟨vm, -, tapped⟩ := Option.bind_eq_some_iff.mp tapped
    dsimp only at tapped
    split at tapped
    · refine ⟨_, (Option.some.inj tapped).symm, ?_, ?_⟩
      · exact List.nodup_append.mpr ⟨h.selected, List.nodup_singleton _, by
          rintro a mem b new rfl
          exact fresh (List.mem_singleton.mp new ▸ mem)⟩
      · intro r mem
        obtain old | new := List.mem_append.mp mem
        · exact h.inside r old
        · exact List.mem_singleton.mp new ▸ bound
    · refine ⟨_, (Option.some.inj tapped).symm, ?_⟩
      have undone : (s.selectedRows ++ [row]).erase row = s.selectedRows := by
        rw [List.erase_append_right _ fresh]
        simp
      rw [undone]
      exact ⟨h.selected, h.inside⟩

/-! ### Events -/

/-- Questions and notifications apart, the table keeps its number of rows. -/
theorem cells_length {c c' : FavoritesDetailViewController} {e : FavoritesEvent}
    (question : ∀ alert commit, e ≠ .ok alert commit) (quiet : e ≠ .notify)
    (stepped : c.handle e = some c') : c'.cells.length = c.cells.length := by
  cases e with
  | cellForRowAt row =>
    obtain ⟨news, -, -, rfl⟩ := FavoritesDetailViewController.cellForRowAt_some stepped
    exact List.length_set
  | didEndDisplaying row =>
    obtain rfl := Option.some.inj stepped
    exact List.length_set
  | deleteNewsButtonTouchUpInside row =>
    obtain ⟨cell, -, rfl⟩ := FavoritesDetailViewController.deleteButton_some stepped
    rfl
  | ok alert commit => exact absurd rfl (question alert commit)
  | notify => exact absurd rfl quiet
  | cancel =>
    obtain rfl := Option.some.inj stepped
    rfl
  | addObject | deleteObject | deleteObjects =>
    obtain ⟨_, _, -, rfl⟩ := FavoritesDetailViewController.written_some stepped
    rfl

/-- An event of the table that keeps its rows keeps the screen in step. -/
theorem InStep.setTable (h : s.InStep) {e : FavoritesEvent} {table : FavoritesDetailViewController}
    (question : ∀ alert commit, e ≠ .ok alert commit) (quiet : e ≠ .notify)
    (stepped : s.table.handle e = some table) : InStep { s with table } where
  table := h.table.step stepped
  selected := h.selected
  inside := by
    intro row mem
    rw [cells_length question quiet stepped]
    exact h.inside row mem
  buttons := h.buttons

theorem InStep.observe (h : s.InStep) (observed : s.observe = some t) : t.InStep := by
  have notified : s.table.handle .notify = some t.table := by
    obtain rfl := Option.some.inj observed
    rfl
  obtain rfl := Option.some.inj observed
  exact ⟨h.table.step notified, List.nodup_nil, nofun, h.buttons⟩

theorem InStep.deleteNews (h : s.InStep) {alert : Nat}
    (deleted : s.deleteNews alert commit = some t) : t.InStep := by
  obtain ⟨cell, pending, deleted'⟩ := Option.bind_eq_some_iff.mp deleted
  obtain ⟨table, answer, -⟩ := Option.bind_eq_some_iff.mp deleted'
  obtain ⟨a, found, attached, outside, rfl⟩ :=
    (FavoritesDetailViewController.ok_some_iff h.table.synced pending).mp answer
  obtain ⟨alerts, same⟩ := deleteNews_eq h pending found attached outside commit
  obtain rfl := Option.mem_unique same deleted
  have bound : cell.row < s.table.cells.length := by
    rw [h.table.synced]
    exact (List.getElem?_eq_some_iff.mp found).1
  refine ⟨h.table.step answer, nodup_rowsAfter h.selected, ?_, h.buttons⟩
  intro r mem
  change r < (s.table.cells.eraseIdx cell.row).length
  rw [List.length_eraseIdx_of_lt bound]
  exact lt_of_mem_rowsAfter h.inside bound mem

theorem InStep.deleteSelected (h : s.InStep) (deleted : s.deleteSelected commit = some t) :
    t.InStep := by
  by_cases none : s.selectedRows = []
  · obtain rfl := Option.some.inj ((if_pos none).symm.trans deleted)
    exact h
  · have each : ∀ row ∈ s.selectedRows, s.Stored row ∧ ¬ s.InWrite := by
      intro row mem
      by_contra stale
      cases ((deleteSelected_eq_none_iff h).mpr ⟨row, mem, by tauto⟩).symm.trans deleted
    obtain ⟨row, mem⟩ := List.exists_mem_of_ne_nil _ none
    obtain ⟨manager, alerts, -, same⟩ := deleteSelected_eq h none
      (fun row mem => (each row mem).1) (Bool.eq_false_iff.mpr (each row mem).2) commit
    obtain rfl := Option.mem_unique same deleted
    exact h.withoutSelected manager alerts

/-- An image that comes reloads a row the table has, and no other is asked for. -/
theorem loadImageDone_some (h : s.InStep) (row : Nat) (isLoaded : Bool) :
    ∃ cells, cells.length = s.table.cells.length ∧
      s.loadImageDone row isLoaded = some { s with table := { s.table with cells } } := by
  unfold loadImageDone
  split
  · rename_i bound
    cases isLoaded with
    | false => exact ⟨_, rfl, rfl⟩
    | true =>
      have inside : row < s.table.cells.length := lt_of_lt_of_eq bound h.table.synced.symm
      refine ⟨s.table.cells.set row none, List.length_set, ?_⟩
      rw [if_pos rfl, reloadRows, if_pos ⟨inside, h.table.synced.symm⟩]
  · exact ⟨_, rfl, rfl⟩

/-- A write from elsewhere traps inside a write. -/
theorem written_eq_none_iff {written : Option (RealmManager × Completions)}
    (wrote : written.isSome ↔ s.table.manager.isInWriteTransaction = false) :
    ((written.bind fun outcome => some { s.table with manager := outcome.1 }).bind
      fun table => some { s with table }) = none ↔ s.InWrite := by
  cases written with
  | none => simpa using wrote
  | some outcome => simpa using wrote

theorem tableHandles_eq_none_iff (h : s.InStep) {e : FavoritesEvent} (allowed : s.table.Allowed e) :
    s.tableHandles e = none ↔ s.Traps (.table e) := by
  have carried : ((s.table.handle e).bind fun table => some { s with table }) = none ↔
      s.table.handle e = none := by
    cases s.table.handle e <;> simp
  cases e with
  | cellForRowAt row => exact carried.trans cellForRowAt_eq_none_iff
  | ok alert commit => exact deleteNews_eq_none_iff h
  | notify | didEndDisplaying | cancel => exact iff_of_false nofun id
  | deleteNewsButtonTouchUpInside row =>
    obtain ⟨cell, displayed⟩ := Option.isSome_iff_exists.mp allowed
    refine iff_of_false (fun trapped => ?_) id
    have := carried.mp trapped
    simp [FavoritesDetailViewController.handle, displayed] at this
  | addObject | deleteObject => exact written_eq_none_iff RealmManager.write_isSome_iff
  | deleteObjects => exact written_eq_none_iff RealmManager.deleteObjects_isSome_iff

/-- **One event** traps exactly where it reads what is stored no more, or writes inside a
write. -/
theorem handle_eq_none_iff (h : s.InStep) {e : FavoritesScreenEvent} (allowed : s.Allowed e) :
    s.handle e = none ↔ s.Traps e := by
  cases e with
  | table e => exact tableHandles_eq_none_iff h allowed.2
  | tapRow row => exact tapRow_eq_none_iff
  | loadImageDone row isLoaded =>
    obtain ⟨cells, -, done⟩ := loadImageDone_some h row isLoaded
    exact iff_of_false (fun trapped => nomatch done.symm.trans trapped) id
  | ok alert commit =>
    cases alert with
    | deleteNews =>
      have closed : InStep { s with alerts := s.alerts.erase .deleteNews } :=
        ⟨h.table, h.selected, h.inside, h.buttons⟩
      exact deleteSelected_eq_none_iff closed
    | noArticles | notice => exact iff_of_false nofun id
  | editButtonTouchUpInside | deleteNewsButtonTouchUpInside | cancel | observeError =>
    exact iff_of_false nofun id

/-- **One event** keeps the screen in step. -/
theorem InStep.handle (h : s.InStep) {e : FavoritesScreenEvent} (allowed : s.Allowed e)
    (stepped : s.handle e = some t) : t.InStep := by
  cases e with
  | table e =>
    have carried (question : ∀ alert commit, e ≠ .ok alert commit) (quiet : e ≠ .notify)
        (stepped : ((s.table.handle e).bind fun table => some { s with table }) = some t) :
        t.InStep := by
      obtain ⟨table, handled, same⟩ := Option.bind_eq_some_iff.mp stepped
      obtain rfl := Option.some.inj same
      exact h.setTable question quiet handled
    cases e with
    | ok alert commit => exact h.deleteNews stepped
    | notify => exact h.observe stepped
    | cellForRowAt | didEndDisplaying | deleteNewsButtonTouchUpInside | cancel | addObject
    | deleteObject | deleteObjects => exact carried nofun nofun stepped
  | tapRow row =>
    obtain ⟨selectedRows, rfl, distinct, inside⟩ := tapRow_some h allowed.2 stepped
    exact ⟨h.table, distinct, inside, h.buttons⟩
  | editButtonTouchUpInside keepsSelection =>
    obtain rfl := Option.some.inj stepped
    refine ⟨h.table, ?_, ?_, rfl⟩
    · dsimp only [editButtonTouchUpInside]
      split
      · exact h.selected
      · exact List.nodup_nil
    · dsimp only [editButtonTouchUpInside]
      split
      · exact h.inside
      · exact nofun
  | ok alert commit =>
    have closed : InStep { s with alerts := s.alerts.erase alert } :=
      ⟨h.table, h.selected, h.inside, h.buttons⟩
    cases alert with
    | deleteNews => exact closed.deleteSelected stepped
    | noArticles | notice =>
      obtain rfl := Option.some.inj stepped
      exact ⟨h.table, h.selected, h.inside, h.buttons⟩
  | loadImageDone row isLoaded =>
    obtain ⟨cells, length, done⟩ := loadImageDone_some h row isLoaded
    obtain rfl := Option.mem_unique done stepped
    refine ⟨⟨length.trans h.table.synced, h.table.distinct⟩, h.selected, ?_, h.buttons⟩
    intro r mem
    exact lt_of_lt_of_eq (h.inside r mem) length.symm
  | deleteNewsButtonTouchUpInside | cancel | observeError =>
    obtain rfl := Option.some.inj stepped
    exact ⟨h.table, h.selected, h.inside, h.buttons⟩

theorem opened_inStep (opened : Opened s) : s.InStep := by
  obtain ⟨manager, categoryType, outside, rfl⟩ := opened
  have table : FavoritesDetailViewController.Opened
      (FavoritesDetailViewController.setupData manager categoryType) := ⟨_, _, outside, rfl⟩
  exact ⟨table.aligned.toTabled, List.nodup_nil, nofun, rfl⟩

theorem reachable_inStep (h : machine.Reachable Opened s) : s.InStep := by
  apply h.invariant InStep (fun _ => opened_inStep)
  intro s e t _ inStep allowed stepped
  exact inStep.handle allowed stepped

end Steps

end FavoritesScreen

end NewsReader
