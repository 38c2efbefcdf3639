import NewsReader.Bookmarks.Listing
import NewsReader.Cells

/-!
# The Bookmarks tab

The tab shows how many articles are stored in each category, and a placeholder where none is
stored at all. It reads the store when a cell comes on screen, and again when Realm reports a
change: once as it begins to observe, and after every write that changes the store and is
committed. A write whose commit throws is read and never reported.

* `tab_up_to_date`: where Realm has nothing left to report and no write is open, the numbers
  and the placeholder are those of the store.
-/

namespace NewsReader

structure FavoritesCellViewModel where
  imageName : String
  numberFavorites : Nat := 0
  favoritesType : CategoryType
  deriving DecidableEq, Repr

structure FavoritesCell where
  viewModel : FavoritesCellViewModel
  categoryImageView : String
  numberFavoritesLabel : String
  deriving DecidableEq, Repr

def FavoritesCell.updateUI (vm : FavoritesCellViewModel) : FavoritesCell where
  viewModel := vm
  categoryImageView := vm.imageName
  numberFavoritesLabel := toString vm.numberFavorites

/-- The tab on the store, with the screens opened on it. `hasChanges` says that Realm has a
change to report, which it does unless a write is left open first. -/
structure FavoritesTab where
  bookmarks : Bookmarks
  isObserving : Bool
  hasChanges : Bool
  noArticlesBookmarksViewIsHidden : Bool := false
  numberOfItems : Nat
  cells : Cells FavoritesCell := Table.empty _
  alerts : List String := []
  deriving DecidableEq

inductive FavoritesTabEvent
  | bookmarks (e : BookmarkEvent)
  | observe
  | observeError (localizedDescription : String)
  | cellForItemAt (row : Nat)
  | didEndDisplaying (row : Nat)
  | didSelectItemAt (row : Nat)
  deriving DecidableEq, Repr

namespace FavoritesTab

section Handlers

variable (s : FavoritesTab)

def numberOfCategories : Nat := Bookmarks.categories.length

/-- A store that could not be opened is not observed. -/
def setupUI (bookmarks : Bookmarks) : FavoritesTab where
  bookmarks
  isObserving := bookmarks.manager.realm.isSome
  hasChanges := bookmarks.manager.realm.isSome
  numberOfItems := numberOfCategories

def getFavoritesCellViewModel (m : RealmManager) (row : Nat) : Option FavoritesCellViewModel := do
  let category ← Bookmarks.categories[row]?
  return {
    imageName := category.imageName
    numberFavorites := Bookmarks.getNumberArticlesForCategory m category
    favoritesType := category }

/-- The observer, where the change is no error. -/
def observe : FavoritesTab :=
  { s with
    hasChanges := false
    noArticlesBookmarksViewIsHidden := !Bookmarks.isEmtyBookmarks s.bookmarks.manager
    numberOfItems := numberOfCategories
    cells := Table.empty _ }

def cellForItemAt (row : Nat) : Option FavoritesTab := do
  let vm ← getFavoritesCellViewModel s.bookmarks.manager row
  return { s with cells := s.cells.display row (.updateUI vm) }

def didSelectItemAt (row : Nat) : Option FavoritesTab := do
  let categoryType ← Bookmarks.categories[row]?
  let bookmarks ← s.bookmarks.openCategory categoryType
  return { s with bookmarks }

/-- An event of the screens that are open. -/
def bookmarksHandle (e : BookmarkEvent) : Option FavoritesTab := do
  let bookmarks ← s.bookmarks.handle e
  let hasChanges := s.hasChanges || decide (bookmarks.manager ≠ s.bookmarks.manager ∧
    bookmarks.manager.isInWriteTransaction = false)
  return { s with bookmarks, hasChanges }

def handle : FavoritesTabEvent → Option FavoritesTab
  | .bookmarks e => s.bookmarksHandle e
  | .observe => some s.observe
  | .observeError localizedDescription => some { s with alerts := s.alerts ++ [localizedDescription] }
  | .cellForItemAt row => s.cellForItemAt row
  | .didEndDisplaying row => some { s with cells := s.cells.endDisplaying row }
  | .didSelectItemAt row => s.didSelectItemAt row

end Handlers

def Allowed (s : FavoritesTab) : FavoritesTabEvent → Prop
  | .bookmarks e => s.bookmarks.Allowed e
  | .observe => s.isObserving = true ∧ s.bookmarks.manager.isInWriteTransaction = false
  | .observeError _ => s.isObserving = true
  | .cellForItemAt row | .didSelectItemAt row => row < s.numberOfItems
  | .didEndDisplaying _ => True

instance (s : FavoritesTab) : (e : FavoritesTabEvent) → Decidable (s.Allowed e)
  | .bookmarks e => inferInstanceAs (Decidable (s.bookmarks.Allowed e))
  | .observe => inferInstanceAs (Decidable (
    s.isObserving = true ∧ s.bookmarks.manager.isInWriteTransaction = false))
  | .observeError _ => inferInstanceAs (Decidable (s.isObserving = true))
  | .cellForItemAt row | .didSelectItemAt row =>
    inferInstanceAs (Decidable (row < s.numberOfItems))
  | .didEndDisplaying _ => .isTrue trivial

def machine : Machine FavoritesTab FavoritesTabEvent where
  allowed := Allowed
  step := handle

instance (s : FavoritesTab) (e : FavoritesTabEvent) : Decidable (machine.allowed s e) :=
  inferInstanceAs (Decidable (s.Allowed e))

/-- The tab as it loads, which may be after other screens have changed the store. It cannot
observe one that has a write open. -/
def Opened (s : FavoritesTab) : Prop :=
  ∃ bookmarks, Bookmarks.machine.Reachable Bookmarks.Launched bookmarks ∧
    bookmarks.manager.isInWriteTransaction = false ∧ s = setupUI bookmarks

/-! ## What is shown -/

/-- The number of articles stored in a category. -/
def stored (m : RealmManager) (category : CategoryType) : Nat :=
  m.storedNews.countP fun row => decide (row.record.categoryNews = some category.param)

/-- The cell has the picture of its category, and the number of articles stored in it. -/
def Shows (m : RealmManager) (row : Nat) (cell : FavoritesCell) : Prop :=
  ∃ category, CategoryType.allCases[row]? = some category ∧
    cell.categoryImageView = category.imageName ∧
    cell.numberFavoritesLabel = toString (stored m category)

structure UpToDate (s : FavoritesTab) : Prop where
  cells : s.cells.All (Shows s.bookmarks.manager)
  placeholder : s.noArticlesBookmarksViewIsHidden = true ↔ s.bookmarks.manager.storedNews ≠ []

/-- What is kept while Realm has changes to report, too. -/
structure InStep (s : FavoritesTab) : Prop where
  bookmarks : Bookmarks.machine.Reachable Bookmarks.Launched s.bookmarks
  counted : s.numberOfItems = CategoryType.allCases.length
  observing : s.isObserving = s.bookmarks.manager.realm.isSome
  upToDate : s.hasChanges = false → s.bookmarks.manager.isInWriteTransaction = false →
    s.UpToDate

section

variable {s t : FavoritesTab} {m : RealmManager} {row : Nat}

theorem getNumberArticlesForCategory_eq (m : RealmManager) (category : CategoryType) :
    Bookmarks.getNumberArticlesForCategory m category = stored m category := by
  rw [Bookmarks.getNumberArticlesForCategory, m.getNewsForCategoryInRealm_eq, List.length_map,
    stored, List.countP_eq_length_filter]

theorem isEmtyBookmarks_iff (m : RealmManager) :
    Bookmarks.isEmtyBookmarks m = true ↔ m.storedNews = [] := by
  obtain ⟨_ | realm⟩ := m
  · exact iff_of_true rfl rfl
  · simp [Bookmarks.isEmtyBookmarks, RealmManager.getObjects, RealmManager.storedNews]

/-- A cell is set up with what is stored. -/
theorem cellForItemAt_eq (s : FavoritesTab) (bound : row < CategoryType.allCases.length) :
    ∃ cell, s.cellForItemAt row = some { s with cells := s.cells.display row cell } ∧
      Shows s.bookmarks.manager row cell := by
  have found : CategoryType.allCases[row]? = some CategoryType.allCases[row] :=
    List.getElem?_eq_getElem bound
  generalize CategoryType.allCases[row] = category at found
  refine ⟨.updateUI ⟨category.imageName,
    Bookmarks.getNumberArticlesForCategory s.bookmarks.manager category, category⟩, ?_,
    category, found, rfl, ?_⟩
  · simp only [cellForItemAt, getFavoritesCellViewModel, Bookmarks.categories, found,
      Option.bind_eq_bind, Option.bind_some, Option.pure_def]
  · exact congrArg toString (getNumberArticlesForCategory_eq _ _)

/-- Realm reports every change, also of a store that could not be opened, which has none. -/
theorem realm_of_handle {b b' : Bookmarks} {e : BookmarkEvent} (stepped : b.handle e = some b') :
    b'.manager.realm.isSome = b.manager.realm.isSome := by
  obtain ⟨realm, news, _, opened, -, created⟩ |
    ⟨-, same | ⟨realm, accessors, _, opened, deleted⟩⟩ := Bookmarks.handle_store stepped
  · rw [created, opened]
    rfl
  · rw [same]
  · rw [deleted, opened]
    rfl

theorem observe_upToDate (s : FavoritesTab) : s.observe.UpToDate where
  cells := Cells.all_empty
  placeholder := by
    have empty := isEmtyBookmarks_iff s.bookmarks.manager
    simp only [observe, Bool.not_eq_true', ne_eq, ← empty, Bool.not_eq_true]

/-- A change of the store is one to report. -/
theorem InStep.bookmarksHandle (h : s.InStep) {e : BookmarkEvent}
    (allowed : s.bookmarks.Allowed e) (stepped : s.bookmarksHandle e = some t) : t.InStep := by
  obtain ⟨bookmarks, handled, same⟩ := Option.bind_eq_some_iff.mp stepped
  obtain rfl := Option.some.inj same
  refine ⟨h.bookmarks.next allowed handled, h.counted, ?_, ?_⟩
  · rw [realm_of_handle handled]
    exact h.observing
  · intro quiet outside
    obtain ⟨before, unchanged⟩ := Bool.or_eq_false_iff.mp quiet
    have same : bookmarks.manager = s.bookmarks.manager := by
      by_contra changed
      exact of_decide_eq_false unchanged ⟨changed, outside⟩
    obtain ⟨cells, placeholder⟩ := h.upToDate before (same ▸ outside)
    constructor
    · rw [same]
      exact cells
    · rw [same]
      exact placeholder

theorem InStep.handle (h : s.InStep) {e : FavoritesTabEvent} (allowed : s.Allowed e)
    (stepped : s.handle e = some t) : t.InStep := by
  cases e with
  | bookmarks e => exact h.bookmarksHandle allowed stepped
  | observe =>
    obtain rfl := Option.some.inj stepped
    exact ⟨h.bookmarks, rfl, h.observing, fun _ _ => s.observe_upToDate⟩
  | observeError message =>
    obtain rfl := Option.some.inj stepped
    refine ⟨h.bookmarks, h.counted, h.observing, fun quiet outside => ?_⟩
    obtain ⟨cells, placeholder⟩ := h.upToDate quiet outside
    exact ⟨cells, placeholder⟩
  | cellForItemAt row =>
    obtain ⟨cell, asked, shows⟩ := s.cellForItemAt_eq (lt_of_lt_of_eq allowed h.counted)
    obtain rfl := Option.mem_unique asked stepped
    refine ⟨h.bookmarks, h.counted, h.observing, fun quiet outside => ?_⟩
    obtain ⟨cells, placeholder⟩ := h.upToDate quiet outside
    exact ⟨cells.display shows fun _ _ _ was => was, placeholder⟩
  | didEndDisplaying row =>
    obtain rfl := Option.some.inj stepped
    refine ⟨h.bookmarks, h.counted, h.observing, fun quiet outside => ?_⟩
    obtain ⟨cells, placeholder⟩ := h.upToDate quiet outside
    exact ⟨cells.endDisplaying fun _ _ _ was => was, placeholder⟩
  | didSelectItemAt row =>
    obtain ⟨category, -, selected⟩ := Option.bind_eq_some_iff.mp stepped
    obtain ⟨bookmarks, observed, same⟩ := Option.bind_eq_some_iff.mp selected
    obtain rfl := Option.some.inj same
    have opened : Bookmarks.machine.Reachable Bookmarks.Launched bookmarks :=
      h.bookmarks.next (e := BookmarkEvent.openCategory category) trivial observed
    obtain ⟨-, rfl⟩ := Bookmarks.openCategory_some observed
    refine ⟨opened, h.counted, h.observing, fun quiet outside => ?_⟩
    obtain ⟨cells, placeholder⟩ := h.upToDate quiet outside
    exact ⟨cells, placeholder⟩

theorem didSelectItemAt_eq_none_iff (bound : row < CategoryType.allCases.length) :
    s.didSelectItemAt row = none ↔ s.bookmarks.manager.isInWriteTransaction = true := by
  have found : CategoryType.allCases[row]? = some CategoryType.allCases[row] :=
    List.getElem?_eq_getElem bound
  simp only [didSelectItemAt, Bookmarks.categories, found, Option.bind_eq_bind, Option.bind_some,
    Option.bind_eq_none_iff, Bookmarks.openCategory]
  split
  · rename_i inside
    simp [inside]
  · rename_i outside
    simp [outside]

/-- An event of the tab itself traps only where it opens a list inside a write. -/
theorem handle_eq_none_iff (h : s.InStep) {e : FavoritesTabEvent} (allowed : s.Allowed e) :
    s.handle e = none ↔
      (∃ e', e = .bookmarks e' ∧ s.bookmarks.handle e' = none) ∨
      (∃ row, e = .didSelectItemAt row) ∧ s.bookmarks.manager.isInWriteTransaction = true := by
  cases e with
  | bookmarks e =>
    cases handled : s.bookmarks.handle e with
    | none => simp [FavoritesTab.handle, FavoritesTab.bookmarksHandle, handled]
    | some bookmarks => simp [FavoritesTab.handle, FavoritesTab.bookmarksHandle, handled]
  | cellForItemAt row =>
    obtain ⟨cell, asked, -⟩ := s.cellForItemAt_eq (lt_of_lt_of_eq allowed h.counted)
    have runs : s.handle (.cellForItemAt row) ≠ none := by
      rw [FavoritesTab.handle, asked]
      nofun
    simp [runs]
  | didSelectItemAt row =>
    have trapped := didSelectItemAt_eq_none_iff (s := s) (lt_of_lt_of_eq allowed h.counted)
    simp [FavoritesTab.handle, trapped]
  | observe | observeError | didEndDisplaying => simp [FavoritesTab.handle]

theorem opened_inStep (opened : Opened s) : s.InStep := by
  obtain ⟨bookmarks, reached, -, rfl⟩ := opened
  refine ⟨reached, rfl, rfl, ?_⟩
  intro quiet _
  have closed : bookmarks.manager.realm = none := by simpa [setupUI] using quiet
  refine ⟨Cells.all_empty, ?_⟩
  simp [setupUI, RealmManager.storedNews, closed]

theorem reachable_inStep (h : machine.Reachable Opened s) : s.InStep := by
  apply h.invariant InStep (fun _ => opened_inStep)
  intro s e t _ inStep allowed stepped
  exact inStep.handle allowed stepped

/-- **The tab is up to date** where Realm has nothing left to report and no write is open,
whichever screens have changed the store: each cell on screen counts the articles stored in
its category, and the placeholder is shown exactly where nothing is stored. No event of the
tab traps but those of the screens opened on it, and opening a list while a write is open. -/
theorem tab_up_to_date (h : machine.Reachable Opened s) :
    Bookmarks.machine.Reachable Bookmarks.Launched s.bookmarks ∧
    (s.hasChanges = false → s.bookmarks.manager.isInWriteTransaction = false → s.UpToDate) ∧
    ∀ e, s.Allowed e → (s.handle e = none ↔
      (∃ e', e = .bookmarks e' ∧ s.bookmarks.handle e' = none) ∨
      (∃ row, e = .didSelectItemAt row) ∧
        s.bookmarks.manager.isInWriteTransaction = true) := by
  have inStep := reachable_inStep h
  exact ⟨inStep.bookmarks, inStep.upToDate, fun e => handle_eq_none_iff inStep⟩

/-- An article is bookmarked, and the tab is told. -/
theorem tab_up_to_date_homeBookmarked : ∃ s : FavoritesTab,
    s.cells.rows.map (·.cell.numberFavoritesLabel) = ["1", "0"] ∧
    s.noArticlesBookmarksViewIsHidden = true ∧ s.UpToDate := by
  have opened : Opened (setupUI Bookmarks.emptyStore) :=
    ⟨_, .start Bookmarks.emptyStore_launched, rfl, rfl⟩
  have reached : machine.Reachable Opened ((machine.run (setupUI Bookmarks.emptyStore)
      [.observe, .cellForItemAt 0, .bookmarks (.openFromHome Bookmarks.homeArticle),
        .bookmarks (.changeBookMark 0 .succeeds), .observe, .cellForItemAt 0,
        .cellForItemAt 1]).getD (setupUI Bookmarks.emptyStore)) :=
    Machine.reachable_getD _ opened (by decide)
  exact ⟨_, by decide, by decide, (tab_up_to_date reached).2.1 (by decide) (by decide)⟩

end

end FavoritesTab

end NewsReader
