import NewsReader.Cells
import NewsReader.Home.IndexSafety
import NewsReader.Home.Loading

/-!
# What Home shows above its pages

The Home screen with its collection view of categories. The collection view learns its
number of items from `reloadData`, sets a cell up when it comes on screen, and may ask for
any item below that number; the cells on screen are set up anew when a page is shown.

* `categories_in_step`: the cells name the categories, the cell of the page that is shown
  and no other is highlighted, and the collection view adds no trap to those of Home.
-/

namespace NewsReader

def CategoryType.text : CategoryType → String
  | us => "U.S."
  | business => "Business"
  | technology => "Technology"
  | health => "Health"
  | science => "Science"
  | sports => "Sports"
  | entertainment => "Entertainment"

/-- `isEnable` is the highlight of `CategoryCell`. -/
structure CategoryCellViewModel where
  textCategoryString : String
  isEnable : Bool
  deriving DecidableEq, Repr

namespace HomeViewModel

def numberOfCategories (categories : List CategoryType) : Nat := categories.length

def getCategoryCellViewModel (vm : HomeViewModel) (categories : List CategoryType) (row : Nat) :
    Option CategoryCellViewModel := do
  let category ← categories[row]?
  return { textCategoryString := category.text, isEnable := vm.currentPage == row }

end HomeViewModel

/-- `numberOfItems` is what the collection view was last told, and `scrolledTo` where it was
last told to scroll. A cell is taken to be set up whenever it comes on screen: cells that are
set up ahead, or kept while they are off screen, are left out. -/
structure HomeScreen where
  controller : HomeViewController := {}
  numberOfItems : Nat := 0
  cells : Cells CategoryCellViewModel := Table.empty _
  scrolledTo : Nat := 0
  deriving DecidableEq

inductive HomeScreenEvent
  | controller (e : HomeEvent)
  | cellForItemAt (row : Nat)
  | didEndDisplaying (row : Nat)
  deriving DecidableEq

namespace HomeScreen

section Handlers

variable (isURL : String → Bool) (s : HomeScreen)

def getCategoryCellViewModel (row : Nat) : Option CategoryCellViewModel :=
  s.controller.viewModel.getCategoryCellViewModel s.controller.categories row

def reloadData : HomeScreen :=
  { s with
    numberOfItems := HomeViewModel.numberOfCategories s.controller.categories
    cells := Table.empty _ }

/-- The collection view must have the item. -/
def scrollToItem (row : Nat) : Option HomeScreen :=
  if row < s.numberOfItems then some { s with scrolledTo := row } else none

/-- What `scrollToCategory` does to the collection view. -/
def scrollToCategory : Option HomeScreen := do
  let s ← s.scrollToItem s.controller.viewModel.currentPage
  let cells ← (List.range s.controller.categories.length).foldlM
    (Cells.configure s.getCategoryCellViewModel) s.cells
  return { s with cells }

/-- What `fetchDataSetting` does to the collection view. -/
def fetchDataSetting : Option HomeScreen := s.reloadData.scrollToItem 0

/-- An event of the controller, and what it does to the collection view. -/
def controllerHandles (e : HomeEvent) : Option HomeScreen := do
  let controller ← s.controller.handle isURL e
  let t := { s with controller }
  match e with
  | .saveSettingSubTabs screen =>
    if (screen.saveSettingSubTabs s.controller.setting).2.2 then t.fetchDataSetting else return t
  | .didSelectItemAt row =>
    if s.controller.viewModel.currentPage ≠ row then t.scrollToCategory else return t
  | .swipe _ => if s.controller.displayed.isSome then t.scrollToCategory else return t
  | .refreshHomeChildVC _ | .loadMore _ | .respond .. | .confirm _ => return t

def cellForItemAt (row : Nat) : Option HomeScreen := do
  let cell ← s.getCategoryCellViewModel row
  return { s with cells := s.cells.display row cell }

def handle : HomeScreenEvent → Option HomeScreen
  | .controller e => s.controllerHandles isURL e
  | .cellForItemAt row => s.cellForItemAt row
  | .didEndDisplaying row => some { s with cells := s.cells.endDisplaying row }

end Handlers

/-- The collection view asks, and is tapped, below the number of items it was last told. -/
def Allowed (s : HomeScreen) : HomeScreenEvent → Prop
  | .controller (.didSelectItemAt row) | .cellForItemAt row => row < s.numberOfItems
  | .controller e => s.controller.Allowed e
  | .didEndDisplaying _ => True

instance (s : HomeScreen) : (e : HomeScreenEvent) → Decidable (s.Allowed e)
  | .controller (.didSelectItemAt row) | .cellForItemAt row =>
    inferInstanceAs (Decidable (row < s.numberOfItems))
  | .controller (.saveSettingSubTabs screen) =>
    inferInstanceAs (Decidable (s.controller.Allowed (.saveSettingSubTabs screen)))
  | .controller (.refreshHomeChildVC position) =>
    inferInstanceAs (Decidable (s.controller.Allowed (.refreshHomeChildVC position)))
  | .controller (.loadMore position) =>
    inferInstanceAs (Decidable (s.controller.Allowed (.loadMore position)))
  | .controller (.respond r result) =>
    inferInstanceAs (Decidable (s.controller.Allowed (.respond r result)))
  | .controller (.swipe direction) =>
    inferInstanceAs (Decidable (s.controller.Allowed (.swipe direction)))
  | .controller (.confirm a) => inferInstanceAs (Decidable (s.controller.Allowed (.confirm a)))
  | .didEndDisplaying _ => .isTrue trivial

def machine (isURL : String → Bool) : Machine HomeScreen HomeScreenEvent where
  allowed := Allowed
  step := handle isURL

instance (isURL : String → Bool) (s : HomeScreen) (e : HomeScreenEvent) :
    Decidable ((machine isURL).allowed s e) :=
  inferInstanceAs (Decidable (s.Allowed e))

/-- The screen as it first appears. -/
def Opened (isURL : String → Bool) (s : HomeScreen) : Prop :=
  ∃ controller, HomeViewController.Launched isURL controller ∧ s = reloadData { controller }

/-! ## What is shown -/

/-- The cell names the category at its row, and is highlighted where its page is shown. -/
structure Shows (controller : HomeViewController) (row : Nat) (cell : CategoryCellViewModel) :
    Prop where
  text : controller.categories[row]?.map CategoryType.text = some cell.textCategoryString
  highlighted : cell.isEnable = true ↔ controller.displayed = some row

structure InStep (s : HomeScreen) : Prop where
  counted : s.numberOfItems = s.controller.categories.length
  cells : s.cells.All (Shows s.controller)
  scrolled : ∀ page, s.controller.displayed = some page → s.scrolledTo = page

end HomeScreen

namespace HomeViewController

variable {isURL : String → Bool} {s t : HomeViewController} {e : HomeEvent}

/-- An event that makes the page controller show a page, new or not. -/
def ShowsPage (s : HomeViewController) : HomeEvent → Prop
  | .didSelectItemAt row => s.viewModel.currentPage ≠ row
  | .swipe _ => s.displayed.isSome = true
  | .saveSettingSubTabs screen => (screen.saveSettingSubTabs s.setting).2.2 = true
  | .refreshHomeChildVC _ | .loadMore _ | .respond .. | .confirm _ => False

theorem Aligned.displayed_eq (a : s.Aligned) {i : Nat} (bound : i < s.categories.length) :
    s.displayed = some s.viewModel.currentPage := by
  rw [a.displayed, if_neg]
  intro none
  simp [none] at bound

theorem displayed_congr (a : s.Aligned) (a' : t.Aligned)
    (page : t.viewModel.currentPage = s.viewModel.currentPage) (setting : t.setting = s.setting) :
    t.displayed = s.displayed := by
  rw [a.displayed, a'.displayed, page, categories, categories, setting]

/-- Any other event leaves the page that is shown, and the categories. -/
theorem page_of_not_showsPage (a : s.Aligned) (allowed : s.Allowed e) (quiet : ¬ s.ShowsPage e)
    (stepped : s.handle isURL e = some t) :
    t.displayed = s.displayed ∧ t.setting = s.setting := by
  have kept (same : ¬ IsSave e) (page : t.viewModel.currentPage = s.viewModel.currentPage) :
      t.displayed = s.displayed ∧ t.setting = s.setting := by
    have setting := handle_setting a allowed same stepped
    exact ⟨displayed_congr a (handle_aligned a allowed stepped) page setting, setting⟩
  cases e with
  | saveSettingSubTabs screen =>
    obtain ⟨-, rfl⟩ | ⟨posted, -⟩ := handle_save_cases allowed stepped
    · exact ⟨rfl, rfl⟩
    · exact absurd posted quiet
  | refreshHomeChildVC position =>
    obtain ⟨c, f, category, found⟩ := exists_feed a
      (a.viewControllers ▸ (show position < s.viewControllers.length from allowed))
    exact kept id (samePage_refresh a category found stepped).currentPage
  | loadMore position =>
    obtain ⟨c, f, category, found⟩ := exists_feed a
      (a.viewControllers ▸ (show position < s.viewControllers.length from allowed))
    exact kept id (samePage_loadMore a category found stepped).currentPage
  | respond r result =>
    by_cases bound : r.index < s.categories.length
    · exact kept id (samePage_respond (a.setOutstanding (s.outstanding.erase r)) bound
        stepped).currentPage
    · have trapped := (a.setOutstanding (s.outstanding.erase r)).respond_eq_none
        (Nat.not_lt.mp bound) result
      cases trapped.symm.trans stepped
  | didSelectItemAt row =>
    obtain rfl := Option.some.inj ((if_neg quiet).symm.trans stepped)
    exact ⟨rfl, rfl⟩
  | swipe direction =>
    have hidden : s.displayed = none := by simpa [ShowsPage] using quiet
    simp only [handle, swipe, hidden] at stepped
    obtain rfl := Option.some.inj stepped
    exact ⟨rfl, rfl⟩
  | confirm alert =>
    cases alert with
    | notice message =>
      obtain rfl := Option.some.inj stepped
      exact ⟨rfl, rfl⟩
    | categoryError message =>
      obtain ⟨child, -, stepped⟩ := Option.bind_eq_some_iff.mp stepped
      obtain ⟨children, -, written⟩ := Option.bind_eq_some_iff.mp stepped
      obtain rfl := Option.some.inj written
      exact ⟨rfl, rfl⟩

end HomeViewController

namespace HomeScreen

open HomeViewController (Aligned)

variable {isURL : String → Bool} {s t : HomeScreen} {controller : HomeViewController}

theorem shows_of_setUp {row : Nat} {cell : CategoryCellViewModel} (a : s.controller.Aligned)
    (setUp : s.getCategoryCellViewModel row = some cell) : Shows s.controller row cell := by
  obtain ⟨category, found, same⟩ := Option.bind_eq_some_iff.mp setUp
  obtain rfl := Option.some.inj same
  have bound := (List.getElem?_eq_some_iff.mp found).1
  constructor
  · rw [found, Option.map_some]
  · rw [a.displayed_eq bound]
    simp

theorem Shows.congr {controller' : HomeViewController} {row : Nat} {cell : CategoryCellViewModel}
    (h : Shows controller row cell) (setting : controller'.setting = controller.setting)
    (displayed : controller'.displayed = controller.displayed) : Shows controller' row cell := by
  constructor
  · rw [HomeViewController.categories, setting]
    exact h.text
  · rw [displayed]
    exact h.highlighted

/-- The cells on screen are set up for the page that is shown now. -/
theorem scrollToCategory_inStep (a : s.controller.Aligned)
    (counted : s.numberOfItems = s.controller.categories.length)
    (nonempty : s.controller.categories ≠ []) {before : HomeViewController}
    (setting : s.controller.setting = before.setting) (cells : s.cells.All (Shows before)) :
    ∃ t, s.scrollToCategory = some t ∧ t.controller = s.controller ∧ t.InStep := by
  have page : s.controller.viewModel.currentPage < s.controller.categories.length :=
    a.currentPage nonempty
  have ready : ∀ row ∈ List.range s.controller.categories.length,
      ∃ cell, s.getCategoryCellViewModel row = some cell := by
    intro row mem
    rw [List.mem_range] at mem
    exact ⟨_, by simp [getCategoryCellViewModel, HomeViewModel.getCategoryCellViewModel, mem]; rfl⟩
  obtain ⟨cells', configured, shown⟩ := Cells.All.configure_rows ready cells
  refine ⟨{ s with cells := cells', scrolledTo := s.controller.viewModel.currentPage }, ?_, rfl,
    counted, ?_, ?_⟩
  · simp only [scrollToCategory, scrollToItem, counted, page, ↓reduceIte, Option.bind_eq_bind,
      Option.bind_some]
    change (List.foldlM (Cells.configure s.getCategoryCellViewModel) s.cells _).bind _ = _
    rw [configured]
    rfl
  · refine shown.mono ?_
    rintro row cell (setUp | ⟨away, was⟩)
    · exact shows_of_setUp a setUp
    · have bound : row < before.categories.length := by
        by_contra beyond
        have none := was.text
        rw [List.getElem?_eq_none (Nat.not_lt.mp beyond)] at none
        cases none
      rw [List.mem_range, HomeViewController.categories, setting] at away
      exact absurd bound away
  · intro page' displayed
    rw [a.displayed_eq page] at displayed
    exact Option.some.inj displayed

theorem fetchDataSetting_inStep (a : s.controller.Aligned)
    (displayed : s.controller.displayed = some 0) :
    ∃ t, s.fetchDataSetting = some t ∧ t.controller = s.controller ∧ t.InStep := by
  have nonempty : s.controller.categories ≠ [] := by
    intro none
    rw [a.displayed, if_pos none] at displayed
    cases displayed
  refine ⟨{ s.reloadData with scrolledTo := 0 }, ?_, rfl, rfl, Cells.all_empty, ?_⟩
  · exact if_pos (List.length_pos_iff.mpr nonempty)
  · intro page shown
    exact Option.some.inj (displayed.symm.trans shown)

/-- **An event of the controller** that does not trap there does not trap here, and the
collection view follows. -/
theorem InStep.controllerHandles (h : s.InStep) (a : s.controller.Aligned) {e : HomeEvent}
    (allowed : s.controller.Allowed e) (stepped : s.controller.handle isURL e = some controller) :
    ∃ t, s.controllerHandles isURL e = some t ∧ t.controller = controller ∧ t.InStep := by
  have a' := HomeViewController.handle_aligned a allowed stepped
  have scrolled (same : ¬ HomeViewController.IsSave e) (nonempty : s.controller.categories ≠ []) :
      ∃ t, scrollToCategory { s with controller } = some t ∧ t.controller = controller ∧
        t.InStep := by
    have setting := HomeViewController.handle_setting a allowed same stepped
    have categories : controller.categories = s.controller.categories :=
      congrArg SettingManager.categories setting
    exact scrollToCategory_inStep (s := { s with controller }) a'
      (h.counted.trans (congrArg List.length categories).symm) (categories ▸ nonempty) setting
      h.cells
  by_cases shows : s.controller.ShowsPage e
  · cases e with
    | saveSettingSubTabs screen =>
      have posted : (screen.saveSettingSubTabs s.controller.setting).2.2 = true := shows
      obtain ⟨refused, -⟩ | ⟨-, setting, chosen, rebuilt, -⟩ :=
        HomeViewController.handle_save_cases allowed stepped
      · cases refused.symm.trans posted
      · have nonempty : setting.categories ≠ [] :=
          chosen ▸ SettingSubTabsViewModel.Permitted.selected_ne_nil allowed
        have first : controller.displayed = some 0 := rebuilt.displayed.trans (if_neg nonempty)
        obtain ⟨t, reloaded, same, inStep⟩ :=
          fetchDataSetting_inStep (s := { s with controller }) a' first
        refine ⟨t, ?_, same, inStep⟩
        simp only [HomeScreen.controllerHandles, stepped, Option.bind_eq_bind, Option.bind_some,
          posted, ↓reduceIte, reloaded]
    | didSelectItemAt row =>
      have differs : s.controller.viewModel.currentPage ≠ row := shows
      have nonempty : s.controller.categories ≠ [] := by
        intro none
        have bound : row < s.controller.categories.length := allowed
        simp [none] at bound
      obtain ⟨t, configured, same, inStep⟩ := scrolled id nonempty
      refine ⟨t, ?_, same, inStep⟩
      simp only [HomeScreen.controllerHandles, stepped, Option.bind_eq_bind, Option.bind_some,
        differs, ne_eq, not_false_eq_true, ↓reduceIte, configured]
    | swipe direction =>
      have visible : s.controller.displayed.isSome = true := shows
      have nonempty : s.controller.categories ≠ [] := by
        intro none
        rw [a.displayed, if_pos none] at visible
        cases visible
      obtain ⟨t, configured, same, inStep⟩ := scrolled id nonempty
      refine ⟨t, ?_, same, inStep⟩
      simp only [HomeScreen.controllerHandles, stepped, Option.bind_eq_bind, Option.bind_some,
        visible, ↓reduceIte, configured]
    | refreshHomeChildVC | loadMore | respond | confirm => cases shows
  · obtain ⟨displayed, setting⟩ :=
      HomeViewController.page_of_not_showsPage a allowed shows stepped
    refine ⟨{ s with controller }, ?_, rfl, ?_, ?_, ?_⟩
    · rw [HomeScreen.controllerHandles, stepped]
      cases e with
      | saveSettingSubTabs | didSelectItemAt | swipe => exact if_neg shows
      | refreshHomeChildVC | loadMore | respond | confirm => rfl
    · exact h.counted.trans (congrArg (·.categories.length) setting).symm
    · exact h.cells.mono fun _ _ shows => shows.congr setting displayed
    · intro page shown
      exact h.scrolled page (displayed ▸ shown)

theorem InStep.allowed (h : s.InStep) {e : HomeEvent} (allowed : s.Allowed (.controller e)) :
    s.controller.Allowed e := by
  cases e with
  | didSelectItemAt row =>
    have bound : row < s.numberOfItems := allowed
    exact lt_of_lt_of_eq bound h.counted
  | saveSettingSubTabs | refreshHomeChildVC | loadMore | respond | swipe | confirm => exact allowed

/-- **One event** traps only where its controller does, and keeps the screen in step. -/
theorem handle_inStep (h : s.InStep) (a : s.controller.Aligned) {e : HomeScreenEvent}
    (allowed : s.Allowed e)
    (safe : ∀ e', e = .controller e' → (s.controller.handle isURL e').isSome = true) :
    ∃ t, s.handle isURL e = some t ∧ t.InStep ∧ (t.controller = s.controller ∨
      ∃ e', s.controller.Allowed e' ∧ s.controller.handle isURL e' = some t.controller) := by
  cases e with
  | controller e =>
    obtain ⟨controller, stepped⟩ := Option.isSome_iff_exists.mp (safe e rfl)
    obtain ⟨t, handled, rfl, inStep⟩ := h.controllerHandles a (h.allowed allowed) stepped
    exact ⟨t, handled, inStep, Or.inr ⟨e, h.allowed allowed, stepped⟩⟩
  | cellForItemAt row =>
    have bound : row < s.controller.categories.length := lt_of_lt_of_eq allowed h.counted
    obtain ⟨cell, setUp⟩ : ∃ cell, s.getCategoryCellViewModel row = some cell :=
      ⟨_, by simp [getCategoryCellViewModel, HomeViewModel.getCategoryCellViewModel, bound]; rfl⟩
    refine ⟨{ s with cells := s.cells.display row cell }, ?_, ⟨h.counted, ?_, h.scrolled⟩,
      Or.inl rfl⟩
    · rw [handle, cellForItemAt, setUp]
      rfl
    · exact h.cells.display (shows_of_setUp a setUp) fun _ _ _ was => was
  | didEndDisplaying row =>
    have cells : (s.cells.endDisplaying row).All (Shows s.controller) :=
      h.cells.endDisplaying fun _ _ _ was => was
    exact ⟨_, rfl, ⟨h.counted, cells, h.scrolled⟩, Or.inl rfl⟩

/-- What the screen does not trap on, its controller does not. -/
theorem controller_isSome {e : HomeEvent} (handled : s.handle isURL (.controller e) = some t) :
    (s.controller.handle isURL e).isSome = true := by
  obtain ⟨controller, stepped, -⟩ := Option.bind_eq_some_iff.mp handled
  exact Option.isSome_of_eq_some stepped

theorem opened_inStep {s : HomeScreen} (h : Opened isURL s) : s.InStep := by
  obtain ⟨controller, launched, rfl⟩ := h
  obtain ⟨setting, rebuilt, a⟩ := launched.rebuilt
  refine ⟨rfl, Cells.all_empty, ?_⟩
  intro page shown
  have first := rebuilt.displayed
  rw [show controller.displayed = some page from shown] at first
  split at first
  · cases first
  · exact (Option.some.inj first).symm

/-- The screen keeps in step, and runs its controller as that runs by itself. -/
theorem reachable_inStep {s : HomeScreen} (h : (machine isURL).Reachable (Opened isURL) s) :
    s.InStep ∧
    (HomeViewController.machine isURL).Reachable (HomeViewController.Launched isURL)
      s.controller := by
  apply h.invariant fun s => s.InStep ∧
    (HomeViewController.machine isURL).Reachable (HomeViewController.Launched isURL) s.controller
  · intro s opened
    refine ⟨opened_inStep opened, ?_⟩
    obtain ⟨controller, launched, rfl⟩ := opened
    exact .start launched
  · rintro s e t - ⟨inStep, reached⟩ allowed handled
    have a := HomeViewController.reachable_aligned reached
    have safe : ∀ e', e = .controller e' → (s.controller.handle isURL e').isSome = true := by
      rintro e' rfl
      exact controller_isSome handled
    obtain ⟨t', same, inStep', moved⟩ := handle_inStep inStep a allowed safe
    obtain rfl : t' = t := Option.mem_unique same handled
    refine ⟨inStep', ?_⟩
    obtain same | ⟨e', allowed', stepped⟩ := moved
    · rw [same]
      exact reached
    · exact reached.next allowed' stepped

/-- **The categories above the pages** keep in step with Home, settings saves and late
responses included: a cell on screen names its category and is highlighted exactly where
its page is shown, and the collection view traps only where Home does. -/
theorem categories_in_step {s : HomeScreen} (h : (machine isURL).Reachable (Opened isURL) s) :
    (HomeViewController.machine isURL).Reachable (HomeViewController.Launched isURL)
      s.controller ∧
    s.InStep ∧
    ∀ e, s.Allowed e → (s.handle isURL e = none ↔
      ∃ e', e = .controller e' ∧ s.controller.handle isURL e' = none) := by
  obtain ⟨inStep, reached⟩ := reachable_inStep h
  refine ⟨reached, inStep, ?_⟩
  intro e allowed
  constructor
  · intro trapped
    by_contra safe
    have quiet : ∀ e', e = .controller e' → (s.controller.handle isURL e').isSome = true := by
      intro e' same
      exact Option.isSome_iff_ne_none.mpr fun none => safe ⟨e', same, none⟩
    obtain ⟨t, handled, -⟩ :=
      handle_inStep inStep (HomeViewController.reachable_aligned reached) allowed quiet
    cases trapped.symm.trans handled
  · rintro ⟨e', rfl, trapped⟩
    rw [handle, controllerHandles, trapped]
    rfl

/-- Two cells are on screen when the page of the second is shown. -/
theorem categories_in_step_swiped : ∃ s : HomeScreen, s.controller.displayed = some 1 ∧
    s.cells.rows.map (·.cell.isEnable) = [false, true] ∧ s.InStep := by
  have opened : Opened anyURL (reloadData { controller := HomeViewController.launch {} }) :=
    ⟨_, HomeViewController.launched {}, rfl⟩
  have reached : (machine anyURL).Reachable (Opened anyURL)
      (((machine anyURL).run (reloadData { controller := HomeViewController.launch {} })
        [.cellForItemAt 0, .cellForItemAt 1, .controller (.swipe .after)]).getD {}) :=
    Machine.reachable_getD _ opened (by decide)
  exact ⟨_, by decide, by decide, (categories_in_step reached).2.1⟩

end HomeScreen

end NewsReader
