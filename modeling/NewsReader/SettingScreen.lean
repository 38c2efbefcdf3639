import NewsReader.Cells
import NewsReader.SettingSession

/-!
# The settings screen

`SettingSubTabsViewController` with its collection view, the cells on screen and its alerts,
for one opening of the screen. A cell keeps the model of its row, and its picture until it
is set up again.

* `checks_are_saved`: a cell shows a check mark where its category is enabled, and a save
  leaves those categories stored and says whether they are new.
-/

namespace NewsReader

def SubTabsCellViewModel.backgroundImageString (cell : SubTabsCellViewModel) : String :=
  if cell.isEnable then "checkmark.circle.fill" else "xmark.circle.fill"

/-- `row` is that of the view model, which is an object the screen goes on changing. -/
structure SubTabsCell where
  row : Nat
  categoryImageView : String
  checkButton : String
  deriving DecidableEq, Repr

def SubTabsCell.updateUI (row : Nat) (vm : SubTabsCellViewModel) : SubTabsCell where
  row
  categoryImageView := vm.category.imageName
  checkButton := vm.backgroundImageString

/-- An alert of the screen. Ok on `changed` leaves the screen. -/
inductive SettingAlert
  | changed
  | notice (message : String)
  deriving DecidableEq, Repr

structure SettingScreen where
  session : SettingSession
  numberOfItems : Nat
  cells : Cells SubTabsCell := Table.empty _
  alerts : List SettingAlert := []
  isPopped : Bool := false
  deriving DecidableEq

inductive SettingScreenEvent
  | cellForItemAt (row : Nat)
  | didEndDisplaying (row : Nat)
  | checkButtonTouchUpInside (row : Nat)
  | saveSettingSubTabsTouchUpInside
  | confirm (a : SettingAlert)
  deriving DecidableEq, Repr

namespace SettingScreen

section Handlers

variable (s : SettingScreen)

/-- The screen as it loads: `setupData`, then the first layout of the collection view. -/
def viewDidLoad (setting : SettingManager) : SettingScreen :=
  let session := SettingSession.opened setting
  { session, numberOfItems := session.screen.categories.length }

def alert (a : SettingAlert) : SettingScreen := { s with alerts := s.alerts ++ [a] }

def cellForItemAt (row : Nat) : Option SettingScreen := do
  let vm ← s.session.screen.getSettingSubTabsCellViewModel row
  return { s with cells := s.cells.display row (.updateUI row vm) }

/-- The collection view must have the item. It asks for the cell again. -/
def reloadItems (row : Nat) : Option SettingScreen :=
  if row < s.numberOfItems then some { s with cells := s.cells.endDisplaying row } else none

/-- `changeStatus(with:completion:)`, and what its completion does. -/
def needPerform (row : Nat) : Option SettingScreen :=
  if row ≥ s.session.screen.categories.length then some (s.alert (.notice "Over of range"))
  else do
    let _ ← s.session.screen.cells[row]?
    let screen := s.session.screen.changeStatus row
    reloadItems { s with session := { s.session with screen } } row

/-- A tap on the check button of a cell. Its view model says where it is. -/
def checkButtonTouchUpInside (row : Nat) : Option SettingScreen := do
  let shown ← s.cells.find row
  let vm ← s.session.screen.cells[shown.cell.row]?
  if vm.category ≠ .us ∧ vm.category ≠ .health then s.needPerform vm.row else return s

def saveSettingSubTabsTouchUpInside : SettingScreen :=
  let (screen, setting, posted) := s.session.screen.saveSettingSubTabs s.session.setting
  let s := { s with session := { screen, setting } }
  if posted then s.alert .changed else s.alert (.notice "Duplicated with previous settings")

def confirm (a : SettingAlert) : SettingScreen :=
  let s := { s with alerts := s.alerts.erase a }
  match a with
  | .changed => { s with isPopped := true }
  | .notice _ => s

def handle : SettingScreenEvent → Option SettingScreen
  | .cellForItemAt row => s.cellForItemAt row
  | .didEndDisplaying row => some { s with cells := s.cells.endDisplaying row }
  | .checkButtonTouchUpInside row => s.checkButtonTouchUpInside row
  | .saveSettingSubTabsTouchUpInside => some s.saveSettingSubTabsTouchUpInside
  | .confirm a => some (s.confirm a)

end Handlers

def Allowed (s : SettingScreen) : SettingScreenEvent → Prop
  | .cellForItemAt row => row < s.numberOfItems
  | .checkButtonTouchUpInside row => row ∈ s.cells.keys
  | .confirm a => a ∈ s.alerts
  | .didEndDisplaying _ | .saveSettingSubTabsTouchUpInside => True

instance (s : SettingScreen) : (e : SettingScreenEvent) → Decidable (s.Allowed e)
  | .cellForItemAt row => inferInstanceAs (Decidable (row < s.numberOfItems))
  | .checkButtonTouchUpInside row => inferInstanceAs (Decidable (row ∈ s.cells.keys))
  | .confirm a => inferInstanceAs (Decidable (a ∈ s.alerts))
  | .didEndDisplaying _ | .saveSettingSubTabsTouchUpInside => .isTrue trivial

def machine : Machine SettingScreen SettingScreenEvent where
  allowed := Allowed
  step := handle

instance (s : SettingScreen) (e : SettingScreenEvent) : Decidable (machine.allowed s e) :=
  inferInstanceAs (Decidable (s.Allowed e))

/-- The screen as it opens, whatever is stored. -/
def Opened (s : SettingScreen) : Prop := ∃ setting, s = viewDidLoad setting

/-! ## What is shown -/

/-- The cell has been set up with what the view model of its row is now. -/
def Shows (screen : SettingSubTabsViewModel) (row : Nat) (cell : SubTabsCell) : Prop :=
  ∃ vm, screen.cells[row]? = some vm ∧ cell = .updateUI row vm

structure InStep (s : SettingScreen) : Prop where
  session : SettingSession.machine.Reachable SettingSession.Opened s.session
  counted : s.numberOfItems = CategoryType.allCases.length
  cells : s.cells.All (Shows s.session.screen)
  inRange : .notice "Over of range" ∉ s.alerts

section

variable {s t : SettingScreen} {row : Nat}

/-- Each row has the view model of its category. -/
theorem InStep.rows (h : s.InStep) : s.session.screen.categories = CategoryType.allCases ∧
    ∃ enabled : CategoryType → Bool,
      s.session.screen.enabledCategories = CategoryType.allCases.filter enabled ∧
      ∀ row, s.session.screen.cells[row]? =
        CategoryType.allCases[row]?.map fun c => SubTabsCellViewModel.mk c (enabled c) row := by
  obtain ⟨enabled, shows⟩ := SettingSession.reachable_shows h.session
  refine ⟨shows.categories, enabled, shows.enabledCategories, fun row => ?_⟩
  rw [shows.cells, SettingSession.getElem?_cells]

theorem InStep.found (h : s.InStep) (bound : row < CategoryType.allCases.length) :
    ∃ vm, s.session.screen.cells[row]? = some vm := by
  obtain ⟨-, enabled, -, rows⟩ := h.rows
  exact ⟨_, (rows row).trans (congrArg (Option.map _) (List.getElem?_eq_getElem bound))⟩

/-- The cells of other rows show what they showed. -/
theorem shows_changeStatus {screen : SettingSubTabsViewModel} {row' : Nat} {cell : SubTabsCell}
    (other : row' ≠ row) (h : Shows screen row' cell) :
    Shows (screen.changeStatus row) row' cell := by
  obtain ⟨vm, found, same⟩ := h
  refine ⟨vm, ?_, same⟩
  unfold SettingSubTabsViewModel.changeStatus
  split
  · exact found
  · rw [List.getElem?_modify_ne _ _ (Ne.symm other)]
    exact found

/-- A tap is a tap of the session. A cell that is toggled is to be set up again. -/
theorem InStep.tap (h : s.InStep) (shown : row ∈ s.cells.keys) :
    ∃ session cells, s.checkButtonTouchUpInside row = some { s with session, cells } ∧
      SettingSession.machine.Reachable SettingSession.Opened session ∧
      cells.All (Shows session.screen) := by
  obtain ⟨there, mem, rfl⟩ := Table.mem_keys.mp shown
  obtain ⟨vm, found, same⟩ := h.cells there mem
  obtain ⟨categories, enabled, -, rows⟩ := h.rows
  obtain ⟨category, listed, rfl⟩ := Option.map_eq_some_iff.mp ((rows there.row).symm.trans found)
  have bound : there.row < CategoryType.allCases.length := (List.getElem?_eq_some_iff.mp listed).1
  have here : s.cells.find there.row = some there := Table.find_eq_some_iff.mpr ⟨mem, rfl⟩
  have index : there.cell.row = there.row := by
    rw [same]
    rfl
  simp only [checkButtonTouchUpInside, here, index, found, Option.bind_eq_bind, Option.bind_some]
  split
  · rename_i free
    have inside : ¬ there.row ≥ s.session.screen.categories.length := by
      rw [categories]
      omega
    have counted : there.row < s.numberOfItems := h.counted ▸ bound
    refine ⟨{ s.session with screen := s.session.screen.changeStatus there.row },
      s.cells.endDisplaying there.row, ?_, ?_, ?_⟩
    · rw [needPerform, if_neg inside, found]
      exact if_pos counted
    · refine h.session.next (e := .checkButtonTouchUpInside there.row) (Nat.not_le.mp inside) ?_
      simp [SettingSession.machine, SettingSession.handle, found, free,
        SettingSubTabsViewModel.checkButtonTouchUpInside,
        SettingSubTabsViewModel.getSettingSubTabsCellViewModel]
    · exact h.cells.endDisplaying fun _ _ other was => shows_changeStatus other was
  · exact ⟨s.session, s.cells, rfl, h.session, h.cells⟩

/-- A save leaves the cells alone, and stores what they show. -/
theorem InStep.save (h : s.InStep) :
    ∃ session, SettingSession.machine.Reachable SettingSession.Opened session ∧
      session.screen.cells = s.session.screen.cells ∧
      session.setting.categories = s.session.screen.enabledCategories ∧
      s.saveSettingSubTabsTouchUpInside = { s with
        session
        alerts := s.alerts ++ [if s.session.screen.enabledCategories = s.session.setting.categories
          then .notice "Duplicated with previous settings" else .changed] } := by
  cases saved : s.session.screen.saveSettingSubTabs s.session.setting with
  | mk screen rest =>
    obtain ⟨setting, posted⟩ := rest
    obtain ⟨cells, -, outcome⟩ := SettingSession.saveSettingSubTabs_cases saved
    have reached : SettingSession.machine.Reachable SettingSession.Opened ⟨screen, setting⟩ := by
      refine h.session.next (e := .saveSettingSubTabs) trivial ?_
      simp only [SettingSession.machine, SettingSession.handle, saved]
    refine ⟨⟨screen, setting⟩, reached, cells, ?_, ?_⟩
    · obtain ⟨-, kept, rfl⟩ | ⟨-, -, rfl⟩ := outcome
      · exact kept.symm
      · exact SettingManager.categories_setCategories _
    · obtain ⟨rfl, kept, -⟩ | ⟨rfl, differs, -⟩ := outcome
      · simp [saveSettingSubTabsTouchUpInside, saved, kept, alert]
      · simp [saveSettingSubTabsTouchUpInside, saved, differs, alert]

theorem InStep.handle (h : s.InStep) {e : SettingScreenEvent} (allowed : s.Allowed e) :
    ∃ t, s.handle e = some t ∧ t.InStep := by
  cases e with
  | cellForItemAt row =>
    obtain ⟨vm, found⟩ := h.found (lt_of_lt_of_eq allowed h.counted)
    refine ⟨{ s with cells := s.cells.display row (.updateUI row vm) }, ?_, h.session, h.counted,
      ?_, h.inRange⟩
    · simp only [SettingScreen.handle, cellForItemAt,
        SettingSubTabsViewModel.getSettingSubTabsCellViewModel, found]
      rfl
    · exact h.cells.display ⟨vm, found, rfl⟩ fun _ _ _ was => was
  | didEndDisplaying row =>
    exact ⟨_, rfl, h.session, h.counted, h.cells.endDisplaying fun _ _ _ was => was, h.inRange⟩
  | checkButtonTouchUpInside row =>
    obtain ⟨session, cells, tapped, reached, shows⟩ := h.tap allowed
    exact ⟨_, tapped, reached, h.counted, shows, h.inRange⟩
  | saveSettingSubTabsTouchUpInside =>
    obtain ⟨session, reached, same, -, saved⟩ := h.save
    refine ⟨_, congrArg some saved, reached, h.counted, ?_, ?_⟩
    · refine h.cells.mono ?_
      rintro row cell ⟨vm, found, shown⟩
      exact ⟨vm, same ▸ found, shown⟩
    · intro mem
      obtain before | new := List.mem_append.mp mem
      · exact h.inRange before
      · split at new
        · have same := SettingAlert.notice.inj (List.mem_singleton.mp new)
          exact absurd same (by decide)
        · cases List.mem_singleton.mp new
  | confirm a =>
    have inRange : .notice "Over of range" ∉ s.alerts.erase a := fun mem =>
      h.inRange (List.mem_of_mem_erase mem)
    cases a with
    | changed => exact ⟨_, rfl, h.session, h.counted, h.cells, inRange⟩
    | notice message => exact ⟨_, rfl, h.session, h.counted, h.cells, inRange⟩

theorem opened_inStep (setting : SettingManager) : (viewDidLoad setting).InStep :=
  ⟨.start ⟨setting, rfl⟩, rfl, Cells.all_empty, List.not_mem_nil⟩

theorem reachable_inStep (h : machine.Reachable Opened s) : s.InStep := by
  apply h.invariant InStep
  · rintro _ ⟨setting, rfl⟩
    exact opened_inStep setting
  · intro s e t _ inStep allowed stepped
    obtain ⟨u, handled, after⟩ := inStep.handle allowed
    obtain rfl := Option.mem_unique handled stepped
    exact after

/-- **What is checked is what is saved**, in every run of the screen and whatever it was opened
on: a cell on screen shows its category, and a check mark where that is enabled. A save leaves
the enabled categories stored, and its alert says whether they were stored already. Nothing
traps, and no tap is out of range. -/
theorem checks_are_saved (h : machine.Reachable Opened s) :
    SettingSession.machine.Reachable SettingSession.Opened s.session ∧
    (∀ shown ∈ s.cells.rows, ∃ category, CategoryType.allCases[shown.row]? = some category ∧
      shown.cell.categoryImageView = category.imageName ∧
      (shown.cell.checkButton = "checkmark.circle.fill" ↔
        category ∈ s.session.screen.enabledCategories)) ∧
    (∀ e, s.Allowed e → (s.handle e).isSome = true) ∧ .notice "Over of range" ∉ s.alerts ∧
    s.saveSettingSubTabsTouchUpInside.session.setting.categories =
      s.session.screen.enabledCategories ∧
    s.saveSettingSubTabsTouchUpInside.alerts = s.alerts ++
      [if s.session.screen.enabledCategories = s.session.setting.categories
        then .notice "Duplicated with previous settings" else .changed] := by
  have inStep := reachable_inStep h
  obtain ⟨session, -, -, stored, saved⟩ := inStep.save
  refine ⟨inStep.session, ?_, ?_, inStep.inRange, saved ▸ stored, congrArg alerts saved⟩
  · intro shown mem
    obtain ⟨vm, found, same⟩ := inStep.cells shown mem
    obtain ⟨-, enabled, chosen, rows⟩ := inStep.rows
    obtain ⟨category, listed, rfl⟩ :=
      Option.map_eq_some_iff.mp ((rows shown.row).symm.trans found)
    refine ⟨category, listed, ?_, ?_⟩
    · rw [same]
      rfl
    · rw [same, chosen, List.mem_filter]
      cases enabled category <;>
        simp [SubTabsCell.updateUI, SubTabsCellViewModel.backgroundImageString,
          CategoryType.mem_allCases]
  · intro e allowed
    obtain ⟨t, handled, -⟩ := inStep.handle allowed
    exact Option.isSome_of_eq_some handled

/-- Science is checked on a screen opened on health alone, and saved. -/
def scienceChecked : SettingScreen :=
  (machine.run (viewDidLoad ⟨some [3]⟩) [.cellForItemAt 0, .cellForItemAt 2,
    .checkButtonTouchUpInside 2, .cellForItemAt 2, .saveSettingSubTabsTouchUpInside]).getD
    (viewDidLoad {})

theorem checks_are_saved_science :
    scienceChecked.cells.rows.map (·.cell.checkButton) =
      ["checkmark.circle.fill", "checkmark.circle.fill"] ∧
    scienceChecked.alerts = [.changed] ∧
    scienceChecked.saveSettingSubTabsTouchUpInside.session.setting.categories =
      scienceChecked.session.screen.enabledCategories ∧
    .notice "Over of range" ∉ scienceChecked.alerts := by
  have reached : machine.Reachable Opened scienceChecked :=
    Machine.reachable_getD _ ⟨_, rfl⟩ (by decide)
  obtain ⟨-, -, -, inRange, stored, -⟩ := checks_are_saved reached
  exact ⟨by decide, by decide, stored, inRange⟩

end

end SettingScreen

end NewsReader
