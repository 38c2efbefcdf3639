import NewsReader.Machine
import NewsReader.Setting

/-!
# One session of the settings screen

The screen is opened once on whatever is stored, and its cells are then toggled and
saved any number of times. All through it there is one cell a category
(`Shows`), so a save stores the enabled categories in the order of `allCases`, and
the screen opens again as it was left (`setting_session`).
-/

namespace NewsReader

namespace SettingSubTabsViewModel

/-- The cell at `row` of the collection view. -/
def getSettingSubTabsCellViewModel (vm : SettingSubTabsViewModel) (row : Nat) :
    Option SubTabsCellViewModel := vm.cells[row]?

/-- A tap on the check button of the cell at `row`: us and health are blocked, and the
other cells ask for their own row to change. -/
def checkButtonTouchUpInside (vm : SettingSubTabsViewModel) (row : Nat) :
    Option SettingSubTabsViewModel := do
  let cell ← vm.getSettingSubTabsCellViewModel row
  if cell.category ≠ .us ∧ cell.category ≠ .health then return vm.changeStatus cell.row
  else return vm

/-- The categories of the enabled cells, in the order of the cells. -/
def enabledCategories (vm : SettingSubTabsViewModel) : List CategoryType :=
  (vm.cells.filter (·.isEnable)).map (·.category)

end SettingSubTabsViewModel

structure SettingSession where
  screen : SettingSubTabsViewModel
  setting : SettingManager
  deriving DecidableEq, Repr

inductive SettingEvent
  | checkButtonTouchUpInside (row : Nat)
  | saveSettingSubTabs
  deriving DecidableEq, Repr

namespace SettingSession

def handle (s : SettingSession) : SettingEvent → Option SettingSession
  | .checkButtonTouchUpInside row => do
    let screen ← s.screen.checkButtonTouchUpInside row
    return { s with screen }
  | .saveSettingSubTabs =>
    let (screen, setting, _) := s.screen.saveSettingSubTabs s.setting
    some { screen, setting }

def Allowed (s : SettingSession) : SettingEvent → Prop
  | .checkButtonTouchUpInside row => row < s.screen.categories.length
  | .saveSettingSubTabs => True

instance (s : SettingSession) : (e : SettingEvent) → Decidable (s.Allowed e)
  | .checkButtonTouchUpInside row => inferInstanceAs (Decidable (row < s.screen.categories.length))
  | .saveSettingSubTabs => .isTrue trivial

def machine : Machine SettingSession SettingEvent where
  allowed := Allowed
  step := handle

instance (s : SettingSession) (e : SettingEvent) : Decidable (machine.allowed s e) :=
  inferInstanceAs (Decidable (s.Allowed e))

/-- The screen as it opens on what is stored. -/
def opened (setting : SettingManager) : SettingSession :=
  { screen := ({} : SettingSubTabsViewModel).getAllCellViewModel setting, setting }

def Opened (s : SettingSession) : Prop := ∃ setting, s = opened setting

/-! ## The cells -/

/-- One cell a category, each enabled or not. -/
def cells (enabled : CategoryType → Bool) : List SubTabsCellViewModel :=
  CategoryType.allCases.zipIdx.map fun (category, row) =>
    { category, isEnable := enabled category, row }

/-- The screen shows the categories `enabled` says, us and health among them. -/
structure Shows (enabled : CategoryType → Bool) (vm : SettingSubTabsViewModel) : Prop where
  categories : vm.categories = CategoryType.allCases
  cells : vm.cells = cells enabled
  us : enabled .us = true
  health : enabled .health = true

theorem getElem?_cells (enabled : CategoryType → Bool) (row : Nat) :
    (cells enabled)[row]? =
      CategoryType.allCases[row]?.map fun category => ⟨category, enabled category, row⟩ := by
  simp only [cells, List.getElem?_map, List.getElem?_zipIdx, Option.map_map]
  cases CategoryType.allCases[row]? with
  | none => rfl
  | some category => simp

/-- Toggling one row changes the category of that row, and no other. -/
theorem cells_modify (enabled : CategoryType → Bool) {row : Nat} {category : CategoryType}
    (found : CategoryType.allCases[row]? = some category) :
    (cells enabled).modify row (fun cell => { cell with isEnable := !cell.isEnable }) =
      cells fun c => if c = category then !enabled c else enabled c := by
  apply List.ext_getElem?
  intro i
  rw [List.getElem?_modify, getElem?_cells, getElem?_cells]
  by_cases here : row = i
  · subst here
    simp [found]
  · cases other : CategoryType.allCases[i]? with
    | none => rfl
    | some c =>
      have apart : c ≠ category := by
        rintro rfl
        have bound := (List.getElem?_eq_some_iff.mp found).1
        exact here ((List.getElem?_inj bound CategoryType.nodup_allCases).mp (found.trans other.symm))
      simp [here, apart]

theorem enabledCategories_cells (enabled : CategoryType → Bool) :
    ((cells enabled).filter (·.isEnable)).map (·.category) =
      CategoryType.allCases.filter enabled := by
  have from_row (categories : List CategoryType) (first : Nat) :
      (((categories.zipIdx first).map fun (category, row) =>
        ({ category, isEnable := enabled category, row } : SubTabsCellViewModel)).filter
          (·.isEnable)).map (·.category) = categories.filter enabled := by
    induction categories generalizing first with
    | nil => rfl
    | cons category categories ih =>
      rw [List.zipIdx_cons, List.map_cons]
      cases chosen : enabled category <;> simp [chosen, ih]
  exact from_row CategoryType.allCases 0

/-! ## The screen -/

section Screen

variable {enabled : CategoryType → Bool} {vm : SettingSubTabsViewModel}

theorem Shows.enabledCategories (h : Shows enabled vm) :
    vm.enabledCategories = CategoryType.allCases.filter enabled := by
  rw [SettingSubTabsViewModel.enabledCategories, h.cells, enabledCategories_cells]

/-- The screen opens on what it is to show: us, health and the stored categories. -/
theorem shows_getAllCellViewModel (setting : SettingManager) :
    Shows (fun c => decide (c = .us ∨ c = .health) || setting.categories.contains c)
      (({} : SettingSubTabsViewModel).getAllCellViewModel setting) := by
  refine ⟨rfl, ?_, rfl, rfl⟩
  simp only [SettingSubTabsViewModel.getAllCellViewModel, List.nil_append, cells]
  apply List.map_congr_left
  rintro ⟨category, row⟩ -
  simp only [SettingSubTabsViewModel.getIsActive]
  split
  · rename_i forced
    simp [forced]
  · rename_i free
    simp [free]

/-- A tap never traps: it is blocked, or toggles a category other than us and health. -/
theorem Shows.tap (h : Shows enabled vm) {row : Nat} (bound : row < vm.categories.length) :
    ∃ vm' enabled', vm.checkButtonTouchUpInside row = some vm' ∧ Shows enabled' vm' := by
  rw [h.categories] at bound
  have found : CategoryType.allCases[row]? = some CategoryType.allCases[row] :=
    List.getElem?_eq_getElem bound
  generalize CategoryType.allCases[row] = category at found
  have shown : vm.getSettingSubTabsCellViewModel row = some ⟨category, enabled category, row⟩ := by
    rw [SettingSubTabsViewModel.getSettingSubTabsCellViewModel, h.cells, getElem?_cells, found]
    rfl
  simp only [SettingSubTabsViewModel.checkButtonTouchUpInside, shown, Option.bind_eq_bind,
    Option.bind_some, Option.pure_def]
  split
  · rename_i free
    refine ⟨_, fun c => if c = category then !enabled c else enabled c, rfl, ?_⟩
    have inside : ¬ row ≥ vm.categories.length := by
      rw [h.categories]
      omega
    rw [SettingSubTabsViewModel.changeStatus, if_neg inside]
    refine ⟨h.categories, ?_, ?_, ?_⟩
    · rw [h.cells, cells_modify enabled found]
    · rw [if_neg (Ne.symm free.1)]
      exact h.us
    · rw [if_neg (Ne.symm free.2)]
      exact h.health
  · exact ⟨vm, enabled, rfl, h⟩

end Screen

/-! ## The session -/

section Session

variable {s t : SettingSession} {e : SettingEvent} {enabled : CategoryType → Bool}

/-- A save leaves the cells alone. It stores their enabled categories and posts, or
finds that they are what is stored already. -/
theorem saveSettingSubTabs_cases {vm vm' : SettingSubTabsViewModel}
    {setting setting' : SettingManager} {posted : Bool}
    (saved : vm.saveSettingSubTabs setting = (vm', setting', posted)) :
    vm'.cells = vm.cells ∧ vm'.categories = vm.categories ∧
    ((posted = false ∧ vm.enabledCategories = setting.categories ∧ setting' = setting) ∨
      (posted = true ∧ vm.enabledCategories ≠ setting.categories ∧
        setting' = SettingManager.setCategories vm.enabledCategories)) := by
  simp only [SettingSubTabsViewModel.saveSettingSubTabs] at saved
  split at saved
  · rename_i same
    simp only [Prod.mk.injEq] at saved
    obtain ⟨rfl, rfl, rfl⟩ := saved
    exact ⟨rfl, rfl, Or.inl ⟨rfl, same, rfl⟩⟩
  · rename_i differs
    simp only [Prod.mk.injEq] at saved
    obtain ⟨rfl, rfl, rfl⟩ := saved
    exact ⟨rfl, rfl, Or.inr ⟨rfl, differs, rfl⟩⟩

theorem Shows.step (h : Shows enabled s.screen) (allowed : s.Allowed e)
    (stepped : s.handle e = some t) : ∃ enabled', Shows enabled' t.screen := by
  cases e with
  | checkButtonTouchUpInside row =>
    obtain ⟨vm, enabled', tapped, shows⟩ := h.tap allowed
    simp only [handle, tapped] at stepped
    obtain rfl := Option.some.inj stepped
    exact ⟨enabled', shows⟩
  | saveSettingSubTabs =>
    cases saved : s.screen.saveSettingSubTabs s.setting with
    | mk vm rest =>
      obtain ⟨setting, posted⟩ := rest
      simp only [handle, saved] at stepped
      obtain rfl := Option.some.inj stepped
      obtain ⟨cells, categories, -⟩ := saveSettingSubTabs_cases saved
      exact ⟨enabled, categories.trans h.categories, cells.trans h.cells, h.us, h.health⟩

theorem reachable_shows (h : machine.Reachable Opened s) : ∃ enabled, Shows enabled s.screen := by
  apply h.invariant (fun s => ∃ enabled, Shows enabled s.screen)
  · rintro _ ⟨setting, rfl⟩
    exact ⟨_, shows_getAllCellViewModel setting⟩
  · rintro s e t - ⟨enabled, shows⟩ allowed stepped
    exact shows.step allowed stepped

/-- The screens a session reaches are among those Home saves. -/
theorem reachable_permitted (h : machine.Reachable Opened s) : s.screen.Permitted := by
  obtain ⟨enabled, shows⟩ := reachable_shows h
  refine ⟨shows.categories, ?_, ?_⟩
  · rw [shows.cells]
    rfl
  · intro cell mem forced
    rw [shows.cells] at mem
    obtain ⟨row, found⟩ := List.mem_iff_getElem?.mp mem
    rw [getElem?_cells] at found
    obtain ⟨category, -, rfl⟩ := Option.map_eq_some_iff.mp found
    rcases forced with rfl | rfl
    · exact shows.us
    · exact shows.health

/-- Opened on what a screen has saved, the screen shows the same. -/
theorem Shows.reopened {vm : SettingSubTabsViewModel} (h : Shows enabled vm)
    {setting : SettingManager} (stored : setting.categories = vm.enabledCategories) :
    (({} : SettingSubTabsViewModel).getAllCellViewModel setting).cells = vm.cells := by
  have same : (fun c => decide (c = .us ∨ c = .health) || setting.categories.contains c) =
      enabled := by
    funext c
    rw [stored, h.enabledCategories]
    by_cases forced : c = .us ∨ c = .health
    · rcases forced with rfl | rfl
      · simp [h.us]
      · simp [h.health]
    · simp [forced, CategoryType.mem_allCases]
  rw [(shows_getAllCellViewModel setting).cells, same, h.cells]

/-- **A save attempt of a session** leaves stored exactly the enabled categories in the
order of `allCases`. It writes and posts them if they are not those decoded before, and
the screen opens again as it was left. -/
theorem setting_session (h : machine.Reachable Opened s) {vm : SettingSubTabsViewModel}
    {setting : SettingManager} {posted : Bool}
    (saved : s.screen.saveSettingSubTabs s.setting = (vm, setting, posted)) :
    setting.categories = vm.enabledCategories ∧
    vm.enabledCategories.Sublist CategoryType.allCases ∧ vm.enabledCategories.Nodup ∧
    .us ∈ vm.enabledCategories ∧ .health ∈ vm.enabledCategories ∧
    (posted = true ↔ vm.enabledCategories ≠ s.setting.categories) ∧
    setting.stored =
      (if posted then some (vm.enabledCategories.map CategoryType.rawValue)
        else s.setting.stored) ∧
    vm.cells = s.screen.cells ∧
    (({} : SettingSubTabsViewModel).getAllCellViewModel setting).cells = vm.cells := by
  obtain ⟨enabled, before⟩ := reachable_shows h
  obtain ⟨cells, categories, outcome⟩ := saveSettingSubTabs_cases saved
  have shows : Shows enabled vm :=
    ⟨categories.trans before.categories, cells.trans before.cells, before.us, before.health⟩
  have same : s.screen.enabledCategories = vm.enabledCategories := by
    rw [before.enabledCategories, shows.enabledCategories]
  rw [same] at outcome
  have chosen := shows.enabledCategories
  have order : vm.enabledCategories.Sublist CategoryType.allCases := chosen ▸ List.filter_sublist
  have distinct : vm.enabledCategories.Nodup := CategoryType.nodup_allCases.sublist order
  have us : .us ∈ vm.enabledCategories := by
    rw [chosen]
    exact List.mem_filter.mpr ⟨CategoryType.mem_allCases _, shows.us⟩
  have health : .health ∈ vm.enabledCategories := by
    rw [chosen]
    exact List.mem_filter.mpr ⟨CategoryType.mem_allCases _, shows.health⟩
  have stored : setting.categories = vm.enabledCategories := by
    obtain ⟨-, kept, rfl⟩ | ⟨-, -, rfl⟩ := outcome
    · exact kept.symm
    · exact SettingManager.categories_setCategories _
  refine ⟨stored, order, distinct, us, health, ?_, ?_, cells, shows.reopened stored⟩
  · obtain ⟨rfl, kept, -⟩ | ⟨rfl, differs, -⟩ := outcome
    · simp [kept]
    · simp [differs]
  · obtain ⟨rfl, -, rfl⟩ | ⟨rfl, -, rfl⟩ := outcome
    · rfl
    · rfl

/-- A session on a stored array with a repeated and an unknown value, and science
switched on. -/
def scienceEnabled : SettingSession :=
  (machine.run (opened ⟨some [1, 1, 42]⟩) [.checkButtonTouchUpInside 2]).getD (opened {})

theorem setting_session_science : ∃ vm setting,
    scienceEnabled.screen.saveSettingSubTabs scienceEnabled.setting = (vm, setting, true) ∧
    setting.stored = some [0, 3, 4, 1] ∧ setting.categories = vm.enabledCategories := by
  have reached : machine.Reachable Opened scienceEnabled :=
    Machine.reachable_getD _ ⟨_, rfl⟩ (by decide)
  obtain ⟨stored, -⟩ := setting_session reached rfl
  exact ⟨_, _, by decide, by decide, stored⟩

end Session

end SettingSession

end NewsReader
