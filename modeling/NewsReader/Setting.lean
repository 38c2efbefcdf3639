import NewsReader.News

/-!
# Category settings

`SettingManager` keeps the chosen categories in `UserDefaults` as an array of
raw values; `SettingSubTabsViewModel` is the screen that edits them.
-/

namespace NewsReader

/-- What `UserDefaults` holds under "Key": an integer array, or nothing that
casts to one. -/
structure SettingManager where
  stored : Option (List Int) := none
  deriving DecidableEq, Repr

def SettingManager.categories (setting : SettingManager) : List CategoryType :=
  match setting.stored with
  | none => CategoryType.allCases
  | some array => array.filterMap CategoryType.ofRawValue

def SettingManager.setCategories (newValue : List CategoryType) : SettingManager :=
  { stored := some (newValue.map CategoryType.rawValue) }

@[simp] theorem SettingManager.categories_setCategories (newValue : List CategoryType) :
    (SettingManager.setCategories newValue).categories = newValue := by
  simp [SettingManager.categories, SettingManager.setCategories, List.filterMap_map]

structure SubTabsCellViewModel where
  category : CategoryType
  isEnable : Bool
  row : Nat
  deriving DecidableEq, Repr

structure SettingSubTabsViewModel where
  categories : List CategoryType := CategoryType.allCases
  cells : List SubTabsCellViewModel := []
  categoriesSelected : List CategoryType := []
  deriving DecidableEq, Repr

namespace SettingSubTabsViewModel

def getIsActive (vm : SettingSubTabsViewModel) (category : CategoryType) : Bool :=
  if category = .us ∨ category = .health then true
  else vm.categoriesSelected.contains category

def getAllCellViewModel (vm : SettingSubTabsViewModel) (setting : SettingManager) :
    SettingSubTabsViewModel :=
  let vm := { vm with categoriesSelected := setting.categories }
  { vm with
    cells := vm.cells ++ vm.categories.zipIdx.map fun (category, index) =>
      { category, isEnable := vm.getIsActive category, row := index } }

def changeStatus (vm : SettingSubTabsViewModel) (row : Nat) : SettingSubTabsViewModel :=
  if row ≥ vm.categories.length then vm
  else
    { vm with cells := vm.cells.modify row fun cell => { cell with isEnable := !cell.isEnable } }

/-- What a save attempt leaves: the screen, the settings, and whether
`settingCategories` was posted. -/
def saveSettingSubTabs (vm : SettingSubTabsViewModel) (setting : SettingManager) :
    SettingSubTabsViewModel × SettingManager × Bool :=
  let vm := { vm with
    categoriesSelected := (vm.cells.filter (·.isEnable)).map (·.category) }
  if vm.categoriesSelected = setting.categories then (vm, setting, false)
  else (vm, SettingManager.setCategories vm.categoriesSelected, true)

/-- What the cells let a user reach: one cell a category, in the order of
`allCases`, with us and health enabled (`checkButtonTouchUpInside` blocks them). -/
def Permitted (vm : SettingSubTabsViewModel) : Prop :=
  vm.categories = CategoryType.allCases ∧
  vm.cells.map (·.category) = CategoryType.allCases ∧
  ∀ cell ∈ vm.cells, cell.category = .us ∨ cell.category = .health → cell.isEnable = true

instance (vm : SettingSubTabsViewModel) : Decidable vm.Permitted := by
  unfold Permitted
  infer_instance

/-- The save button: a saved list decodes to the enabled cells' categories. -/
theorem saveSettingSubTabs_posted {vm vm' : SettingSubTabsViewModel}
    {setting setting' : SettingManager}
    (h : vm.saveSettingSubTabs setting = (vm', setting', true)) :
    setting'.categories = (vm.cells.filter (·.isEnable)).map (·.category) ∧
    setting'.categories ≠ setting.categories := by
  simp only [saveSettingSubTabs] at h
  split at h
  · simp at h
  · rename_i differs
    obtain ⟨-, rfl⟩ : _ ∧ SettingManager.setCategories _ = setting' := by simpa using h
    exact ⟨by simp, by simpa using differs⟩

/-- Us is always among the saved categories. -/
theorem Permitted.selected_ne_nil {vm : SettingSubTabsViewModel} (h : vm.Permitted) :
    (vm.cells.filter (·.isEnable)).map (·.category) ≠ [] := by
  obtain ⟨-, order, forced⟩ := h
  have us : CategoryType.us ∈ vm.cells.map (·.category) := order ▸ CategoryType.mem_allCases _
  obtain ⟨cell, mem, named⟩ := List.mem_map.mp us
  have kept : cell ∈ vm.cells.filter (·.isEnable) :=
    List.mem_filter.mpr ⟨mem, forced cell mem (Or.inl named)⟩
  simpa using List.ne_nil_of_mem kept

end SettingSubTabsViewModel

end NewsReader
