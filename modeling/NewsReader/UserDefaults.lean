import NewsReader.ImageLookup
import NewsReader.Setting

/-!
# The user defaults

The settings and the image cache are kept in one dictionary, under keys of their own.
Here the operations of both are over that dictionary, as the source has them.

* `storage_run`: a run of both is, of each, the run of its own operations, and touches no
  other key;
* `loadImage_downloads`: nothing is ever stored under the url of an image, so a screen that
  looks there before it downloads always downloads.
-/

namespace NewsReader

/-- A value of the defaults, as far as the program tells them apart. `other` casts to
nothing it asks for. -/
inductive PropertyList
  | integers (array : List Int)
  | dataImages (dictionary : DictionaryDataImage)
  | data (data : Data)
  | other
  deriving DecidableEq

structure Default where
  key : String
  value : PropertyList
  deriving DecidableEq

abbrev UserDefaults := Table Default.key

namespace UserDefaults

def value (defaults : UserDefaults) (key : String) : Option PropertyList :=
  (defaults.find key).map (·.value)

/-- `array(forKey:) as? [Int]`. -/
def array (defaults : UserDefaults) (key : String) : Option (List Int) :=
  match defaults.value key with
  | some (.integers array) => some array
  | _ => none

/-- `dictionary(forKey:) as? DictionaryDataImage`. -/
def dictionary (defaults : UserDefaults) (key : String) : Option DictionaryDataImage :=
  match defaults.value key with
  | some (.dataImages dictionary) => some dictionary
  | _ => none

/-- `data(forKey:)`. -/
def data (defaults : UserDefaults) (key : String) : Option Data :=
  match defaults.value key with
  | some (.data data) => some data
  | _ => none

def set (defaults : UserDefaults) (value : PropertyList) (key : String) : UserDefaults :=
  defaults.upsert ⟨key, value⟩

def removeObject (defaults : UserDefaults) (key : String) : UserDefaults := defaults.erase key

section

variable {defaults : UserDefaults} {key other : String}

@[simp] theorem value_set (defaults : UserDefaults) (v : PropertyList) (key other : String) :
    (defaults.set v key).value other = if other = key then some v else defaults.value other := by
  by_cases same : other = key
  · subst same
    rw [if_pos rfl]
    exact congrArg (Option.map _) (Table.find_upsert_self defaults ⟨other, v⟩)
  · rw [if_neg same]
    exact congrArg (Option.map _) (Table.find_upsert_ne same)

@[simp] theorem value_removeObject (defaults : UserDefaults) (key other : String) :
    (defaults.removeObject key).value other = if other = key then none else defaults.value other := by
  by_cases same : other = key
  · subst same
    rw [if_pos rfl]
    exact congrArg (Option.map _) (Table.find_erase_self defaults other)
  · rw [if_neg same]
    exact congrArg (Option.map _) (Table.find_erase_ne same)

theorem data_eq_none_iff :
    defaults.data key = none ↔ ∀ data, defaults.value key ≠ some (.data data) := by
  unfold data
  split
  · rename_i stored
    simp [stored]
  · rename_i other
    simpa using other

end

end UserDefaults

/-! ## What is kept there -/

/-- The defaults, with the queue of images that lives as long as the process. -/
structure Storage where
  defaults : UserDefaults := Table.empty _
  dataImageKeys : List String := []
  deriving DecidableEq

/-- What a screen does for the image of an article. -/
inductive ImageLoad (Image : Type)
  | completes (image : Option Image)
  | downloadImage (urlString : String)
  deriving DecidableEq, Repr

namespace Storage

/-- The getter of `SettingManager.categories`. -/
def categories (s : Storage) : List CategoryType :=
  match s.defaults.array "Key" with
  | none => CategoryType.allCases
  | some array => array.filterMap CategoryType.ofRawValue

/-- The setter. -/
def setCategories (s : Storage) (newValue : List CategoryType) : Storage :=
  let categoriesRaw := newValue.map CategoryType.rawValue
  { s with defaults := s.defaults.set (.integers categoriesRaw) "Key" }

def configSaveImage (s : Storage) (urlString : String) (data : Data) : Option Storage :=
  match s.defaults.dictionary "dataImages" with
  | none => some s
  | some dataImages =>
    let dataImageKeys := s.dataImageKeys ++ [urlString]
    let dataImages := dataImages.upsert ⟨urlString, data⟩
    if dataImageKeys.length > 60 then do
      let oldest ← dataImageKeys[0]?
      let dataImages := dataImages.erase oldest
      return ⟨s.defaults.set (.dataImages dataImages) "dataImages", dataImageKeys.eraseIdx 0⟩
    else some ⟨s.defaults.set (.dataImages dataImages) "dataImages", dataImageKeys⟩

def clearImageData (s : Storage) : Storage :=
  { s with defaults := s.defaults.removeObject "dataImages" }

def configImageDataStorage (s : Storage) : Storage :=
  { s with defaults := s.defaults.set (.dataImages (Table.empty _)) "dataImages" }

def downloadImage (isURL : String → Bool) (s : Storage) (urlString : String)
    (result : Result (Option Data)) : Option Storage :=
  if isURL urlString then
    match result with
    | .failure _ => some s
    | .success (some data) => s.configSaveImage urlString data
    | .success none => some s
  else some s

/-- `loadImage` of the four view models that have one. -/
def loadImage {Image : Type} (decode : Data → Option Image) (s : Storage)
    (urlImage : Option String) : ImageLoad Image :=
  match s.defaults.data (urlImage.getD "") with
  | some newsImageData => .completes (decode newsImageData)
  | none => .downloadImage (urlImage.getD "")

end Storage

/-- What happens to the defaults: a save of settings, and the operations on images. -/
inductive StorageEvent
  | setCategories (newValue : List CategoryType)
  | image (e : ImageEvent)
  deriving DecidableEq, Repr

namespace Storage

variable (isURL : String → Bool)

def handle (s : Storage) : StorageEvent → Option Storage
  | .setCategories newValue => some (s.setCategories newValue)
  | .image .configImageDataStorage => some s.configImageDataStorage
  | .image .clearImageData => some s.clearImageData
  | .image (.downloadImage urlString result) => s.downloadImage isURL urlString result

def machine : Machine Storage StorageEvent where
  allowed _ _ := True
  step := handle isURL

instance (s : Storage) (e : StorageEvent) : Decidable ((machine isURL).allowed s e) :=
  .isTrue trivial

/-! ## The two clients -/

/-- What the settings are in the defaults. -/
def setting (s : Storage) : SettingManager := ⟨s.defaults.array "Key"⟩

/-- What the image cache is. -/
def downloader (s : Storage) : Downloader :=
  ⟨s.dataImageKeys, s.defaults.dictionary "dataImages"⟩

end Storage

def StorageEvent.setting : StorageEvent → Option (List CategoryType)
  | .setCategories newValue => some newValue
  | .image _ => none

def StorageEvent.image? : StorageEvent → Option ImageEvent
  | .setCategories _ => none
  | .image e => some e

/-- Saves by themselves. -/
def SettingManager.machine : Machine SettingManager (List CategoryType) where
  allowed _ _ := True
  step _ newValue := some (SettingManager.setCategories newValue)

instance (setting : SettingManager) (newValue : List CategoryType) :
    Decidable (SettingManager.machine.allowed setting newValue) := .isTrue trivial

namespace Storage

variable {isURL : String → Bool} {s t : Storage}

@[simp] theorem setting_categories (s : Storage) : s.setting.categories = s.categories := by
  unfold SettingManager.categories Storage.categories setting
  cases s.defaults.array "Key" <;> rfl

/-- A value written under a key is read back there, and nowhere else. -/
theorem dictionary_set (defaults : UserDefaults) (dataImages : DictionaryDataImage) :
    (defaults.set (.dataImages dataImages) "dataImages").dictionary "dataImages" =
      some dataImages := by
  simp [UserDefaults.dictionary]

theorem array_set (defaults : UserDefaults) (array : List Int) :
    (defaults.set (.integers array) "Key").array "Key" = some array := by
  simp [UserDefaults.array]

theorem configSaveImage_downloader (s : Storage) (urlString : String) (data : Data) :
    (s.configSaveImage urlString data).map downloader =
      s.downloader.configSaveImage urlString data := by
  unfold configSaveImage Downloader.configSaveImage
  cases stored : s.defaults.dictionary "dataImages" with
  | none => simp [downloader, stored]
  | some dataImages =>
    simp only [downloader, stored]
    split
    · cases oldest : (s.dataImageKeys ++ [urlString])[0]? with
      | none => rfl
      | some key => simp [downloader, dictionary_set]
    · simp [downloader, dictionary_set]

theorem downloadImage_downloader (s : Storage) (urlString : String)
    (result : Result (Option Data)) :
    (s.downloadImage isURL urlString result).map downloader =
      s.downloader.downloadImage isURL urlString result := by
  unfold downloadImage Downloader.downloadImage
  split
  · cases result with
    | failure error => rfl
    | success data =>
      cases data with
      | none => rfl
      | some data => exact configSaveImage_downloader s urlString data
  · rfl

theorem configSaveImage_defaults {urlString : String} {data : Data}
    (saved : s.configSaveImage urlString data = some t) :
    t.defaults = s.defaults ∨
      ∃ images, t.defaults = s.defaults.set (.dataImages images) "dataImages" := by
  unfold configSaveImage at saved
  split at saved
  · obtain rfl := Option.some.inj saved
    exact Or.inl rfl
  · dsimp only at saved
    split at saved
    · obtain ⟨oldest, -, same⟩ := Option.bind_eq_some_iff.mp saved
      obtain rfl := Option.some.inj same
      exact Or.inr ⟨_, rfl⟩
    · obtain rfl := Option.some.inj saved
      exact Or.inr ⟨_, rfl⟩

/-- What an operation writes: settings, or images, or nothing. -/
theorem handle_defaults {e : StorageEvent} (stepped : s.handle isURL e = some t) :
    t.defaults = s.defaults ∨
    (∃ array, e.setting.isSome = true ∧ t.defaults = s.defaults.set (.integers array) "Key") ∨
    e.setting = none ∧ (t.defaults = s.defaults.removeObject "dataImages" ∨
      ∃ images, t.defaults = s.defaults.set (.dataImages images) "dataImages") := by
  cases e with
  | setCategories newValue =>
    obtain rfl := Option.some.inj stepped
    exact Or.inr (Or.inl ⟨_, rfl, rfl⟩)
  | image e =>
    cases e with
    | configImageDataStorage =>
      obtain rfl := Option.some.inj stepped
      exact Or.inr (Or.inr ⟨rfl, Or.inr ⟨_, rfl⟩⟩)
    | clearImageData =>
      obtain rfl := Option.some.inj stepped
      exact Or.inr (Or.inr ⟨rfl, Or.inl rfl⟩)
    | downloadImage urlString result =>
      simp only [handle, downloadImage] at stepped
      split at stepped
      · split at stepped
        · obtain rfl := Option.some.inj stepped
          exact Or.inl rfl
        · obtain same | ⟨images, written⟩ := configSaveImage_defaults stepped
          · exact Or.inl same
          · exact Or.inr (Or.inr ⟨rfl, Or.inr ⟨images, written⟩⟩)
        · obtain rfl := Option.some.inj stepped
          exact Or.inl rfl
      · obtain rfl := Option.some.inj stepped
        exact Or.inl rfl

theorem value_of_image {e : ImageEvent} {key : String}
    (stepped : s.handle isURL (.image e) = some t) (other : key ≠ "dataImages") :
    t.defaults.value key = s.defaults.value key := by
  obtain same | ⟨_, saves, -⟩ | ⟨-, removed | ⟨images, written⟩⟩ := handle_defaults stepped
  · rw [same]
  · cases saves
  · simp [removed, other]
  · simp [written, other]

/-- **One operation** is one of the settings or one of the image cache, and leaves the other
and every other key alone. -/
theorem handle_cases {e : StorageEvent} (stepped : s.handle isURL e = some t) :
    (∃ newValue, e = .setCategories newValue ∧ t.setting = SettingManager.setCategories newValue ∧
      t.downloader = s.downloader) ∨
    ∃ image, e = .image image ∧ s.downloader.handleImage isURL image = some t.downloader ∧
      t.setting = s.setting := by
  cases e with
  | setCategories newValue =>
    obtain rfl := Option.some.inj stepped
    refine Or.inl ⟨newValue, rfl, ?_, ?_⟩
    · simp [setting, setCategories, SettingManager.setCategories, array_set]
    · simp [downloader, setCategories, UserDefaults.dictionary]
  | image e =>
    refine Or.inr ⟨e, rfl, ?_, ?_⟩
    · cases e with
      | configImageDataStorage =>
        obtain rfl := Option.some.inj stepped
        simp [Downloader.handleImage, Downloader.configImageDataStorage, downloader,
          configImageDataStorage, dictionary_set]
      | clearImageData =>
        obtain rfl := Option.some.inj stepped
        simp [Downloader.handleImage, Downloader.clearImageData, downloader, clearImageData,
          UserDefaults.dictionary]
      | downloadImage urlString result =>
        have same : (s.downloadImage isURL urlString result).map downloader =
            s.downloader.downloadImage isURL urlString result :=
          downloadImage_downloader s urlString result
        rw [show s.downloadImage isURL urlString result = some t from stepped] at same
        exact same.symm
    · have kept := value_of_image stepped (by decide : "Key" ≠ "dataImages")
      simp [setting, UserDefaults.array, kept]

theorem value_handle {e : StorageEvent} {key : String} (stepped : s.handle isURL e = some t)
    (setting : key ≠ "Key") (images : key ≠ "dataImages") :
    t.defaults.value key = s.defaults.value key := by
  cases e with
  | setCategories newValue =>
    obtain rfl := Option.some.inj stepped
    simp [setCategories, setting]
  | image e => exact value_of_image stepped images

/-- No operation on the defaults traps. -/
theorem handle_isSome (isURL : String → Bool) (s : Storage) (e : StorageEvent) :
    (s.handle isURL e).isSome = true := by
  cases e with
  | setCategories newValue => rfl
  | image e =>
    cases e with
    | configImageDataStorage | clearImageData => rfl
    | downloadImage urlString result =>
      simp only [handle, downloadImage]
      split
      · split
        · rfl
        · rename_i data
          rw [← Option.isSome_map, configSaveImage_downloader]
          exact s.downloader.handle_isSome (.configSaveImage urlString data)
        · rfl
      · rfl

/-- **Settings and images share the defaults** without touching one another: a run of both
is a run of the saves on the settings, and one of the downloads on the image cache. -/
theorem storage_run {es : List StorageEvent} (ran : (machine isURL).run s es = some t) :
    SettingManager.machine.run s.setting (es.filterMap StorageEvent.setting) = some t.setting ∧
    (Downloader.imageMachine isURL).run s.downloader (es.filterMap StorageEvent.image?) =
      some t.downloader ∧
    ∀ key, key ≠ "Key" → key ≠ "dataImages" → t.defaults.value key = s.defaults.value key := by
  refine ⟨?_, ?_, ?_⟩
  · apply Machine.run_part setting StorageEvent.setting _ _ ran
    · intro s e t away _ stepped
      obtain ⟨newValue, rfl, -⟩ | ⟨image, -, -, same⟩ := handle_cases stepped
      · cases away
      · exact same
    · intro s e t newValue own _ stepped
      obtain ⟨newValue', rfl, saved, -⟩ | ⟨image, rfl, -⟩ := handle_cases stepped
      · obtain rfl := Option.some.inj own
        exact ⟨trivial, congrArg some saved.symm⟩
      · cases own
  · apply Machine.run_part downloader StorageEvent.image? _ _ ran
    · intro s e t away _ stepped
      obtain ⟨newValue, -, -, same⟩ | ⟨image, rfl, -⟩ := handle_cases stepped
      · exact same
      · cases away
    · intro s e t image own _ stepped
      obtain ⟨newValue, rfl, -⟩ | ⟨image', rfl, handled, -⟩ := handle_cases stepped
      · cases own
      · obtain rfl := Option.some.inj own
        exact ⟨trivial, handled⟩
  · intro key setting images
    have reached : (machine isURL).Reachable (· = s) t := Machine.reachable_run rfl ran
    apply reached.invariant (fun u => u.defaults.value key = s.defaults.value key)
    · rintro u rfl
      rfl
    · intro u e v _ same _ stepped
      exact (value_handle stepped setting images).trans same

/-! ## Images by their url -/

/-- Nothing the program writes is data. -/
theorem data_handle {e : StorageEvent} (stepped : s.handle isURL e = some t)
    (empty : ∀ key, s.defaults.data key = none) (key : String) : t.defaults.data key = none := by
  have before := UserDefaults.data_eq_none_iff.mp (empty key)
  rw [UserDefaults.data_eq_none_iff]
  intro data
  obtain same | ⟨array, -, written⟩ | ⟨-, removed | ⟨images, written⟩⟩ := handle_defaults stepped
  · rw [same]
    exact before data
  · rw [written, UserDefaults.value_set]
    split
    · nofun
    · exact before data
  · rw [removed, UserDefaults.value_removeObject]
    split
    · nofun
    · exact before data
  · rw [written, UserDefaults.value_set]
    split
    · nofun
    · exact before data

/-- **The look before a download is in vain**: whatever has been downloaded and saved, and
whatever of the cache is dropped, a screen that loads an image downloads it. -/
theorem loadImage_downloads {Image : Type} (decode : Data → Option Image)
    (h : (machine isURL).Reachable (fun s => ∀ key, s.defaults.data key = none) s)
    (urlImage : Option String) :
    s.loadImage decode urlImage = .downloadImage (urlImage.getD "") := by
  have empty : ∀ key, s.defaults.data key = none := by
    apply h.invariant (fun s => ∀ key, s.defaults.data key = none)
    · exact fun _ first => first
    · exact fun _ _ _ _ empty _ stepped => data_handle stepped empty
  rw [loadImage, empty]

/-- Settings saved and an image downloaded, one after the other. -/
def savedAndDownloaded : List StorageEvent :=
  [.image .configImageDataStorage, .setCategories [.us, .sports],
    .image (.downloadImage "https://a.example/mars.png" (.success (some [0x89])))]

theorem storage_run_saved :
    ∃ t, (machine anyURL).run {} savedAndDownloaded = some t ∧
      t.setting = ⟨some [0, 5]⟩ ∧
      t.downloader.dataImage "https://a.example/mars.png" = some [0x89] ∧
      (Downloader.imageMachine anyURL).run ({} : Storage).downloader
        (savedAndDownloaded.filterMap StorageEvent.image?) = some t.downloader := by
  obtain ⟨t, ran⟩ : ∃ t, (machine anyURL).run {} savedAndDownloaded = some t := ⟨_, rfl⟩
  obtain ⟨saved, images, -⟩ := storage_run ran
  obtain rfl := Option.some.inj ran
  exact ⟨_, rfl, by decide, by decide, images⟩

/-- The image of `storage_run_saved` is loaded: it is downloaded again. -/
theorem loadImage_downloads_saved :
    (((machine anyURL).run {} savedAndDownloaded).getD {}).loadImage some
      (some "https://a.example/mars.png") = .downloadImage "https://a.example/mars.png" :=
  loadImage_downloads some (Machine.reachable_getD _ (fun _ => rfl) (by decide)) _

end Storage

end NewsReader
