import NewsReader.Downloader

/-!
# Finding a downloaded image

A cell looks its image up in the stored dictionary, and asks for a download where
it finds nothing. The download saves what came, decodes it, and hands the image to
the cell, which reloads and looks again. `decode` is `UIImage(data:)`.

* `downloaded_image_found`: what was received is what the lookup finds, exactly
  where an image finds room and nothing else is saved.
-/

namespace NewsReader

/-- What happens to the cache from outside, with what each data task ends with. -/
inductive ImageEvent
  | configImageDataStorage
  | clearImageData
  | downloadImage (urlString : String) (result : Result (Option Data))
  deriving DecidableEq, Repr

/-- What a cell does about its image when it is configured. -/
inductive CellImage (Image : Type)
  | shows (image : Option Image)
  | loadImage
  deriving DecidableEq, Repr

namespace Downloader

/-- `dataImages[urlString]`, in the dictionary that is stored. -/
def dataImage (d : Downloader) (urlString : String) : Option Data :=
  d.dataImages.bind fun dataImages => (dataImages.find urlString).map DataImage.data

variable (isURL : String → Bool) {Image : Type} (decode : Data → Option Image)

/-- `NewsTableViewCell.updateUI()`, as far as the image goes. -/
def updateUI (d : Downloader) (urlImage : String) : CellImage Image :=
  match d.dataImage urlImage with
  | some data => .shows (decode data)
  | none => .loadImage

/-- The image `downloadImage` completes with. -/
def completion (urlString : String) (result : Result (Option Data)) : Option Image :=
  if isURL urlString then
    match result with
    | .failure _ => none
    | .success (some data) => decode data
    | .success none => none
  else none

def handleImage (d : Downloader) : ImageEvent → Option Downloader
  | .configImageDataStorage => some d.configImageDataStorage
  | .clearImageData => some d.clearImageData
  | .downloadImage urlString result => d.downloadImage isURL urlString result

def imageMachine : Machine Downloader ImageEvent where
  allowed _ _ := True
  step := handleImage isURL

instance (d : Downloader) (e : ImageEvent) : Decidable ((imageMachine isURL).allowed d e) :=
  .isTrue trivial

/-! ## What is to hold -/

/-- Nothing but images is stored. -/
def OnlyImages (d : Downloader) : Prop :=
  ∀ dataImages, d.dataImages = some dataImages →
    ∀ row ∈ dataImages.rows, (decode row.data).isSome = true

/-- The lookup after a download finds an image if and only if one was received, and
a cell that received one does not ask again. -/
structure Served (t : Downloader) (urlString : String) (received : Option Image) : Prop where
  found : ((t.dataImage urlString).bind decode).isSome = true ↔ received.isSome = true
  shown : received.isSome = true → t.updateUI decode urlString ≠ .loadImage

/-- After an event only images are stored, and a download has served its cell. -/
structure Arrived (t : Downloader) (e : ImageEvent) : Prop where
  images : t.OnlyImages decode
  served : ∀ urlString result, e = .downloadImage urlString result →
    t.Served decode urlString (completion isURL decode urlString result)

/-! ## When it holds -/

/-- The queue is full, and the next image to be dropped is the one that is saved. -/
def DropsNext (d : Downloader) (urlString : String) : Prop :=
  60 ≤ d.dataImageKeys.length ∧ d.dataImageKeys[0]? = some urlString

/-- An image comes where there is storage and it is not dropped at once, anything else
where it is not kept, and nothing comes for an image that is already there. -/
def Arrives (d : Downloader) : ImageEvent → Prop
  | .configImageDataStorage => True
  | .clearImageData => True
  | .downloadImage urlString result =>
    if isURL urlString then
      match result with
      | .success (some data) =>
        if (decode data).isSome then d.dataImages.isSome = true ∧ ¬ d.DropsNext urlString
        else d.dataImages = none ∨ d.DropsNext urlString
      | _ => d.dataImage urlString = none
    else d.dataImage urlString = none

section Save

variable {isURL decode} {d t : Downloader} {urlString : String} {data : Data}
  {dataImages : DictionaryDataImage}

/-- What is stored after a save: what was saved unless it is dropped, and nothing that
was not stored before. -/
theorem rows_configSaveImage (present : d.dataImages = some dataImages)
    (saved : d.configSaveImage urlString data = some t) :
    ∃ stored, t.dataImages = some stored ∧
      (⟨urlString, data⟩ ∈ stored.rows ↔ ¬ d.DropsNext urlString) ∧
      ∀ row ∈ stored.rows, row = ⟨urlString, data⟩ ∨ row ∈ dataImages.rows ∧
        row.urlString ≠ urlString := by
  have new : (⟨urlString, data⟩ : DataImage) ∈ (dataImages.upsert ⟨urlString, data⟩).rows :=
    Table.mem_upsert.mpr (Or.inl rfl)
  obtain ⟨room, rfl⟩ | ⟨oldest, rest, full, queue, rfl⟩ := configSaveImage_cases present saved
  · refine ⟨_, rfl, ?_, fun row mem => Table.mem_upsert.mp mem⟩
    have kept : ¬ d.DropsNext urlString := fun drops => by
      have := drops.1
      omega
    exact ⟨fun _ => kept, fun _ => new⟩
  · have first : d.dataImageKeys[0]? = some oldest := by
      have head := congrArg (·[0]?) queue
      rw [List.getElem?_append_left (by omega)] at head
      simpa using head
    refine ⟨_, rfl, ?_, fun row mem => Table.mem_upsert.mp (Table.mem_erase.mp mem).1⟩
    rw [Table.mem_erase]
    constructor
    · rintro ⟨_, other⟩ ⟨_, drops⟩
      rw [first] at drops
      exact other (Option.some.inj drops).symm
    · intro kept
      refine ⟨new, ?_⟩
      rintro rfl
      exact kept ⟨full, first⟩

theorem dataImage_eq_some :
    d.dataImage urlString = some data ↔
      ∃ dataImages, d.dataImages = some dataImages ∧ ⟨urlString, data⟩ ∈ dataImages.rows := by
  simp only [dataImage, Option.bind_eq_some_iff, Option.map_eq_some_iff, Table.find_eq_some_iff]
  constructor
  · rintro ⟨dataImages, present, row, ⟨mem, rfl⟩, rfl⟩
    exact ⟨dataImages, present, mem⟩
  · rintro ⟨dataImages, present, mem⟩
    exact ⟨dataImages, present, _, ⟨mem, rfl⟩, rfl⟩

theorem dataImage_eq_none :
    d.dataImage urlString = none ↔
      ∀ dataImages, d.dataImages = some dataImages →
        ∀ row ∈ dataImages.rows, row.urlString ≠ urlString := by
  rw [Option.eq_none_iff_forall_ne_some]
  simp only [ne_eq, dataImage_eq_some]
  constructor
  · rintro absent dataImages present row mem rfl
    exact absent row.data ⟨dataImages, present, mem⟩
  · rintro absent data ⟨dataImages, present, mem⟩
    exact absent dataImages present _ mem rfl

theorem dataImage_of_absent (absent : d.dataImages = none) : d.dataImage urlString = none := by
  rw [dataImage, absent, Option.bind_none]

/-- An image that is dropped as it is saved is not found. -/
theorem dataImage_of_drops (saved : d.configSaveImage urlString data = some t)
    (drops : d.DropsNext urlString) : t.dataImage urlString = none := by
  cases present : d.dataImages with
  | none =>
    have same : t = d := Option.mem_unique saved (configSaveImage_absent present)
    exact same ▸ dataImage_of_absent present
  | some dataImages =>
    obtain ⟨stored, after, kept, rows⟩ := rows_configSaveImage present saved
    rw [dataImage_eq_none, after]
    rintro _ ⟨⟩ row mem
    obtain rfl | ⟨_, other⟩ := rows row mem
    · exact absurd drops (kept.mp mem)
    · exact other

/-- Where the lookup finds nothing, nothing was to be received. -/
theorem served_iff_of_none {received : Option Image} (missing : t.dataImage urlString = none) :
    t.Served decode urlString received ↔ received = none := by
  constructor
  · intro served
    have found := served.found
    rw [missing] at found
    simpa using found
  · rintro rfl
    exact ⟨by simp [missing], nofun⟩

theorem served_of_some {received : Option Image} (there : t.dataImage urlString = some data)
    (same : (decode data).isSome = received.isSome) : t.Served decode urlString received := by
  constructor
  · rw [there, Option.bind_some, same]
  · intro _
    simp [updateUI, there]

theorem save_served_iff (only : d.OnlyImages decode)
    (saved : d.configSaveImage urlString data = some t) :
    t.OnlyImages decode ∧ t.Served decode urlString (decode data) ↔
      if (decode data).isSome then d.dataImages.isSome = true ∧ ¬ d.DropsNext urlString
      else d.dataImages = none ∨ d.DropsNext urlString := by
  cases present : d.dataImages with
  | none =>
    -- nothing is saved, so nothing can be found
    have same : t = d := Option.mem_unique saved (configSaveImage_absent present)
    rw [served_iff_of_none (same ▸ dataImage_of_absent present)]
    have images : t.OnlyImages decode := same ▸ only
    cases decode data <;> simp [images]
  | some dataImages =>
    obtain ⟨stored, after, kept, rows⟩ := rows_configSaveImage present saved
    by_cases drops : d.DropsNext urlString
    · have gone : ⟨urlString, data⟩ ∉ stored.rows := fun mem => kept.mp mem drops
      have old : ∀ row ∈ stored.rows, row ∈ dataImages.rows := by
        intro row mem
        obtain rfl | ⟨old, _⟩ := rows row mem
        · exact absurd mem gone
        · exact old
      have images : t.OnlyImages decode := by
        rw [OnlyImages, after]
        rintro _ ⟨⟩ row mem
        exact only dataImages present row (old row mem)
      rw [served_iff_of_none (dataImage_of_drops saved drops)]
      cases decode data <;> simp [images, drops]
    · have new : ⟨urlString, data⟩ ∈ stored.rows := kept.mpr drops
      have there : t.dataImage urlString = some data := dataImage_eq_some.mpr ⟨stored, after, new⟩
      have served : t.Served decode urlString (decode data) := served_of_some there rfl
      have images : t.OnlyImages decode ↔ (decode data).isSome = true := by
        constructor
        · intro images
          exact images stored after _ new
        · intro image
          rw [OnlyImages, after]
          rintro _ ⟨⟩ row mem
          obtain rfl | ⟨old, _⟩ := rows row mem
          · exact image
          · exact only dataImages present row old
      rw [images, and_iff_left served]
      cases decode data <;> simp [drops]

/-- A completion without an image serves its cell where nothing is stored for it. -/
theorem unsaved_served_iff (only : d.OnlyImages decode) :
    d.OnlyImages decode ∧ d.Served decode urlString none ↔ d.dataImage urlString = none := by
  constructor
  · rintro ⟨_, served⟩
    cases there : d.dataImage urlString with
    | none => rfl
    | some data =>
      obtain ⟨dataImages, present, mem⟩ := dataImage_eq_some.mp there
      have image := only dataImages present _ mem
      have found := served.found
      rw [there, Option.bind_some] at found
      exact absurd (found.mp image) (by simp)
  · intro missing
    exact ⟨only, (served_iff_of_none missing).mpr rfl⟩

theorem arrived_download_iff {result : Result (Option Data)} :
    t.Arrived isURL decode (.downloadImage urlString result) ↔
      t.OnlyImages decode ∧
        t.Served decode urlString (completion isURL decode urlString result) := by
  constructor
  · intro arrived
    exact ⟨arrived.images, arrived.served _ _ rfl⟩
  · rintro ⟨images, served⟩
    refine ⟨images, ?_⟩
    rintro _ _ ⟨⟩
    exact served

theorem step_arrived_iff {e : ImageEvent} (only : d.OnlyImages decode)
    (stepped : d.handleImage isURL e = some t) :
    t.Arrived isURL decode e ↔ d.Arrives isURL decode e := by
  cases e with
  | configImageDataStorage =>
    obtain rfl := Option.some.inj stepped
    refine ⟨fun _ => trivial, fun _ => ⟨?_, fun _ _ other => by cases other⟩⟩
    rintro _ ⟨⟩ row mem
    cases mem
  | clearImageData =>
    obtain rfl := Option.some.inj stepped
    refine ⟨fun _ => trivial, fun _ => ⟨?_, fun _ _ other => by cases other⟩⟩
    rintro _ absent
    cases absent
  | downloadImage urlString result =>
    rw [arrived_download_iff]
    simp only [handleImage, downloadImage] at stepped
    simp only [Arrives, completion]
    by_cases valid : isURL urlString = true
    · simp only [valid, if_true] at stepped ⊢
      cases result with
      | failure error =>
        obtain rfl := Option.some.inj stepped
        exact unsaved_served_iff only
      | success data =>
        cases data with
        | none =>
          obtain rfl := Option.some.inj stepped
          exact unsaved_served_iff only
        | some data => exact save_served_iff only stepped
    · simp only [valid] at stepped ⊢
      obtain rfl := Option.some.inj stepped
      exact unsaved_served_iff only

/-- **A downloaded image is found** after every event of a run whose events all meet
the condition, and an event that does not leaves a miss or something else stored. -/
theorem downloaded_image_found {e : ImageEvent}
    (h : ((imageMachine isURL).given (Arrives isURL decode)).Reachable Configured d)
    (stepped : d.handleImage isURL e = some t) :
    t.Arrived isURL decode e ↔ d.Arrives isURL decode e := by
  have only : d.OnlyImages decode := by
    apply h.invariant (OnlyImages decode)
    · rintro _ ⟨_, _, rfl⟩ _ ⟨⟩ row mem
      cases mem
    · intro d e t _ before allowed stepped
      exact ((step_arrived_iff before stepped).mpr allowed.2).images
  exact step_arrived_iff only stepped

end Save

/-- A decoder that knows the PNG signature's first byte. -/
def pngImage (data : Data) : Option Data := if data.head? = some 0x89 then some data else none

/-- An image arrives at an empty storage. -/
theorem downloaded_image_found_png :
    ∃ t, (configImageDataStorage {}).handleImage anyURL
        (.downloadImage "https://a.example/mars.png" (.success (some [0x89]))) = some t ∧
      t.Arrived anyURL pngImage
        (.downloadImage "https://a.example/mars.png" (.success (some [0x89]))) := by
  have start : ((imageMachine anyURL).given (Arrives anyURL pngImage)).Reachable Configured
      (configImageDataStorage {}) := .start configured
  have stored : (configImageDataStorage {}).Arrives anyURL pngImage
      (.downloadImage "https://a.example/mars.png" (.success (some [0x89]))) :=
    ⟨rfl, fun drops => absurd drops.1 (by decide)⟩
  exact ⟨_, rfl, (downloaded_image_found start rfl).mpr stored⟩

/-- The cache after a server has answered a request for an image with a page. -/
def pageDownloaded : Downloader :=
  ((configImageDataStorage {}).handleImage anyURL
    (.downloadImage "https://a.example/mars.png" (.success (some [0x3c])))).getD {}

theorem page_saved_as_image :
    ¬ ∀ d e t, (imageMachine anyURL).Reachable Configured d → d.handleImage anyURL e = some t →
      t.Arrived anyURL pngImage e := by
  intro arrived
  have stepped : (configImageDataStorage {}).handleImage anyURL
      (.downloadImage "https://a.example/mars.png" (.success (some [0x3c]))) =
        some pageDownloaded := rfl
  have images := (arrived _ _ _ (.start configured) stepped).images _ rfl
    ⟨"https://a.example/mars.png", [0x3c]⟩ (by decide)
  revert images
  decide

end Downloader

end NewsReader
