import Mathlib.Data.List.Induction
import NewsReader.API
import NewsReader.Machine
import NewsReader.Table

/-!
# The image cache

Downloaded images are a dictionary in `UserDefaults` under "dataImages", and
`dataImageKeys` is the queue that says which one to drop next. The queue lives as
long as the process; the dictionary is removed and set to empty on its own.

* `images_bounded`: neither ever holds more than 60;
* `images_consistent`: they name the same images for as long as no queued image is
  saved again and the dictionary is emptied only while the queue is.
-/

namespace NewsReader

abbrev Data := List UInt8

structure DataImage where
  urlString : String
  data : Data
  deriving DecidableEq, Repr

abbrev DictionaryDataImage := Table DataImage.urlString

/-- `dataImages` is `none` where nothing under "dataImages" casts to a dictionary. -/
structure Downloader where
  dataImageKeys : List String := []
  dataImages : Option DictionaryDataImage := none
  deriving DecidableEq

namespace Downloader

def configSaveImage (d : Downloader) (urlString : String) (data : Data) : Option Downloader :=
  match d.dataImages with
  | none => some d
  | some dataImages =>
    let dataImageKeys := d.dataImageKeys ++ [urlString]
    let dataImages := dataImages.upsert ⟨urlString, data⟩
    if dataImageKeys.length > 60 then do
      let oldest ← dataImageKeys[0]?
      return ⟨dataImageKeys.eraseIdx 0, some (dataImages.erase oldest)⟩
    else some ⟨dataImageKeys, some dataImages⟩

def clearImageData (d : Downloader) : Downloader := { d with dataImages := none }

def configImageDataStorage (d : Downloader) : Downloader :=
  { d with dataImages := some (Table.empty _) }

/-- `downloadImage` with what its data task ends with. The cache is not read before
the task ends. -/
def downloadImage (isURL : String → Bool) (d : Downloader) (urlString : String)
    (result : Result (Option Data)) : Option Downloader :=
  if isURL urlString then
    match result with
    | .failure _ => some d
    | .success (some data) => d.configSaveImage urlString data
    | .success none => some d
  else some d

end Downloader

/-- What happens to the cache from outside. `configSaveImage` is a download that has
completed with data. -/
inductive DownloadEvent
  | configImageDataStorage
  | clearImageData
  | configSaveImage (urlString : String) (data : Data)
  deriving DecidableEq, Repr

namespace Downloader

def handle (d : Downloader) : DownloadEvent → Option Downloader
  | .configImageDataStorage => some d.configImageDataStorage
  | .clearImageData => some d.clearImageData
  | .configSaveImage urlString data => d.configSaveImage urlString data

def machine : Machine Downloader DownloadEvent where
  allowed _ _ := True
  step := handle

instance (d : Downloader) (e : DownloadEvent) : Decidable (machine.allowed d e) := .isTrue trivial

/-- The process as it starts: an empty queue, and whatever an earlier process stored. -/
def Launched (d : Downloader) : Prop := d.dataImageKeys = []

/-- Launched, and Home has set up the storage. -/
def Configured (d : Downloader) : Prop := ∃ launched, Launched launched ∧
  d = launched.configImageDataStorage

/-! ## Saving an image -/

section Save

variable {d t : Downloader} {urlString : String} {data : Data}

/-- Into a storage that is present, an image is queued and kept, and the oldest one
gives way once the queue is full. -/
theorem configSaveImage_cases {dataImages : DictionaryDataImage}
    (present : d.dataImages = some dataImages)
    (saved : d.configSaveImage urlString data = some t) :
    (d.dataImageKeys.length < 60 ∧ t = ⟨d.dataImageKeys ++ [urlString],
      some (dataImages.upsert ⟨urlString, data⟩)⟩) ∨
    ∃ oldest rest, 60 ≤ d.dataImageKeys.length ∧
      d.dataImageKeys ++ [urlString] = oldest :: rest ∧
      t = ⟨rest, some ((dataImages.upsert ⟨urlString, data⟩).erase oldest)⟩ := by
  simp only [configSaveImage, present, List.length_append, List.length_singleton] at saved
  split at saved
  · rename_i full
    cases queue : d.dataImageKeys ++ [urlString] with
    | nil => simp at queue
    | cons oldest rest =>
      rw [queue] at saved
      refine Or.inr ⟨oldest, rest, by omega, rfl, ?_⟩
      exact (Option.some.inj saved).symm
  · rename_i room
    exact Or.inl ⟨by omega, (Option.some.inj saved).symm⟩

theorem configSaveImage_absent (absent : d.dataImages = none) :
    d.configSaveImage urlString data = some d := by
  simp [configSaveImage, absent]

/-- No operation on the cache traps. -/
theorem handle_isSome (d : Downloader) (e : DownloadEvent) : (d.handle e).isSome = true := by
  cases e with
  | configImageDataStorage | clearImageData => rfl
  | configSaveImage urlString data =>
    simp only [handle, configSaveImage]
    split
    · rfl
    · split
      · cases queue : d.dataImageKeys ++ [urlString] with
        | nil => simp at queue
        | cons oldest rest => rfl
      · rfl

end Save

/-! ## The bound -/

/-- Every stored image is queued, and the queue is not over full. -/
structure Bounded (d : Downloader) : Prop where
  queue : d.dataImageKeys.length ≤ 60
  queued : ∀ dataImages, d.dataImages = some dataImages →
    ∀ k ∈ dataImages.keys, k ∈ d.dataImageKeys

section Bounded

variable {d t : Downloader} {e : DownloadEvent}

theorem Bounded.save (h : d.Bounded) {dataImages : DictionaryDataImage} {urlString : String}
    {data : Data} (present : d.dataImages = some dataImages)
    (saved : d.configSaveImage urlString data = some t) : t.Bounded := by
  have bound := h.queue
  have covered : ∀ k ∈ (dataImages.upsert ⟨urlString, data⟩).keys,
      k ∈ d.dataImageKeys ++ [urlString] := by
    intro k mem
    rcases Table.mem_keys_upsert.mp mem with new | old
    · exact List.mem_append_right _ (List.mem_singleton.mpr new)
    · exact List.mem_append_left _ (h.queued dataImages present k old)
  obtain ⟨room, rfl⟩ | ⟨oldest, rest, full, queue, rfl⟩ := configSaveImage_cases present saved
  · constructor
    · simp only [List.length_append, List.length_singleton]
      omega
    · rintro images ⟨⟩
      exact covered
  · constructor
    · have counted := congrArg List.length queue
      simp only [List.length_append, List.length_cons, List.length_nil] at counted
      dsimp only
      omega
    · rintro images ⟨⟩ k mem
      -- the key that leaves the queue leaves the dictionary with all its images
      obtain ⟨kept, other⟩ := Table.mem_keys_erase.mp mem
      have queued := covered k kept
      rw [queue] at queued
      rcases List.mem_cons.mp queued with dropped | rest
      · exact absurd dropped other
      · exact rest

theorem Bounded.step (h : d.Bounded) (stepped : d.handle e = some t) : t.Bounded := by
  cases e with
  | configImageDataStorage =>
    obtain rfl := Option.some.inj stepped
    refine ⟨h.queue, ?_⟩
    rintro images ⟨⟩ k mem
    cases mem
  | clearImageData =>
    obtain rfl := Option.some.inj stepped
    exact ⟨h.queue, nofun⟩
  | configSaveImage urlString data =>
    cases storage : d.dataImages with
    | none =>
      have same : t = d := Option.mem_unique stepped (configSaveImage_absent storage)
      exact same ▸ h
    | some dataImages => exact h.save storage stepped

/-- **The cache stays bounded** in every run from a configured start: at most 60
images stored, and at most 60 queued. -/
theorem images_bounded (h : machine.Reachable Configured d) :
    d.dataImageKeys.length ≤ 60 ∧
    ∀ dataImages, d.dataImages = some dataImages → dataImages.rows.length ≤ 60 := by
  have bounded : d.Bounded := by
    apply h.invariant Bounded
    · rintro _ ⟨launched, empty, rfl⟩
      constructor
      · have none : launched.configImageDataStorage.dataImageKeys = [] := empty
        rw [none]
        exact Nat.zero_le 60
      · rintro images ⟨⟩ k mem
        cases mem
    · intro d e t _ before _ stepped
      exact before.step stepped
  refine ⟨bounded.queue, ?_⟩
  intro dataImages present
  have counted := Table.length_rows_le (bounded.queued dataImages present)
  have queue := bounded.queue
  omega

theorem configured : Configured (configImageDataStorage {}) := ⟨{}, rfl, rfl⟩

/-- Two images more than the cache holds. -/
def thumbnails : List DataImage :=
  (List.range 62).map fun n =>
    ⟨"https://a.example/" ++ String.ofList (List.replicate n 'i'), [UInt8.ofNat n]⟩

/-- The first of them is saved once more, after it has been dropped. -/
theorem images_bounded_saved : ∃ d, machine.Reachable Configured d ∧
    "https://a.example/i" ∉ d.dataImageKeys ∧ "https://a.example/" ∈ d.dataImageKeys ∧
    d.dataImageKeys.length ≤ 60 ∧
    ∀ dataImages, d.dataImages = some dataImages → dataImages.rows.length ≤ 60 := by
  have reached : machine.Reachable Configured
      ((machine.run (configImageDataStorage {})
        ((thumbnails ++ thumbnails.take 1).map fun image =>
          .configSaveImage image.urlString image.data)).getD {}) :=
    Machine.reachable_getD _ configured (by decide +kernel)
  exact ⟨_, reached, by decide +kernel, by decide +kernel, images_bounded reached⟩

end Bounded

/-! ## Queue and dictionary -/

/-- The queue names each stored image once, and nothing else. -/
def Consistent (d : Downloader) : Prop :=
  ∀ dataImages, d.dataImages = some dataImages → dataImages.IndexedBy d.dataImageKeys

/-- Storage is emptied only with the queue. An image is saved only when it is not
queued, and every other stored image is. -/
def Keeps (d : Downloader) : DownloadEvent → Prop
  | .configImageDataStorage => d.dataImageKeys = []
  | .clearImageData => True
  | .configSaveImage urlString _ => ∀ dataImages, d.dataImages = some dataImages →
    urlString ∉ d.dataImageKeys ∧ ∀ k ∈ dataImages.keys, k ≠ urlString → k ∈ d.dataImageKeys

/-- The half of `Consistent` that a process starts with, whatever is stored. -/
def Stored (d : Downloader) : Prop :=
  ∀ dataImages, d.dataImages = some dataImages →
    d.dataImageKeys.Nodup ∧ ∀ k ∈ d.dataImageKeys, k ∈ dataImages.keys

section Consistent

variable {d t : Downloader} {e : DownloadEvent}

theorem Consistent.stored (h : d.Consistent) : d.Stored := by
  intro dataImages present
  obtain ⟨distinct, same⟩ := h dataImages present
  exact ⟨distinct, fun k mem => (same k).mp mem⟩

theorem Launched.stored (h : Launched d) : d.Stored := by
  intro dataImages present
  have empty : d.dataImageKeys = [] := h
  rw [empty]
  exact ⟨List.nodup_nil, nofun⟩

/-- Saving an image that is not queued keeps the queue and the dictionary together,
and saving any other image sets them apart. -/
theorem save_consistent_iff (h : d.Stored) {dataImages : DictionaryDataImage}
    {urlString : String} {data : Data} (present : d.dataImages = some dataImages)
    (saved : d.configSaveImage urlString data = some t) :
    t.Consistent ↔ urlString ∉ d.dataImageKeys ∧
      ∀ k ∈ dataImages.keys, k ≠ urlString → k ∈ d.dataImageKeys := by
  obtain ⟨distinct, stored⟩ := h dataImages present
  have appended : (dataImages.upsert ⟨urlString, data⟩).IndexedBy (d.dataImageKeys ++ [urlString]) ↔
      urlString ∉ d.dataImageKeys ∧ ∀ k ∈ dataImages.keys, k ≠ urlString → k ∈ d.dataImageKeys :=
    Table.indexedBy_append distinct stored
  rw [← appended]
  obtain ⟨-, rfl⟩ | ⟨oldest, rest, -, queue, rfl⟩ := configSaveImage_cases present saved
  · simp only [Consistent, Option.some.injEq, forall_eq']
  · have queued : oldest ∈ d.dataImageKeys ++ [urlString] := queue ▸ List.mem_cons_self
    have kept : oldest ∈ (dataImages.upsert ⟨urlString, data⟩).keys := by
      rw [Table.mem_keys_upsert]
      rcases List.mem_append.mp queued with old | new
      · exact Or.inr (stored oldest old)
      · exact Or.inl (List.mem_singleton.mp new)
    rw [queue, ← Table.indexedBy_erase_head kept]
    simp only [Consistent, Option.some.injEq, forall_eq']

theorem step_consistent_iff (h : d.Stored) (stepped : d.handle e = some t) :
    t.Consistent ↔ d.Keeps e := by
  cases e with
  | configImageDataStorage =>
    obtain rfl := Option.some.inj stepped
    simp only [Consistent, configImageDataStorage, Option.some.injEq, forall_eq', Keeps]
    constructor
    · rintro ⟨-, same⟩
      apply List.eq_nil_iff_forall_not_mem.mpr
      intro k mem
      cases (same k).mp mem
    · intro empty
      rw [empty]
      exact ⟨List.nodup_nil, fun k => ⟨nofun, nofun⟩⟩
  | clearImageData =>
    obtain rfl := Option.some.inj stepped
    exact ⟨fun _ => trivial, fun _ => nofun⟩
  | configSaveImage urlString data =>
    cases storage : d.dataImages with
    | none =>
      have same : t = d := Option.mem_unique stepped (configSaveImage_absent storage)
      have absent : t.dataImages = none := same ▸ storage
      simp [Consistent, Keeps, absent, storage]
    | some dataImages =>
      rw [save_consistent_iff h storage stepped]
      simp only [Keeps, storage, Option.some.injEq, forall_eq']

/-- **The queue and the dictionary agree** after every operation of a run whose
operations all meet the condition, and an operation that does not sets them apart. -/
theorem images_consistent (h : (machine.given Keeps).Reachable Launched d)
    (stepped : d.handle e = some t) : t.Consistent ↔ d.Keeps e := by
  have stored : d.Stored := by
    apply h.invariant Stored (fun _ launched => Launched.stored launched)
    intro d e t _ before allowed stepped
    exact ((step_consistent_iff before stepped).mpr allowed.2).stored
  exact step_consistent_iff stored stepped

/-- A process that saves no image twice keeps the last 60. By induction on the saves, the last
one first. -/
theorem reachable_saves (images : List DataImage)
    (distinct : (images.map (·.urlString)).Nodup) :
    ∃ d dataImages, (machine.given Keeps).Reachable Launched d ∧
      d.dataImages = some dataImages ∧ d.Consistent ∧
      d.dataImageKeys = (images.map (·.urlString)).drop (images.length - 60) := by
  induction images using List.reverseRecOn with
  | nil =>
    have launched : (machine.given Keeps).Reachable Launched {} := .start rfl
    have reached : (machine.given Keeps).Reachable Launched (configImageDataStorage {}) :=
      launched.next (e := .configImageDataStorage) ⟨trivial, rfl⟩ rfl
    have stored : Stored {} := Launched.stored rfl
    have consistent : (configImageDataStorage {}).Consistent :=
      (step_consistent_iff stored (e := .configImageDataStorage) rfl).mpr rfl
    exact ⟨_, _, reached, rfl, consistent, rfl⟩
  | append_singleton images image ih =>
    rw [List.map_append, List.map_singleton, List.nodup_append] at distinct
    obtain ⟨before, -, apart⟩ := distinct
    obtain ⟨d, dataImages, reached, present, consistent, queue⟩ := ih before
    have new : image.urlString ∉ d.dataImageKeys := by
      intro queued
      rw [queue] at queued
      exact apart _ (List.mem_of_mem_drop queued) _ (List.mem_singleton_self _) rfl
    have keeps : d.Keeps (.configSaveImage image.urlString image.data) := by
      intro stored there
      exact ⟨new, fun k mem _ => ((consistent stored there).2 k).mpr mem⟩
    obtain ⟨t, saved⟩ := Option.isSome_iff_exists.mp
      (d.handle_isSome (.configSaveImage image.urlString image.data))
    have after := (step_consistent_iff consistent.stored saved).mpr keeps
    have next := reached.next ⟨trivial, keeps⟩ saved
    have counted := congrArg List.length queue
    rw [List.length_drop, List.length_map] at counted
    obtain ⟨room, rfl⟩ | ⟨oldest, rest, full, tail, rfl⟩ := configSaveImage_cases present saved
    · refine ⟨_, _, next, rfl, after, ?_⟩
      have first : images.length - 60 = 0 := by omega
      have none : images.length + 1 - 60 = 0 := by omega
      simp [queue, first, none]
    · refine ⟨_, _, next, rfl, after, ?_⟩
      have more : images.length + 1 - 60 = images.length - 60 + 1 := by omega
      have rest : rest = (d.dataImageKeys ++ [image.urlString]).drop 1 := by rw [tail]; rfl
      rw [rest, queue, List.length_append, List.length_singleton, more, List.map_append,
        List.map_singleton, ← List.drop_append_of_le_length (by simp), List.drop_drop]

theorem nodup_thumbnails : (thumbnails.map (·.urlString)).Nodup := by
  -- no two are of one length
  apply List.Nodup.of_map String.length
  simp only [thumbnails, List.map_map]
  refine List.Nodup.map ?_ List.nodup_range
  intro m n same
  simpa using same

/-- One image more, into a cache that has dropped two already. -/
theorem images_consistent_saved :
    ∃ d t : Downloader,
      d.handle (.configSaveImage "https://a.example/mars.png" [1]) = some t ∧
      d.dataImageKeys = (thumbnails.map (·.urlString)).drop 2 ∧ t.Consistent := by
  obtain ⟨d, _, reached, -, agrees, queue⟩ :=
    reachable_saves thumbnails nodup_thumbnails
  obtain ⟨t, saved⟩ := Option.isSome_iff_exists.mp
    (d.handle_isSome (.configSaveImage "https://a.example/mars.png" [1]))
  have new : "https://a.example/mars.png" ∉ d.dataImageKeys := by
    rw [queue]
    decide +kernel
  refine ⟨d, t, saved, queue, (images_consistent reached saved).mpr ?_⟩
  intro stored there
  exact ⟨new, fun k mem _ => ((agrees stored there).2 k).mpr mem⟩

/-- One image downloaded twice. -/
def downloadedTwice : Downloader :=
  (machine.run (configImageDataStorage {})
    [.configSaveImage "https://a.example/mars.png" [1],
      .configSaveImage "https://a.example/mars.png" [1]]).getD {}

theorem downloaded_twice_inconsistent :
    ¬ ∀ d, machine.Reachable Configured d → d.Consistent := by
  intro consistent
  have reached : machine.Reachable Configured downloadedTwice :=
    Machine.reachable_getD _ configured (by decide)
  obtain ⟨distinct, -⟩ := consistent downloadedTwice reached _ rfl
  revert distinct
  decide

end Consistent

end Downloader

end NewsReader
