import NewsReader.Bookmarks.Screens
import NewsReader.Subscript

/-!
# Bookmark flags

A screen reads whether its article is stored when it opens. Afterwards only its
own taps change its flag, so the flag is right for as long as nothing else stores
or deletes the article (`flags_coherent`).
-/

namespace NewsReader

namespace NewsDetailViewModel

variable {m m' : RealmManager} {vm vm' : NewsDetailViewModel} {completions : Completions}

/-- The flag says whether the article is stored. -/
def Agrees (m : RealmManager) (vm : NewsDetailViewModel) : Prop :=
  vm.isFavorited = m.isRealmContainsObject vm.news.key

/-- The flag is right, and a tap that would delete the article can read its key. -/
structure Sound (m : RealmManager) (vm : NewsDetailViewModel) : Prop where
  agrees : vm.Agrees m
  readable : vm.isFavorited = true → vm.news.Readable m

/-- A tap has something to store, or something to delete. -/
def Writable (vm : NewsDetailViewModel) : Prop :=
  vm.isFavorited = false → ∃ news, vm.news = .unmanaged news

theorem agrees_congr (same : m'.getObjectForKey vm.news.key = m.getObjectForKey vm.news.key) :
    vm.Agrees m' ↔ vm.Agrees m := by
  simp only [Agrees, RealmManager.isRealmContainsObject, same]

theorem Sound.congr (h : vm.Sound m)
    (same : m'.getObjectForKey vm.news.key = m.getObjectForKey vm.news.key) : vm.Sound m' where
  agrees := (agrees_congr same).mpr h.agrees
  readable flag a managed := same.trans (h.readable flag a managed)

/-- What a tap does on a screen whose flag is right, its commit going through. -/
inductive Tap (m : RealmManager) (vm : NewsDetailViewModel) :
    RealmManager → NewsDetailViewModel → Completions → Prop
  | closed (realm : m.realm = none) : Tap m vm m vm []
  | unchanged (realm : m.realm ≠ none) (flag : vm.isFavorited = false) {a : Accessor}
      (managed : vm.news = .managed a) :
      Tap m vm m { vm with isFavorited := true } [(true, "")]
  | toggled {m' : RealmManager} (writable : vm.Writable)
      (own : m'.isRealmContainsObject vm.news.key = !vm.isFavorited)
      (others : ∀ k, k ≠ vm.news.key → m'.getObjectForKey k = m.getObjectForKey k) :
      Tap m vm m' { vm with isFavorited := !vm.isFavorited } [(true, "")]

theorem tap_add (outside : m.isInWriteTransaction = false) (flag : vm.isFavorited = false) :
    ∃ m' vm' completions, vm.changeBookMark m .succeeds = some (m', vm', completions) ∧
      Tap m vm m' vm' completions := by
  obtain ⟨news, isFavorited⟩ := vm
  obtain rfl : isFavorited = false := flag
  obtain ⟨_ | realm⟩ := m
  · exact ⟨_, _, _, rfl, .closed rfl⟩
  · refine ⟨_, _, _, changeBookMark_add outside news .succeeds, ?_⟩
    cases news with
    | managed a =>
      have same : (realm.create (.managed a)).commitWrite .succeeds = realm :=
        Realm.commitWrite_succeeds outside
      rw [same]
      exact .unchanged nofun rfl rfl
    | unmanaged news =>
      refine .toggled (fun _ => ⟨news, rfl⟩) ?_ ?_
      · exact Realm.object_create_self realm news
      · exact fun k other => Realm.object_create_ne other

theorem tap_remove (outside : m.isInWriteTransaction = false) (agrees : vm.Agrees m)
    (flag : vm.isFavorited = true) (readable : vm.news.Readable m) :
    ∃ m' vm' completions, vm.changeBookMark m .succeeds = some (m', vm', completions) ∧
      Tap m vm m' vm' completions := by
  obtain ⟨news, isFavorited⟩ := vm
  obtain rfl : isFavorited = true := flag
  obtain ⟨a, stored⟩ := Option.isSome_iff_exists.mp agrees.symm
  obtain ⟨_ | realm⟩ := m
  · cases stored
  · have wrote := RealmManager.deleteObject_of_object outside stored .succeeds
    have deleted := RealmManager.getObjectForKey_deleteObject wrote
    refine ⟨_, _, _, changeBookMark_remove outside readable stored .succeeds,
      .toggled nofun ?_ ?_⟩
    · exact congrArg Option.isSome ((deleted news.key).trans (if_pos rfl))
    · exact fun k other => (deleted k).trans (if_neg other)

/-- A tap on a sound screen does not trap while no write is open. -/
theorem Sound.tap (h : vm.Sound m) (outside : m.isInWriteTransaction = false) :
    ∃ m' vm' completions,
      vm.changeBookMark m .succeeds = some (m', vm', completions) ∧
      Tap m vm m' vm' completions := by
  cases flag : vm.isFavorited with
  | false => exact tap_add outside flag
  | true => exact tap_remove outside h.agrees flag (h.readable flag)

theorem tap_of_some (agrees : vm.Agrees m)
    (tapped : vm.changeBookMark m .succeeds = some (m', vm', completions)) :
    Tap m vm m' vm' completions := by
  have sound : vm.Sound m := by
    refine ⟨agrees, fun flag => ?_⟩
    rw [changeBookMark, if_pos flag] at tapped
    obtain ⟨key, read, -⟩ := Option.bind_eq_some_iff.mp tapped
    exact (NewsObject.urlNews_eq_some_iff.mp read).2
  obtain ⟨_, wrote⟩ := Bookmarks.write_of_changeBookMark tapped
  obtain ⟨_, _, _, same, tap⟩ := sound.tap (RealmManager.write_transaction wrote).1
  obtain ⟨rfl, rfl, rfl⟩ : _ ∧ _ ∧ _ := by simpa using same.symm.trans tapped
  exact tap

/-- A tap misses no object, and reports success only with a change of what is stored. -/
def Tells (m : RealmManager) (vm : NewsDetailViewModel) : Prop :=
  ∃ m' vm' completions, vm.changeBookMark m .succeeds = some (m', vm', completions) ∧
    (false, "No object in Realm") ∉ completions ∧
    (completions.any (·.1) = true →
      m'.isRealmContainsObject vm.news.key = !m.isRealmContainsObject vm.news.key)

theorem Sound.tells (h : vm.Sound m) (outside : m.isInWriteTransaction = false)
    (writable : vm.Writable) : vm.Tells m := by
  obtain ⟨m', vm', completions, tapped, tap⟩ := h.tap outside
  refine ⟨m', vm', completions, tapped, ?_⟩
  cases tap with
  | closed realm => exact ⟨nofun, nofun⟩
  | unchanged realm flag managed =>
    obtain ⟨news, unmanaged⟩ := writable flag
    cases managed.symm.trans unmanaged
  | toggled writable own others => exact ⟨by decide, fun _ => h.agrees ▸ own⟩

end NewsDetailViewModel

/-- The commit of the event, if it writes, goes through. -/
def BookmarkEvent.Succeeds : BookmarkEvent → Prop
  | changeBookMark _ commit => commit = .succeeds
  | deleteNews _ _ commit => commit = .succeeds
  | deleteArticles _ _ commit => commit = .succeeds
  | _ => True

instance : (e : BookmarkEvent) → Decidable e.Succeeds
  | .changeBookMark _ commit | .deleteNews _ _ commit | .deleteArticles _ _ commit =>
    inferInstanceAs (Decidable (commit = .succeeds))
  | .openFromHome _ | .openFromSearch _ | .openCategory _ | .openBookmark .. | .notify _
  | .closeDetail _ | .closeList _ => .isTrue trivial

namespace Bookmarks

variable {s t : Bookmarks} {e : BookmarkEvent}

/-- Every open screen knows whether its article is stored. -/
def Coherent (s : Bookmarks) : Prop := ∀ vm ∈ s.newsDetails, vm.Agrees s.manager

def Sound (s : Bookmarks) : Prop := ∀ vm ∈ s.newsDetails, vm.Sound s.manager

theorem Sound.coherent (h : s.Sound) : s.Coherent := fun vm mem => (h vm mem).agrees

/-- No screen is open on an article that a deletion of `keys` takes from the store. -/
def Unseen (s : Bookmarks) (keys : List (Option String)) : Prop :=
  ∀ k ∈ keys, s.manager.isRealmContainsObject k = true → ∀ vm ∈ s.newsDetails, vm.news.key ≠ k

/-- No screen is open on an article that the event stores or deletes, but the
screen of the tap, which has something to store or to delete. -/
def Undisturbed (s : Bookmarks) : BookmarkEvent → Prop
  | .changeBookMark detail _ => ∀ vm, s.newsDetails[detail]? = some vm →
    vm.Writable ∧ ∀ j other, j ≠ detail → s.newsDetails[j]? = some other →
      other.news.key ≠ vm.news.key
  | .deleteNews list row _ => ∀ vm a, s.favoritesDetails[list]? = some vm →
    vm.articles[row]? = some a → s.Unseen [a.urlNews]
  | .deleteArticles list rows _ => ∀ vm articles, s.favoritesDetails[list]? = some vm →
    (rows.mapM fun row => vm.articles[row]?) = some articles →
      s.Unseen (articles.map fun a => some (a.urlNews.getD "No url"))
  | _ => True

/-! ## Deletions -/

section Deletions

variable {keys : List (Option String)} (details : t.newsDetails = s.newsDetails)
  (objects : ∀ k, t.manager.getObjectForKey k =
    if k ∈ keys then none else s.manager.getObjectForKey k)

include objects in
theorem Unseen.same (h : s.Unseen keys) {vm : NewsDetailViewModel} (mem : vm ∈ s.newsDetails) :
    t.manager.getObjectForKey vm.news.key = s.manager.getObjectForKey vm.news.key := by
  rw [objects]
  split
  · rename_i deleted
    cases stored : s.manager.getObjectForKey vm.news.key with
    | none => rfl
    | some a => exact absurd rfl (h _ deleted (Option.isSome_of_eq_some stored) vm mem)
  · rfl

include details objects in
theorem coherent_deleted_iff (before : s.Coherent) : t.Coherent ↔ s.Unseen keys := by
  constructor
  · rintro coherent k deleted stored vm mem rfl
    have now : vm.isFavorited = t.manager.isRealmContainsObject vm.news.key :=
      coherent vm (details ▸ mem)
    rw [RealmManager.isRealmContainsObject, objects, if_pos deleted] at now
    exact nomatch now.symm.trans ((before vm mem).trans stored)
  · intro unseen vm mem
    rw [details] at mem
    exact (NewsDetailViewModel.agrees_congr (unseen.same objects mem)).mpr (before vm mem)

include details objects in
theorem sound_deleted (before : s.Sound) (unseen : s.Unseen keys) : t.Sound := by
  intro vm mem
  rw [details] at mem
  exact (before vm mem).congr (unseen.same objects mem)

end Deletions

/-! ## Taps -/

theorem coherent_tapped_iff {detail : Nat} (before : s.Coherent) (realm : s.manager.realm ≠ none)
    (stepped : s.changeBookMark detail .succeeds = some t) :
    t.Coherent ↔ s.Undisturbed (.changeBookMark detail .succeeds) := by
  obtain ⟨vm, m, vm', completions, found, tapped, rfl⟩ := changeBookMark_some stepped
  have agrees := before vm (List.mem_of_getElem? found)
  rw [Coherent, forall_mem_set found]
  cases NewsDetailViewModel.tap_of_some agrees tapped with
  | closed closed => exact absurd closed realm
  | unchanged _ flag managed =>
    constructor
    · rintro ⟨own, -⟩
      exact nomatch flag.symm.trans (agrees.trans own.symm)
    · intro undisturbed
      obtain ⟨news, unmanaged⟩ := (undisturbed vm found).1 flag
      cases managed.symm.trans unmanaged
  | toggled writable own others =>
    constructor
    · rintro ⟨-, rest⟩ vm found'
      obtain rfl := Option.mem_unique found found'
      refine ⟨writable, fun j other ne there same => ?_⟩
      have was := before other (List.mem_of_getElem? there)
      have now := rest j other ne there
      rw [NewsDetailViewModel.Agrees, same] at was now
      exact (Bool.eq_not_self _).mp ((agrees.trans (was.symm.trans now)).trans own)
    · intro undisturbed
      refine ⟨own.symm, fun j other ne there => ?_⟩
      have apart := (undisturbed vm found).2 j other ne there
      exact (NewsDetailViewModel.agrees_congr (others _ apart)).mpr
        (before other (List.mem_of_getElem? there))

theorem sound_tapped {detail : Nat} (before : s.Sound)
    (stepped : s.changeBookMark detail .succeeds = some t)
    (undisturbed : s.Undisturbed (.changeBookMark detail .succeeds)) : t.Sound := by
  obtain ⟨vm, m, vm', completions, found, tapped, rfl⟩ := changeBookMark_some stepped
  have sound := before vm (List.mem_of_getElem? found)
  rw [Sound, forall_mem_set found]
  obtain ⟨writable, apart⟩ := undisturbed vm found
  cases NewsDetailViewModel.tap_of_some sound.agrees tapped with
  | closed _ => exact ⟨sound, fun j other _ there => before other (List.mem_of_getElem? there)⟩
  | unchanged _ flag managed =>
    obtain ⟨news, unmanaged⟩ := writable flag
    cases managed.symm.trans unmanaged
  | toggled _ own others =>
    refine ⟨⟨own.symm, fun flag a managed => ?_⟩, fun j other ne there => ?_⟩
    · obtain ⟨news, unmanaged⟩ := writable (by simpa using flag)
      cases managed.symm.trans unmanaged
    · exact (before other (List.mem_of_getElem? there)).congr (others _ (apart j other ne there))

/-! ## Events -/

/-- A new screen reads the store as it opens. -/
theorem sound_opened {news : NewsObject} (stepped : s.openNews news = some t) :
    t.manager = s.manager ∧ ∀ vm ∈ t.newsDetails, vm ∈ s.newsDetails ∨ vm.Sound s.manager := by
  obtain ⟨urlNews, read, rfl⟩ := openNews_some stepped
  obtain ⟨rfl, readable⟩ := NewsObject.urlNews_eq_some_iff.mp read
  refine ⟨rfl, fun vm mem => ?_⟩
  obtain old | new := List.mem_append.mp mem
  · exact Or.inl old
  · obtain rfl := List.mem_singleton.mp new
    exact Or.inr ⟨rfl, fun _ => readable⟩

/-- **What an event does to the screens**: it is a tap on one, a deletion that
leaves them as they are, or it leaves the store as it is. -/
theorem handle_screens (succeeds : e.Succeeds) (stepped : s.handle e = some t) :
    (∃ detail, e = .changeBookMark detail .succeeds ∧
      s.changeBookMark detail .succeeds = some t) ∨
    (∃ keys, (s.Undisturbed e ↔ s.Unseen keys) ∧ t.newsDetails = s.newsDetails ∧
      ∀ k, t.manager.getObjectForKey k =
        if k ∈ keys then none else s.manager.getObjectForKey k) ∨
    (s.Undisturbed e ∧ t.manager = s.manager ∧
      ∀ vm ∈ t.newsDetails, vm ∈ s.newsDetails ∨ vm.Sound s.manager) := by
  cases e with
  | openFromHome news | openFromSearch news =>
    exact Or.inr (Or.inr ⟨trivial, sound_opened stepped⟩)
  | openBookmark list row =>
    obtain ⟨a, opened⟩ := openBookmark_some stepped
    exact Or.inr (Or.inr ⟨trivial, sound_opened opened⟩)
  | changeBookMark detail commit =>
    obtain rfl : commit = .succeeds := succeeds
    exact Or.inl ⟨detail, rfl, stepped⟩
  | deleteNews list row commit =>
    obtain ⟨vm, a, _, found, shown, deleted, details, -⟩ := deleteNews_some stepped
    refine Or.inr (Or.inl ⟨[a.urlNews], ?_, details, fun k => ?_⟩)
    · constructor
      · exact fun undisturbed => undisturbed vm a found shown
      · intro unseen vm' a' found' shown'
        obtain rfl := Option.mem_unique found found'
        obtain rfl := Option.mem_unique shown shown'
        exact unseen
    · rw [RealmManager.getObjectForKey_deleteObject deleted]
      simp only [List.mem_singleton]
  | deleteArticles list rows commit =>
    obtain ⟨vm, articles, _, found, selected, deleted, details, -⟩ := deleteArticles_some stepped
    refine Or.inr (Or.inl
      ⟨articles.map fun a => some (a.urlNews.getD "No url"), ?_, details, fun k => ?_⟩)
    · constructor
      · exact fun undisturbed => undisturbed vm articles found selected
      · intro unseen vm' articles' found' selected'
        obtain rfl := Option.mem_unique found found'
        obtain rfl := Option.mem_unique selected selected'
        exact unseen
    · exact RealmManager.getObjectForKey_deleteObjects deleted k
  | notify list =>
    obtain ⟨_, -, rfl⟩ := notify_some stepped
    exact Or.inr (Or.inr ⟨trivial, rfl, fun vm mem => Or.inl mem⟩)
  | openCategory category =>
    obtain ⟨-, rfl⟩ := openCategory_some stepped
    exact Or.inr (Or.inr ⟨trivial, rfl, fun vm mem => Or.inl mem⟩)
  | closeList list =>
    obtain rfl := Option.some.inj stepped
    exact Or.inr (Or.inr ⟨trivial, rfl, fun vm mem => Or.inl mem⟩)
  | closeDetail detail =>
    obtain rfl := Option.some.inj stepped
    exact Or.inr (Or.inr ⟨trivial, rfl, fun vm mem => Or.inl (List.mem_of_mem_eraseIdx mem)⟩)

/-- With the store open, a step keeps the flags right exactly when it is undisturbed. -/
theorem coherent_step_iff (before : s.Coherent) (realm : s.manager.realm ≠ none)
    (succeeds : e.Succeeds) (stepped : s.handle e = some t) :
    t.Coherent ↔ s.Undisturbed e := by
  obtain ⟨detail, rfl, tapped⟩ | ⟨keys, undisturbed, details, objects⟩ |
    ⟨undisturbed, manager, screens⟩ := handle_screens succeeds stepped
  · exact coherent_tapped_iff before realm tapped
  · exact (coherent_deleted_iff details objects before).trans undisturbed.symm
  · refine ⟨fun _ => undisturbed, fun _ vm mem => ?_⟩
    rw [manager]
    obtain old | new := screens vm mem
    · exact before vm old
    · exact new.agrees

theorem sound_step (before : s.Sound) (succeeds : e.Succeeds) (quiet : s.Undisturbed e)
    (stepped : s.handle e = some t) : t.Sound := by
  obtain ⟨detail, rfl, tapped⟩ | ⟨keys, undisturbed, details, objects⟩ |
    ⟨-, manager, screens⟩ := handle_screens succeeds stepped
  · exact sound_tapped before tapped quiet
  · exact sound_deleted details objects before (undisturbed.mp quiet)
  · intro vm mem
    rw [manager]
    obtain old | new := screens vm mem
    · exact before vm old
    · exact new

/-- A write whose commit goes through leaves none open. -/
theorem outside_step (outside : s.manager.isInWriteTransaction = false) (succeeds : e.Succeeds)
    (stepped : s.handle e = some t) : t.manager.isInWriteTransaction = false := by
  obtain ⟨-, same⟩ | ⟨commit, _, _, own, wrote⟩ := handle_manager stepped
  · rw [same]
    exact outside
  · have through : commit = .succeeds := by
      cases e with
      | changeBookMark | deleteNews | deleteArticles =>
        obtain rfl := Option.some.inj own
        exact succeeds
      | _ => cases own
    rw [(RealmManager.write_transaction wrote).2, through]
    exact Bool.and_false _

theorem sound_of_reachable
    (h : (machine.given fun s e => e.Succeeds ∧ s.Undisturbed e).Reachable Launched s) :
    s.Sound ∧ s.manager.isInWriteTransaction = false := by
  apply h.invariant fun s => s.Sound ∧ s.manager.isInWriteTransaction = false
  · intro s launched
    refine ⟨fun vm mem => ?_, launched.2.2⟩
    rw [launched.1] at mem
    cases mem
  · rintro s e t _ ⟨before, outside⟩ ⟨-, succeeds, quiet⟩ stepped
    exact ⟨sound_step before succeeds quiet stepped, outside_step outside succeeds stepped⟩

/-- **Flags are right** in every run whose commits go through and whose steps are
undisturbed, and a tap there tells what it did. With the store open, a disturbed
step is what puts a flag wrong. -/
theorem flags_coherent (s : Bookmarks) :
    ((machine.given fun s e => e.Succeeds ∧ s.Undisturbed e).Reachable Launched s →
      s.Coherent ∧ ∀ vm ∈ s.newsDetails, vm.Writable → vm.Tells s.manager) ∧
    (s.manager.realm ≠ none → s.Coherent → ∀ e t, e.Succeeds → s.handle e = some t →
      (t.Coherent ↔ s.Undisturbed e)) := by
  constructor
  · intro h
    obtain ⟨sound, outside⟩ := sound_of_reachable h
    exact ⟨sound.coherent, fun vm mem writable => (sound vm mem).tells outside writable⟩
  · intro realm before e t succeeds stepped
    exact coherent_step_iff before realm succeeds stepped

/-- The article is bookmarked in Home and then opened in Search. -/
def bothFavorited : Bookmarks :=
  (machine.run homeOpened
    [.changeBookMark 0 .succeeds, .openFromSearch searchArticle]).getD emptyStore

theorem bothFavorited_reachable :
    (machine.given fun s e => e.Succeeds ∧ s.Undisturbed e).Reachable Launched bothFavorited := by
  have open_allowed : emptyStore.Allowed (.openFromHome homeArticle) := by decide
  have tap_allowed : homeOpened.Allowed (.changeBookMark 0 .succeeds) := by decide
  have undisturbed : homeOpened.Undisturbed (.changeBookMark 0 .succeeds) := by
    rintro vm ⟨⟩
    refine ⟨fun _ => ⟨homeArticle, rfl⟩, fun j other ne there => ?_⟩
    obtain ⟨bound, -⟩ := List.getElem?_eq_some_iff.mp there
    exact absurd (Nat.lt_one_iff.mp bound) ne
  refine .next (e := .openFromSearch searchArticle) (.next (e := .changeBookMark 0 .succeeds)
    (.next (e := .openFromHome homeArticle) (.start emptyStore_launched) ⟨?_, trivial, trivial⟩ rfl)
    ⟨?_, rfl, undisturbed⟩ rfl) ⟨?_, trivial, trivial⟩ rfl
  · exact open_allowed
  · exact tap_allowed
  · rfl

theorem flags_coherent_bothFavorited :
    bothFavorited.Coherent ∧ bothFavorited.newsDetails.map (·.isFavorited) = [true, true] ∧
    (∀ vm ∈ bothFavorited.newsDetails, vm.Tells bothFavorited.manager) ∧
    ∀ t, bothFavorited.handle (.changeBookMark 0 .succeeds) = some t → ¬ t.Coherent := by
  obtain ⟨run, step⟩ := flags_coherent bothFavorited
  obtain ⟨coherent, tells⟩ := run bothFavorited_reachable
  have flags : ∀ vm ∈ bothFavorited.newsDetails, vm.isFavorited = true := by decide
  refine ⟨coherent, by decide, fun vm mem => tells vm mem fun flag => ?_, fun t stepped after => ?_⟩
  · exact nomatch flag.symm.trans (flags vm mem)
  · have undisturbed := (step nofun coherent (.changeBookMark 0 .succeeds) t rfl stepped).mp after
    exact (undisturbed _ rfl).2 1 _ (by decide) rfl rfl

/-- The article is open in Home and in Search when it is bookmarked in Home. -/
def oneFavorited : Bookmarks :=
  ((machine.given fun _ e => e.Succeeds).run emptyStore
    [.openFromHome homeArticle, .openFromSearch searchArticle,
      .changeBookMark 0 .succeeds]).getD emptyStore

theorem oneFavorited_reachable :
    (machine.given fun _ e => e.Succeeds).Reachable Launched oneFavorited :=
  Machine.reachable_getD _ emptyStore_launched (by decide)

theorem flag_of_other_tab_stale :
    ¬ ∀ s, (machine.given fun _ e => e.Succeeds).Reachable Launched s → s.Coherent := by
  intro coherent
  have agrees : false = true := coherent oneFavorited oneFavorited_reachable
    ⟨.unmanaged searchArticle, false⟩ (by decide)
  cases agrees

end Bookmarks

end NewsReader
