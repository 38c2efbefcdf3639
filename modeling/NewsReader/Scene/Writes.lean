import NewsReader.Bookmarks.Writes
import NewsReader.Scene.Lifetime

/-!
# Bookmarks over the life of the app

Nothing but a tap on a bookmark button or a deletion from a list writes to the bookmarks,
and no process loses what another has committed. So after any processes with any events in
each, a bookmark is there exactly where the last write to its url put one
(`bookmarks_replayed`). A write whose commit throws is the last of its process, which reads
it to its end; the next process does not find it.
-/

namespace NewsReader

variable {Document : Type}

/-- The other events of a scene leave the store as it is. -/
theorem Scene.manager_handle {F : Foundation Document} {s t : Scene} {e : SceneEvent Document}
    (other : ∀ own, e ≠ .bookmarks own) (stepped : s.handle F e = some t) :
    t.bookmarks.manager = s.bookmarks.manager := by
  have opened {e : BookmarkEvent} {news : News}
      (opens : e = .openFromHome news ∨ e = .openFromSearch news)
      (stepped : s.bookmarksHandle e = some t) : t.bookmarks.manager = s.bookmarks.manager := by
    obtain ⟨bookmarks, handled, same⟩ := Option.bind_eq_some_iff.mp stepped
    obtain rfl := Option.some.inj same
    have shown : s.bookmarks.openNews (.unmanaged news) = some bookmarks := by
      obtain rfl | rfl := opens
      · exact handled
      · exact handled
    obtain ⟨_, -, rfl⟩ := Bookmarks.openNews_some shown
    rfl
  have home {e : HomeEvent} (stepped : s.homeHandles F e = some t) :
      t.bookmarks.manager = s.bookmarks.manager := by
    obtain ⟨home, -, same⟩ := Option.bind_eq_some_iff.mp stepped
    obtain rfl := Option.some.inj same
    rfl
  cases e with
  | willConnectTo =>
    obtain ⟨home, -, same⟩ := Option.bind_eq_some_iff.mp stepped
    obtain rfl := Option.some.inj same
    rfl
  | home e => exact home stepped
  | homeAnswered r data error =>
    simp only [handle] at stepped
    split at stepped
    · exact home stepped
    · obtain rfl := Option.some.inj stepped
      rfl
  | checkButtonTouchUpInside row | saveSettingSubTabsTouchUpInside =>
    obtain ⟨screen, -, stepped⟩ := Option.bind_eq_some_iff.mp stepped
    obtain ⟨_, -, same⟩ := Option.bind_eq_some_iff.mp stepped
    obtain rfl := Option.some.inj same
    rfl
  | searchAnswered task data error =>
    simp only [handle] at stepped
    split at stepped
    · obtain rfl := Option.some.inj stepped
      rfl
    · obtain rfl := Option.some.inj stepped
      rfl
  | didSelectRowAt position row =>
    obtain ⟨child, -, stepped⟩ := Option.bind_eq_some_iff.mp stepped
    obtain ⟨news, -, stepped⟩ := Option.bind_eq_some_iff.mp stepped
    exact opened (Or.inl rfl) stepped
  | didSelectItemAt row =>
    obtain ⟨news, -, stepped⟩ := Option.bind_eq_some_iff.mp stepped
    exact opened (Or.inr rfl) stepped
  | bookmarks e => exact absurd rfl (other e)
  | imageDownloaded urlString data =>
    obtain ⟨downloader, -, same⟩ := Option.bind_eq_some_iff.mp stepped
    obtain rfl := Option.some.inj same
    rfl
  | didDisconnect | settingSubTabsButtonItemTouchUpInside | closeSettingSubTabs | search =>
    obtain rfl := Option.some.inj stepped
    rfl

/-- What has been written so far. The writes of a process whose commit has thrown are
`pending` to its end. -/
structure Written where
  committed : List (Write (Option String) News) := []
  pending : List (Write (Option String) News) := []
  deriving DecidableEq

/-- What this process reads. -/
def Written.all (written : Written) : List (Write (Option String) News) :=
  written.committed ++ written.pending

namespace App

/-- Where the bookmarks could not be opened, an event writes nothing. -/
def write (a : App) (e : BookmarkEvent) : List (Write (Option String) News) :=
  if a.scene.bookmarks.manager.realm.isSome then (a.scene.bookmarks.write e).toList else []

def record (a : App) : AppEvent Document → Written → Written
  | .scene (.bookmarks e), written =>
    if e.commit.any Commit.isThrown then { written with pending := written.pending ++ a.write e }
    else { written with committed := written.committed ++ a.write e }
  | .scene _, written => written
  | .launch _, written => { written with pending := [] }

/-- The writes tell what is on disk and what the process reads, which differ while a write is
open only. -/
structure ToldBy (a : App) (written : Written) : Prop where
  stored : a.stored.ToldBy written.committed
  realm : ∀ realm, a.scene.bookmarks.manager.realm = some realm → realm.ToldBy written.all
  pending : written.pending.length ≤ 1
  outside : a.scene.bookmarks.manager.isInWriteTransaction = false → written.pending = []

section

variable {F : Foundation Document} {a b : App} {opens : Bool} {written : Written}

/-- What an event commits is told by what is committed. -/
theorem toldBy_committed {m : RealmManager} {stored : Realm}
    (told : stored.ToldBy written.committed)
    (read : ∀ realm, m.realm = some realm → realm.ToldBy written.all)
    (outside : m.isInWriteTransaction = false → written.pending = []) :
    (m.committed stored).ToldBy written.committed := by
  obtain ⟨_ | realm⟩ := m
  · exact told
  · simp only [RealmManager.committed]
    split
    · exact told
    · rename_i closed
      have none : written.pending = [] := outside (Bool.eq_false_iff.mpr closed)
      have read := read realm rfl
      rwa [Written.all, none, List.append_nil] at read

theorem ToldBy.launch (h : a.ToldBy written) (launched : a.launch F opens = some b) :
    b.ToldBy { written with pending := [] } := by
  obtain ⟨-, -, manager, stored⟩ := launch_scene launched
  refine ⟨stored ▸ h.stored, ?_, Nat.zero_le 1, fun _ => rfl⟩
  intro realm opened
  rw [manager] at opened
  cases opens with
  | true =>
    obtain rfl := Option.some.inj opened
    rw [Written.all, List.append_nil]
    exact ⟨h.stored.news, h.stored.sources⟩
  | false => cases opened

/-- An event that does not write. -/
theorem ToldBy.kept (h : a.ToldBy written) {s : Scene}
    (same : s.bookmarks.manager = a.scene.bookmarks.manager) :
    ToldBy { scene := s, stored := s.bookmarks.manager.committed a.stored } written := by
  refine ⟨?_, same ▸ h.realm, h.pending, same ▸ h.outside⟩
  rw [same]
  exact toldBy_committed h.stored h.realm h.outside

theorem write_of_commit_none {s : Bookmarks} {e : BookmarkEvent} (reads : e.commit = none) :
    s.write e = none := by
  cases e with
  | changeBookMark | deleteNews | deleteArticles => cases reads
  | _ => rfl

/-- A write into a store that is open is committed, or it is open from now on. -/
theorem ToldBy.wrote (h : a.ToldBy written) {e : BookmarkEvent} {bookmarks : Bookmarks}
    {realm : Realm} {commit : Commit} (opened : a.scene.bookmarks.manager.realm = some realm)
    (writes : e.commit = some commit)
    (before : a.scene.bookmarks.manager.isInWriteTransaction = false)
    (after : bookmarks.manager.isInWriteTransaction = commit.isThrown)
    (stepped : a.scene.bookmarks.handle e = some bookmarks) :
    ToldBy { scene := { a.scene with bookmarks }, stored := bookmarks.manager.committed a.stored }
      (a.record (.scene (.bookmarks e) : AppEvent Document) written) := by
  have none : written.pending = [] := h.outside before
  obtain ⟨realm', read, told⟩ := Bookmarks.toldBy_handle opened (h.realm realm opened) stepped
  have adds : a.write e = (a.scene.bookmarks.write e).toList := by simp [write, opened]
  have single : (a.write e).length ≤ 1 := by
    rw [adds]
    cases a.scene.bookmarks.write e <;> simp
  rw [← adds, Written.all, none, List.append_nil] at told
  have reads {w : Written} (all : w.all = written.committed ++ a.write e) (realm : Realm)
      (found : bookmarks.manager.realm = some realm) : realm.ToldBy w.all := by
    obtain rfl := Option.some.inj (read.symm.trans found)
    rwa [all]
  cases thrown : commit.isThrown with
  | true =>
    have is : a.record (.scene (.bookmarks e) : AppEvent Document) written =
        ⟨written.committed, a.write e⟩ := by simp [record, writes, thrown, none]
    have outside (closed : bookmarks.manager.isInWriteTransaction = false) :
        a.write e = [] := by cases (after.trans thrown).symm.trans closed
    rw [is]
    exact ⟨toldBy_committed h.stored (reads rfl) outside, reads rfl, single, outside⟩
  | false =>
    have is : a.record (.scene (.bookmarks e) : AppEvent Document) written =
        ⟨written.committed ++ a.write e, []⟩ := by simp [record, writes, thrown, none]
    have all : Written.all ⟨written.committed ++ a.write e, []⟩ =
        written.committed ++ a.write e := List.append_nil _
    have disk : bookmarks.manager.committed a.stored = realm' := by
      have closed := after.trans thrown
      simp only [RealmManager.isInWriteTransaction, read, Option.any_some] at closed
      simp [RealmManager.committed, read, closed]
    rw [is]
    exact ⟨disk ▸ told, reads all, Nat.zero_le 1, fun _ => rfl⟩

/-- An event of the bookmarks, which writes or not, and into a store that is open or not. -/
theorem ToldBy.bookmarks (h : a.ToldBy written) {e : BookmarkEvent} {bookmarks : Bookmarks}
    (stepped : a.scene.bookmarks.handle e = some bookmarks) :
    ToldBy { scene := { a.scene with bookmarks }, stored := bookmarks.manager.committed a.stored }
      (a.record (.scene (.bookmarks e) : AppEvent Document) written) := by
  have nothing (empty : a.write e = []) :
      a.record (.scene (.bookmarks e) : AppEvent Document) written = written := by
    simp [record, empty]
  obtain ⟨reads, same⟩ | ⟨commit, change, completions, writes, wrote⟩ :=
    Bookmarks.handle_manager stepped
  · rw [nothing (by simp [write, write_of_commit_none reads])]
    exact h.kept (s := { a.scene with bookmarks }) same
  · cases opened : a.scene.bookmarks.manager.realm with
    | none =>
      rw [nothing (by simp [write, opened])]
      exact h.kept (s := { a.scene with bookmarks }) (Bookmarks.manager_of_closed opened stepped)
    | some realm =>
      obtain ⟨before, after⟩ := RealmManager.write_transaction wrote
      rw [opened, Option.isSome_some, Bool.true_and] at after
      exact h.wrote opened writes before after stepped

theorem ToldBy.scene (h : a.ToldBy written) {e : SceneEvent Document} {scene : Scene}
    (handled : a.scene.handle F e = some scene) :
    ToldBy { scene, stored := scene.bookmarks.manager.committed a.stored }
      (a.record (.scene e) written) := by
  cases e with
  | bookmarks e =>
    obtain ⟨bookmarks, stepped, same⟩ := Option.bind_eq_some_iff.mp handled
    obtain rfl := Option.some.inj same
    exact h.bookmarks stepped
  | _ => exact h.kept (Scene.manager_handle (fun _ => by rintro ⟨⟩) handled)

theorem toldBy_of_reachable
    (h : ((machine F).observed record).Reachable (fun p => Installed F p.1 ∧ p.2 = {})
      (a, written)) : a.ToldBy written := by
  apply h.invariant (fun p => p.1.ToldBy p.2)
  · rintro ⟨a, written⟩ ⟨⟨opens, launched⟩, rfl⟩
    have blank : blank.ToldBy {} :=
      ⟨Realm.toldBy_empty, fun _ opened => (by cases opened), Nat.zero_le 1, fun _ => rfl⟩
    exact blank.launch launched
  · rintro ⟨a, written⟩ e ⟨b, written'⟩ - told - stepped
    obtain ⟨handled, rfl⟩ := Machine.observed_step.mp stepped
    cases e with
    | scene e =>
      obtain ⟨scene, moved, same⟩ := Option.bind_eq_some_iff.mp handled
      obtain rfl := Option.some.inj same
      exact told.scene moved
    | launch opens => exact told.launch handled

/-- **The bookmarks are the last writes**, over any processes with any events in each: on disk
there is under a url the article that was put there by the last write committed, with its
source as any article brought it last, and nothing where it was removed since. The buttons
and the lists of a process that can open the bookmarks show the same with the write it has
pending, of which there is at most one, and none unless its commit has thrown. -/
theorem bookmarks_replayed
    (h : ((machine F).observed record).Reachable (fun p => Installed F p.1 ∧ p.2 = {})
      (a, written)) :
    (∀ key, a.stored.read key = bookmark written.committed key) ∧
    (a.scene.bookmarks.manager.realm.isSome = true → ∀ key,
      a.scene.bookmarks.manager.isRealmContainsObject key =
        (bookmark written.all key).isSome ∧
      ∀ c : CategoryType,
        (∃ article ∈ a.scene.bookmarks.manager.getNewsForCategoryInRealm c.param,
          article.urlNews = key) ↔
        ∃ news ∈ bookmark written.all key, news.categoryNews = some c.param) ∧
    written.pending.length ≤ 1 ∧
    (a.scene.bookmarks.manager.isInWriteTransaction = false → written.pending = []) := by
  have told := toldBy_of_reachable h
  refine ⟨told.stored.read, ?_, told.pending, told.outside⟩
  intro opened key
  obtain ⟨realm, opened⟩ := Option.isSome_iff_exists.mp opened
  have manager : a.scene.bookmarks.manager = ⟨some realm⟩ := by rw [← opened]
  have read := told.realm realm opened
  rw [manager]
  exact ⟨read.contains key, fun c => read.listed c.param key⟩

end

section

open Scene (plain)

/-- `launchedThrice`, and the bookmark deleted at last on a disk that is full. -/
def deletedAtLast : List (AppEvent JSON) :=
  launchedThrice ++ [.scene (.bookmarks (.openCategory .us)),
    .scene (.bookmarks (.deleteNews 0 0 (.throws "disk full")))]

def lastWritten : App × Written :=
  (((machine plain).observed record).run (installed, {}) deletedAtLast).getD (installed, {})

/-- The bookmark is not shown, and the next process has it. -/
theorem bookmarks_replayed_full :
    lastWritten.1.stored.read Scene.marsNews.urlNews = some Scene.marsNews ∧
    lastWritten.1.scene.bookmarks.manager.isRealmContainsObject Scene.marsNews.urlNews =
      false := by
  have reached : ((machine plain).observed record).Reachable
      (fun p => Installed plain p.1 ∧ p.2 = {}) lastWritten :=
    Machine.reachable_getD _ ⟨installed_installed, rfl⟩ (by decide)
  have kept : bookmark lastWritten.2.committed Scene.marsNews.urlNews = some Scene.marsNews := by
    decide
  have gone : bookmark lastWritten.2.all Scene.marsNews.urlNews = none := by decide
  obtain ⟨disk, shows, -, -⟩ := bookmarks_replayed reached
  obtain ⟨button, -⟩ := shows (by decide) Scene.marsNews.urlNews
  exact ⟨(disk _).trans kept, button.trans (congrArg Option.isSome gone)⟩

end

end App

end NewsReader
