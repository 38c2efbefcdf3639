import NewsReader.Bookmarks.Screens

/-!
# The bookmark button

One article's screen with the button on its bar, tapped any number of times with any outcome
of the commits. `Mark` is what the button says and what is stored, and a table of taps is
all there is to know of the screen (`taps_seen`). A tap tells the screen before its commit,
and the store is read as the tap left it even if that throws; but then no later tap can
write (`thrown_tap_is_last`).
-/

namespace NewsReader

def NewsDetailViewModel.favoritesImageString (vm : NewsDetailViewModel) : String :=
  if vm.isFavorited then "bookmark.fill" else "bookmark"

/-- `rightBarButtonItem` is the image of the button that is on the bar. -/
structure NewsDetailScreen where
  manager : RealmManager
  viewModel : NewsDetailViewModel
  rightBarButtonItem : String
  alerts : List String := []
  deriving DecidableEq

namespace NewsDetailScreen

section Handlers

variable (s : NewsDetailScreen)

/-- The bar gets a new button, with the image of the flag as it is now. -/
def changeStatusBookMarkButton : NewsDetailScreen :=
  { s with rightBarButtonItem := s.viewModel.favoritesImageString }

/-- The completions of `removeNewsInFavorites` and `addNewsInFavorites` are the same. -/
def complete (s : NewsDetailScreen) : Bool × String → NewsDetailScreen
  | (true, _) => s.changeStatusBookMarkButton
  | (false, message) => { s with alerts := s.alerts ++ [message] }

def changeBookMarkButtonTouchUpInside (commit : Commit) : Option NewsDetailScreen := do
  let (manager, viewModel, completions) ← s.viewModel.changeBookMark s.manager commit
  return completions.foldl complete { s with manager, viewModel }

end Handlers

/-- `viewDidLoad`, as far as the button goes. -/
def viewDidLoad (manager : RealmManager) (viewModel : NewsDetailViewModel) : NewsDetailScreen :=
  { manager, viewModel, rightBarButtonItem := viewModel.favoritesImageString }

/-- The screen as a machine, with nothing else changing what is stored. -/
def machine : Machine NewsDetailScreen Commit where
  allowed _ _ := True
  step := changeBookMarkButtonTouchUpInside

instance (s : NewsDetailScreen) (commit : Commit) : Decidable (machine.allowed s commit) :=
  .isTrue trivial

end NewsDetailScreen

/-! ## What is seen -/

def Commit.errors : Commit → List String
  | .succeeds => []
  | .throws localizedDescription => [localizedDescription]

theorem Commit.completions_eq (commit : Commit) :
    commit.completions = commit.errors.map (false, ·) := by
  cases commit <;> rfl

/-- What the button says, and what is stored: a bookmark, none, one that is not stored, or
one that the button does not tell of. -/
inductive Mark
  | bookmarked | unmarked | claimed | missed
  deriving DecidableEq, Repr

namespace Mark

def of : (isFavorited isStored : Bool) → Mark
  | true, true => bookmarked
  | false, false => unmarked
  | true, false => claimed
  | false, true => missed

theorem of_inj {flag stored flag' stored' : Bool} (same : of flag stored = of flag' stored') :
    flag = flag' ∧ stored = stored' := by
  revert same
  cases flag <;> cases stored <;> cases flag' <;> cases stored' <;> simp [of]

def image : Mark → String
  | bookmarked | claimed => "bookmark.fill"
  | unmarked | missed => "bookmark"

/-- A tap on the button. A managed article cannot be stored again, and is not to be read once
it is gone. -/
def tap (managed : Bool) : Mark → Option Mark
  | bookmarked => some unmarked
  | unmarked => some (if managed then claimed else bookmarked)
  | claimed => if managed then none else some claimed
  | missed => some bookmarked

/-- The alerts of a tap, that of its commit last. -/
def alerts : Mark → Commit → List String
  | claimed, commit => "No object in Realm" :: commit.errors
  | bookmarked, commit | unmarked, commit | missed, commit => commit.errors

end Mark

/-- A mark, the alerts so far, and whether a commit has thrown. -/
structure Seen where
  mark : Mark
  alerts : List String := []
  hasThrown : Bool := false
  deriving DecidableEq, Repr

def Seen.tap (managed : Bool) (seen : Seen) (commit : Commit) : Option Seen :=
  if seen.hasThrown then none
  else (seen.mark.tap managed).map fun mark =>
    { mark, alerts := seen.alerts ++ seen.mark.alerts commit, hasThrown := commit.isThrown }

def NewsObject.isManaged : NewsObject → Bool
  | .managed _ => true
  | .unmanaged _ => false

namespace NewsDetailScreen

def mark (s : NewsDetailScreen) : Mark :=
  .of s.viewModel.isFavorited (s.manager.isRealmContainsObject s.viewModel.news.key)

def seen (s : NewsDetailScreen) : Seen := ⟨s.mark, s.alerts, s.manager.isInWriteTransaction⟩

/-- The button shows the flag, and the article is read if and only if it is not a managed one
that is gone. -/
structure InStep (object : NewsObject) (s : NewsDetailScreen) : Prop where
  opened : s.manager.realm ≠ none
  news : s.viewModel.news = object
  button : s.rightBarButtonItem = s.viewModel.favoritesImageString
  readable : object.Readable s.manager ↔
    object.isManaged = false ∨ s.manager.isRealmContainsObject object.key = true

section

variable {object : NewsObject} {s t : NewsDetailScreen} {commit : Commit}

theorem favoritesImageString_eq (s : NewsDetailScreen) :
    s.viewModel.favoritesImageString = s.mark.image := by
  unfold mark NewsDetailViewModel.favoritesImageString
  cases s.viewModel.isFavorited <;>
    cases s.manager.isRealmContainsObject s.viewModel.news.key <;> rfl

theorem complete_errors (s : NewsDetailScreen) (errors : List String) :
    (errors.map (false, ·)).foldl complete s = { s with alerts := s.alerts ++ errors } := by
  induction errors generalizing s with
  | nil => simp
  | cons error errors ih =>
    rw [List.map_cons, List.foldl_cons, ih]
    simp [complete]

section Taps

variable {realm : Realm} (opened : s.manager = ⟨some realm⟩)
  (outside : realm.isInWriteTransaction = false)
include opened outside

/-- A tap on a button that is not filled stores the article. -/
theorem tap_add (flag : s.viewModel.isFavorited = false) :
    s.changeBookMarkButtonTouchUpInside commit = some {
      manager := ⟨some ((realm.create s.viewModel.news).commitWrite commit)⟩
      viewModel := { s.viewModel with isFavorited := true }
      rightBarButtonItem := "bookmark.fill"
      alerts := s.alerts ++ commit.errors } := by
  have shown : s.viewModel = ⟨s.viewModel.news, false⟩ := by rw [← flag]
  have tapped := NewsDetailViewModel.changeBookMark_add outside s.viewModel.news commit
  rw [← shown] at tapped
  simp [changeBookMarkButtonTouchUpInside, opened, tapped, complete, changeStatusBookMarkButton,
    NewsDetailViewModel.favoritesImageString, Commit.completions_eq, complete_errors]

/-- A tap on a filled button deletes the article. -/
theorem tap_remove {a : Accessor} (flag : s.viewModel.isFavorited = true)
    (readable : s.viewModel.news.Readable s.manager)
    (found : realm.objectForPrimaryKey s.viewModel.news.key = some a) :
    s.changeBookMarkButtonTouchUpInside commit = some {
      manager := ⟨some ((realm.delete a).commitWrite commit)⟩
      viewModel := { s.viewModel with isFavorited := false }
      rightBarButtonItem := "bookmark"
      alerts := s.alerts ++ commit.errors } := by
  rw [opened] at readable
  have shown : s.viewModel = ⟨s.viewModel.news, true⟩ := by rw [← flag]
  have tapped := NewsDetailViewModel.changeBookMark_remove outside readable found commit
  rw [← shown] at tapped
  simp [changeBookMarkButtonTouchUpInside, opened, tapped, complete, changeStatusBookMarkButton,
    NewsDetailViewModel.favoritesImageString, Commit.completions_eq, complete_errors]

/-- There may be nothing to delete. -/
theorem tap_absent (flag : s.viewModel.isFavorited = true)
    (readable : s.viewModel.news.Readable s.manager)
    (absent : realm.objectForPrimaryKey s.viewModel.news.key = none) :
    s.changeBookMarkButtonTouchUpInside commit = some { s with
      manager := ⟨some (realm.commitWrite commit)⟩
      alerts := s.alerts ++ "No object in Realm" :: commit.errors } := by
  have read := NewsObject.urlNews_eq_some_iff.mpr ⟨rfl, readable⟩
  have unread : (commit.errors.map (false, ·)).any (·.1) = false := by
    simp [List.any_map]
  rw [opened] at read
  simp [changeBookMarkButtonTouchUpInside, NewsDetailViewModel.changeBookMark, flag,
    NewsDetailViewModel.removeNewsInFavorites, read, RealmManager.deleteObject, opened,
    RealmManager.write, outside, RealmManager.getObjectForKey, absent, complete,
    Commit.completions_eq, complete_errors, unread]

end Taps

/-- Once a commit has thrown, a tap cannot write. -/
theorem tap_inside (inside : s.manager.isInWriteTransaction = true) :
    s.changeBookMarkButtonTouchUpInside commit = none := by
  by_contra ran
  obtain ⟨t, ran⟩ := Option.ne_none_iff_exists'.mp ran
  obtain ⟨⟨m, vm, completions⟩, tapped, -⟩ := Option.bind_eq_some_iff.mp ran
  obtain ⟨change, wrote⟩ := Bookmarks.write_of_changeBookMark tapped
  cases (RealmManager.write_transaction wrote).1.symm.trans inside

/-- The article of a filled button is read for its key. -/
theorem tap_unreadable (flag : s.viewModel.isFavorited = true)
    (gone : ¬ s.viewModel.news.Readable s.manager) :
    s.changeBookMarkButtonTouchUpInside commit = none := by
  have unread : s.viewModel.news.urlNews s.manager = none := by
    rw [Option.eq_none_iff_forall_ne_some]
    intro key read
    exact gone (NewsObject.urlNews_eq_some_iff.mp read).2
  simp [changeBookMarkButtonTouchUpInside, NewsDetailViewModel.changeBookMark, flag,
    NewsDetailViewModel.removeNewsInFavorites, unread]

/-! ## One tap -/

/-- A write leaves the article of a managed screen as it was, or takes it away. -/
theorem InStep.written (h : InStep object s) (opened : t.manager.realm ≠ none)
    (news : t.viewModel.news = object)
    (button : t.rightBarButtonItem = t.viewModel.favoritesImageString)
    (stored : object.isManaged = false ∨
      t.manager.getObjectForKey object.key = s.manager.getObjectForKey object.key ∨
      t.manager.getObjectForKey object.key = none) : InStep object t := by
  refine ⟨opened, news, button, ?_⟩
  cases object with
  | unmanaged news => exact ⟨fun _ => Or.inl rfl, fun _ => nofun⟩
  | managed a =>
    have managed {m : RealmManager} : (NewsObject.managed a).Readable m ↔
        m.getObjectForKey a.urlNews = some a :=
      ⟨fun readable => readable a rfl, fun found _ same => NewsObject.managed.inj same ▸ found⟩
    have readable := h.readable
    rw [managed] at readable ⊢
    obtain unmanaged | same | gone := stored
    · cases unmanaged
    · rw [NewsObject.key] at same
      simpa only [RealmManager.isRealmContainsObject, NewsObject.key, same] using readable
    · rw [NewsObject.key] at gone
      simp [RealmManager.isRealmContainsObject, NewsObject.key, NewsObject.isManaged, gone]

/-- A managed article is left as it is. -/
theorem stored_create (realm : Realm) (object : NewsObject) :
    ((realm.create object).objectForPrimaryKey object.key).isSome =
      (!object.isManaged || (realm.objectForPrimaryKey object.key).isSome) := by
  cases object with
  | unmanaged news => exact realm.object_create_self news
  | managed a => rfl

/-- A button that is not filled is filled by a tap. -/
theorem InStep.add (h : InStep object s) (outside : s.manager.isInWriteTransaction = false)
    (flag : s.viewModel.isFavorited = false) :
    ∃ t, s.changeBookMarkButtonTouchUpInside commit = some t ∧ InStep object t ∧
      some t.seen = s.seen.tap object.isManaged commit := by
  obtain ⟨⟨_ | realm⟩, ⟨news, isFavorited⟩, button, alerts⟩ := s
  · exact absurd rfl h.opened
  obtain rfl : news = object := h.news
  obtain rfl : isFavorited = false := flag
  have outside : realm.isInWriteTransaction = false := outside
  refine ⟨_, tap_add rfl outside rfl, ?_, ?_⟩
  · apply h.written (Option.some_ne_none _) rfl rfl
    cases news with
    | unmanaged news => exact Or.inl rfl
    | managed a => exact Or.inr (Or.inl rfl)
  · have created := stored_create realm news
    cases managed : news.isManaged <;>
      cases stored : (realm.objectForPrimaryKey news.key).isSome <;>
      simp [seen, mark, Seen.tap, Mark.of, Mark.tap, Mark.alerts, managed, stored, outside,
        created, RealmManager.isRealmContainsObject, RealmManager.getObjectForKey,
        RealmManager.isInWriteTransaction]

/-- A filled button is emptied by a tap where the article is stored. Where it is not, the tap
finds nothing to delete, or cannot read what to look for. -/
theorem InStep.remove (h : InStep object s) (outside : s.manager.isInWriteTransaction = false)
    (flag : s.viewModel.isFavorited = true) :
    (s.changeBookMarkButtonTouchUpInside commit).map seen = s.seen.tap object.isManaged commit ∧
    ∀ t, s.changeBookMarkButtonTouchUpInside commit = some t → InStep object t := by
  obtain ⟨⟨_ | realm⟩, ⟨news, isFavorited⟩, button, alerts⟩ := s
  · exact absurd rfl h.opened
  obtain rfl : news = object := h.news
  obtain rfl : isFavorited = true := flag
  have outside : realm.isInWriteTransaction = false := outside
  have readable := h.readable
  cases found : realm.objectForPrimaryKey news.key with
  | some a =>
    have stored : RealmManager.isRealmContainsObject ⟨some realm⟩ news.key = true := by
      simp [RealmManager.isRealmContainsObject, RealmManager.getObjectForKey, found]
    have deleted : (realm.delete a).objectForPrimaryKey news.key = none := by
      have key : news.key = a.urlNews := (Realm.objectForPrimaryKey_urlNews found).symm
      rw [Realm.object_delete, if_pos ⟨Realm.isAttached_of_object found, key⟩]
    rw [tap_remove rfl outside rfl (readable.mpr (Or.inr stored)) found]
    constructor
    · simp [seen, mark, Seen.tap, Mark.of, Mark.tap, Mark.alerts, found, deleted, outside,
        RealmManager.isRealmContainsObject, RealmManager.getObjectForKey,
        RealmManager.isInWriteTransaction]
    · intro t tapped
      obtain rfl := Option.some.inj tapped
      exact h.written (Option.some_ne_none _) rfl rfl (Or.inr (Or.inr deleted))
  | none =>
    have absent : RealmManager.isRealmContainsObject ⟨some realm⟩ news.key = false := by
      simp [RealmManager.isRealmContainsObject, RealmManager.getObjectForKey, found]
    cases managed : news.isManaged with
    | true =>
      have gone : ¬ news.Readable ⟨some realm⟩ := by
        intro read
        obtain unmanaged | stored := readable.mp read
        · cases managed.symm.trans unmanaged
        · cases absent.symm.trans stored
      rw [tap_unreadable rfl gone]
      constructor
      · simp [seen, mark, Seen.tap, Mark.of, Mark.tap, absent]
      · intro t trapped
        exact (Option.some_ne_none t trapped.symm).elim
    | false =>
      rw [tap_absent rfl outside rfl (readable.mpr (Or.inl managed)) found]
      constructor
      · simp [seen, mark, Seen.tap, Mark.of, Mark.tap, Mark.alerts, found, outside,
          RealmManager.isRealmContainsObject, RealmManager.getObjectForKey,
          RealmManager.isInWriteTransaction]
      · intro t tapped
        obtain rfl := Option.some.inj tapped
        exact h.written (Option.some_ne_none _) rfl h.button (Or.inl managed)

/-- **One tap** is what the table says, traps included. -/
theorem InStep.tap (h : InStep object s) (commit : Commit) :
    (s.changeBookMarkButtonTouchUpInside commit).map seen = s.seen.tap object.isManaged commit ∧
    ∀ t, s.changeBookMarkButtonTouchUpInside commit = some t → InStep object t := by
  cases transaction : s.manager.isInWriteTransaction with
  | true =>
    rw [tap_inside transaction]
    simp [Seen.tap, seen, transaction]
  | false =>
    cases flag : s.viewModel.isFavorited with
    | false =>
      obtain ⟨t, tapped, inStep, same⟩ := h.add transaction flag
      rw [tapped]
      refine ⟨same, ?_⟩
      rintro _ ⟨⟩
      exact inStep
    | true => exact h.remove transaction flag

/-! ## Any number of taps -/

section Run

variable {m : RealmManager} {vm : NewsDetailViewModel}

theorem inStep_opened (store : m.realm ≠ none)
    (opened : getNewsDetailViewModel m object = some vm) : InStep object (viewDidLoad m vm) := by
  obtain ⟨key, read, same⟩ := Option.bind_eq_some_iff.mp opened
  obtain rfl := Option.some.inj same
  obtain ⟨rfl, readable⟩ := NewsObject.urlNews_eq_some_iff.mp read
  refine ⟨store, rfl, rfl, fun _ => ?_, fun _ => readable⟩
  cases object with
  | unmanaged news => exact Or.inl rfl
  | managed a =>
    have stored : m.getObjectForKey a.urlNews = some a := readable a rfl
    exact Or.inr (by simp [viewDidLoad, RealmManager.isRealmContainsObject, NewsObject.key, stored])

/-- The flag is right when the screen opens. -/
theorem mark_opened (opened : getNewsDetailViewModel m object = some vm) :
    (viewDidLoad m vm).mark = .of vm.isFavorited vm.isFavorited := by
  obtain ⟨key, read, same⟩ := Option.bind_eq_some_iff.mp opened
  obtain rfl := Option.some.inj same
  obtain ⟨rfl, -⟩ := NewsObject.urlNews_eq_some_iff.mp read
  rfl

theorem inStep_reachable (h : InStep object s) (reached : machine.Reachable (· = s) t) :
    InStep object t := by
  apply reached.invariant (InStep object)
  · rintro _ rfl
    exact h
  · intro s commit t _ before _ tapped
    exact (before.tap commit).2 t tapped

/-- **The screen follows the table of marks**, whatever becomes of the commits: after any taps
it is as the table says, or has trapped where the table has, and its button shows the mark. -/
theorem taps_seen (store : m.realm ≠ none) (opened : getNewsDetailViewModel m object = some vm)
    (taps : List Commit) :
    (machine.run (viewDidLoad m vm) taps).map seen =
      taps.foldlM (Seen.tap object.isManaged) (viewDidLoad m vm).seen ∧
    ∀ t, machine.run (viewDidLoad m vm) taps = some t → t.rightBarButtonItem = t.mark.image := by
  have start := inStep_opened store opened
  constructor
  · refine Machine.run_view seen (InStep object) ?_ ?_ ?_ start taps
    · exact fun _ _ _ => trivial
    · exact fun s commit t inStep tapped => (inStep.tap commit).2 t tapped
    · exact fun s commit inStep => (inStep.tap commit).1
  · intro t ran
    have inStep := inStep_reachable start (Machine.reachable_run rfl ran)
    rw [inStep.button, favoritesImageString_eq]

end Run

/-! ## A commit that throws -/

/-- The table of an article that is not managed: each tap turns the mark, and one whose commit
has thrown has none after it. By induction on the taps. -/
theorem taps_toggle (flag : Bool) (alerts : List String) (taps : List Commit) :
    taps.foldlM (Seen.tap false) ⟨.of flag flag, alerts, false⟩ =
      if ∀ commit ∈ taps.dropLast, commit.isThrown = false then
        let flag := flag ^^ decide (taps.length % 2 = 1)
        some ⟨.of flag flag, alerts ++ taps.flatMap Commit.errors,
          taps.getLast?.any Commit.isThrown⟩
      else none := by
  induction taps generalizing flag alerts with
  | nil => simp
  | cons commit taps ih =>
    have first : Seen.tap false ⟨.of flag flag, alerts, false⟩ commit =
        some ⟨.of (!flag) (!flag), alerts ++ commit.errors, commit.isThrown⟩ := by
      cases flag <;> rfl
    rw [List.foldlM_cons, first, Option.bind_eq_bind, Option.bind_some]
    cases taps with
    | nil => simp
    | cons next taps =>
      cases thrown : commit.isThrown with
      | true =>
        have stuck : Seen.tap false ⟨.of (!flag) (!flag), alerts ++ commit.errors, true⟩ next =
            none := rfl
        rw [List.foldlM_cons, stuck]
        simp [thrown]
      | false =>
        have turned : (!flag ^^ decide ((next :: taps).length % 2 = 1)) =
            (flag ^^ decide ((commit :: next :: taps).length % 2 = 1)) := by
          have odd : (commit :: next :: taps).length % 2 = 1 ↔ ¬ (next :: taps).length % 2 = 1 := by
            simp only [List.length_cons]
            omega
          rw [decide_eq_decide.mpr odd, decide_not, Bool.not_xor, Bool.xor_not]
        rw [ih (!flag), turned]
        simp [thrown]

/-- **A tap whose commit throws is the last.** On an article of Home or Search, taps go on
exactly until one comes after a commit that has thrown. Up to there each tap turns the
button, the store is read to agree with it, and the errors of the commits are shown. -/
theorem thrown_tap_is_last {m : RealmManager} {vm : NewsDetailViewModel} {news : News}
    (store : m.realm ≠ none) (outside : m.isInWriteTransaction = false)
    (opened : getNewsDetailViewModel m (.unmanaged news) = some vm) (taps : List Commit) :
    ((machine.run (viewDidLoad m vm) taps).isSome ↔
      ∀ commit ∈ taps.dropLast, commit.isThrown = false) ∧
    ∀ t, machine.run (viewDidLoad m vm) taps = some t →
      t.viewModel.isFavorited = (vm.isFavorited ^^ decide (taps.length % 2 = 1)) ∧
      t.manager.isRealmContainsObject news.urlNews = t.viewModel.isFavorited ∧
      t.alerts = taps.flatMap Commit.errors ∧
      t.manager.isInWriteTransaction = taps.getLast?.any Commit.isThrown := by
  have table := (taps_seen store opened taps).1
  have start : (viewDidLoad m vm).seen = ⟨.of vm.isFavorited vm.isFavorited, [], false⟩ := by
    rw [seen, mark_opened opened]
    exact congrArg _ outside
  rw [start, NewsObject.isManaged, taps_toggle, List.nil_append] at table
  constructor
  · rw [← Option.isSome_map, table]
    split
    · rename_i going
      exact iff_of_true rfl going
    · rename_i stopped
      exact iff_of_false (Bool.false_ne_true) stopped
  · intro t ran
    have inStep := inStep_reachable (inStep_opened store opened) (Machine.reachable_run rfl ran)
    rw [ran, Option.map_some] at table
    split at table
    · obtain ⟨marked, rest⟩ := Seen.mk.inj (Option.some.inj table)
      obtain ⟨flag, stored⟩ := Mark.of_inj marked
      rw [inStep.news] at stored
      exact ⟨flag, stored.trans flag.symm, rest⟩
    · cases table

end

section

open Bookmarks (searchArticle)

/-- A store that holds one article, and its screen opened from the Bookmarks tab. -/
def oneStored : RealmManager := ⟨some (({} : Realm).create (.unmanaged searchArticle))⟩

def bookmarkOpened : NewsDetailViewModel := ⟨.managed ⟨0, searchArticle.urlNews⟩, true⟩

/-- Deleted, and not stored again: the third tap traps. -/
theorem taps_seen_bookmark :
    (machine.run (viewDidLoad oneStored bookmarkOpened) [.succeeds, .succeeds]).map seen =
      some ⟨.claimed, [], false⟩ ∧
    (machine.run (viewDidLoad oneStored bookmarkOpened) [.succeeds, .succeeds, .succeeds]).map
      seen = none := by
  have opened : getNewsDetailViewModel oneStored bookmarkOpened.news = some bookmarkOpened := by
    decide
  have store : oneStored.realm ≠ none := Option.some_ne_none _
  obtain ⟨two, -⟩ := taps_seen store opened [.succeeds, .succeeds]
  obtain ⟨three, -⟩ := taps_seen store opened [.succeeds, .succeeds, .succeeds]
  exact ⟨two.trans (by decide), three.trans (by decide)⟩

/-- The disk is full as an article is stored again. -/
theorem thrown_tap_is_last_full :
    let start := viewDidLoad ⟨some {}⟩ ⟨.unmanaged searchArticle, false⟩
    let taps : List Commit := [.succeeds, .succeeds, .throws "disk full"]
    (∃ t, machine.run start taps = some t ∧ t.viewModel.isFavorited = true ∧
      t.alerts = ["disk full"]) ∧
    (machine.run start (taps ++ [.succeeds])).isSome = false := by
  have opened : getNewsDetailViewModel ⟨some {}⟩ (.unmanaged searchArticle) =
      some ⟨.unmanaged searchArticle, false⟩ := rfl
  have store : (⟨some {}⟩ : RealmManager).realm ≠ none := Option.some_ne_none _
  intro start taps
  obtain ⟨goes, seen⟩ := thrown_tap_is_last store rfl opened taps
  obtain ⟨stops, -⟩ := thrown_tap_is_last store rfl opened (taps ++ [.succeeds])
  obtain ⟨t, ran⟩ := Option.isSome_iff_exists.mp (goes.mpr (by decide))
  obtain ⟨flag, -, alerts, -⟩ := seen t ran
  refine ⟨⟨t, ran, flag.trans (by decide), alerts.trans (by decide)⟩, ?_⟩
  rw [Bool.eq_false_iff, Ne, stops]
  decide

end

end NewsDetailScreen

end NewsReader
