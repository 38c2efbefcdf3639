import Mathlib.Algebra.BigOperators.Group.List.Basic
import Mathlib.Algebra.GroupWithZero.Nat
import NewsReader.Bookmarks.Screens

/-!
# Every bookmark in one category

The Bookmarks tab lists a stored article under the category it is tagged with.
Home tags its articles and Search does not, so the categories partition the store
exactly as long as no article from Search is stored (`bookmarks_partitioned`).
-/

namespace NewsReader

namespace Realm

/-- Every stored article is tagged with a category. -/
def Listed (realm : Realm) : Prop :=
  ∀ row ∈ realm.news.rows, ∃ c : CategoryType, row.record.categoryNews = some c.param

theorem listed_create_iff {realm : Realm} (h : realm.Listed) (news : News) :
    (realm.create (.unmanaged news)).Listed ↔
      ∃ c : CategoryType, news.categoryNews = some c.param := by
  constructor
  · intro listed
    exact listed _ (Table.mem_upsert.mpr (Or.inl rfl))
  · intro tagged row mem
    obtain rfl | ⟨old, -⟩ := Table.mem_upsert.mp mem
    · exact tagged
    · exact h row old

theorem listed_delete {realm : Realm} (h : realm.Listed) (a : Accessor) :
    (realm.delete a).Listed := by
  unfold delete
  split
  · exact fun row mem => h row (Table.mem_erase.mp mem).1
  · exact h

theorem listed_deleteAll {realm : Realm} (h : realm.Listed) (accessors : List Accessor) :
    (accessors.foldl delete realm).Listed := by
  induction accessors generalizing realm with
  | nil => exact h
  | cons a accessors ih => exact ih (listed_delete h a)

end Realm

namespace Bookmarks

/-- Every stored article is listed under exactly one category, and the numbers the
Bookmarks tab shows add up to the number stored. -/
def Partitioned (m : RealmManager) : Prop :=
  (∀ a ∈ m.getObjects, ∃! c : CategoryType, a ∈ m.getNewsForCategoryInRealm c.param) ∧
  (categories.map (getNumberArticlesForCategory m)).sum = m.getObjects.length

/-- Rows tagged with categories, counted category by category. -/
theorem sum_categories {rows : List NewsRow}
    (h : ∀ row ∈ rows, ∃ c : CategoryType, row.record.categoryNews = some c.param) :
    (CategoryType.allCases.map fun c =>
      (rows.filter fun row => decide (row.record.categoryNews = some c.param)).length).sum =
      rows.length := by
  induction rows with
  | nil => rfl
  | cons row rows ih =>
    obtain ⟨d, tagged⟩ := h row List.mem_cons_self
    have rest := ih fun r mem => h r (List.mem_cons_of_mem _ mem)
    have split (c : CategoryType) :
        ((row :: rows).filter fun row => decide (row.record.categoryNews = some c.param)).length =
          (if d = c then 1 else 0) +
          (rows.filter fun row => decide (row.record.categoryNews = some c.param)).length := by
      rw [List.filter_cons, tagged]
      by_cases same : d = c
      · simp [same, Nat.add_comm]
      · have other : d.param ≠ c.param := fun h => same (CategoryType.param_injective h)
        simp [same, other]
    have one : (CategoryType.allCases.map fun c => if d = c then 1 else 0).sum = 1 := by
      cases d <;> rfl
    simp only [split, List.sum_map_add, one, rest, List.length_cons, Nat.add_comm]

theorem mem_getNewsForCategory_of_stored {realm : Realm} {row : NewsRow}
    (mem : row ∈ realm.news.rows) (query : String) :
    row.accessor ∈ RealmManager.getNewsForCategoryInRealm ⟨some realm⟩ query ↔
      row.record.categoryNews = some query := by
  rw [RealmManager.mem_getNewsForCategory]
  constructor
  · rintro ⟨other, stored, tagged, same⟩
    have key : other.urlNews = row.urlNews := congrArg Accessor.urlNews same
    exact Table.key_injOn stored mem key ▸ tagged
  · intro tagged
    exact ⟨row, mem, tagged, rfl⟩

/-- What the commit becomes does not show. -/
theorem partitioned_commitWrite (realm : Realm) (commit : Commit) :
    Partitioned ⟨some (realm.commitWrite commit)⟩ ↔ Partitioned ⟨some realm⟩ := Iff.rfl

theorem partitioned_iff (realm : Realm) : Partitioned ⟨some realm⟩ ↔ realm.Listed := by
  constructor
  · rintro ⟨unique, -⟩ row mem
    obtain ⟨c, listed, -⟩ := unique row.accessor (List.mem_map_of_mem mem)
    exact ⟨c, (mem_getNewsForCategory_of_stored mem _).mp listed⟩
  · intro listed
    refine ⟨fun a mem => ?_, ?_⟩
    · obtain ⟨row, stored, rfl⟩ := List.mem_map.mp mem
      obtain ⟨c, tagged⟩ := listed row stored
      refine ⟨c, (mem_getNewsForCategory_of_stored stored _).mpr tagged, fun d also => ?_⟩
      have same := (mem_getNewsForCategory_of_stored stored _).mp also
      exact CategoryType.param_injective (Option.mem_unique same tagged)
    · have counted : categories.map (getNumberArticlesForCategory ⟨some realm⟩) =
          CategoryType.allCases.map fun c => (realm.news.rows.filter fun row =>
            decide (row.record.categoryNews = some c.param)).length :=
        List.map_congr_left fun c _ => List.length_map _
      rw [counted, sum_categories listed]
      exact (List.length_map _).symm

/-- "No bookmarks" is shown exactly when every category is empty. -/
theorem Partitioned.isEmtyBookmarks_iff {m : RealmManager} (h : Partitioned m) :
    isEmtyBookmarks m = true ↔ ∀ c : CategoryType, getNumberArticlesForCategory m c = 0 := by
  rw [isEmtyBookmarks, ← h.2, beq_iff_eq, List.sum_eq_zero_iff_forall_eq_nat]
  constructor
  · exact fun zero c => zero _ (List.mem_map_of_mem c.mem_allCases)
  · rintro zero n mem
    obtain ⟨c, -, rfl⟩ := List.mem_map.mp mem
    exact zero c

/-! ## Events -/

/-- The event stores `news`: a tap on the bookmark button of a screen that takes
its article for not stored, with an article that is not managed. One whose commit
throws stores it for the rest of the process. -/
def Stores (s : Bookmarks) (news : News) : BookmarkEvent → Prop
  | .changeBookMark detail _ => s.manager.realm ≠ none ∧
    s.newsDetails[detail]? = some ⟨.unmanaged news, false⟩
  | _ => False

/-- An article that is stored is tagged with a category. -/
def Tags (s : Bookmarks) (e : BookmarkEvent) : Prop :=
  ∀ news, Stores s news e → ∃ c : CategoryType, news.categoryNews = some c.param

/-- The store after deletions only. -/
def Shrinks (m m' : RealmManager) : Prop :=
  m' = m ∨ ∃ (realm : Realm) (accessors : List Accessor) (commit : Commit),
    m.realm = some realm ∧ m' = ⟨some ((accessors.foldl Realm.delete realm).commitWrite commit)⟩

theorem shrinks_write {m m' : RealmManager} {change : Realm → Realm × Completions}
    {commit : Commit} {completions : Completions}
    (wrote : m.write commit change = some (m', completions))
    (deletes : ∀ realm, ∃ accessors : List Accessor,
      (change realm).1 = accessors.foldl Realm.delete realm) :
    Shrinks m m' := by
  obtain ⟨-, same, -⟩ | ⟨realm, opened, -, written, -⟩ := RealmManager.write_some wrote
  · exact Or.inl same
  · obtain ⟨accessors, deleted⟩ := deletes realm
    exact Or.inr ⟨realm, accessors, commit, opened, deleted ▸ written⟩

theorem shrinks_deleteObject {m m' : RealmManager} {key : Option String} {commit : Commit}
    {completions : Completions} (wrote : m.deleteObject key commit = some (m', completions)) :
    Shrinks m m' := by
  apply shrinks_write wrote
  intro realm
  cases m.getObjectForKey key with
  | none => exact ⟨[], rfl⟩
  | some obj => exact ⟨[obj], rfl⟩

theorem shrinks_deleteObjects {m m' : RealmManager} {keys : List (Option String)}
    {commit : Commit} {completions : Completions}
    (wrote : m.deleteObjects keys commit = some (m', completions)) : Shrinks m m' := by
  simp only [RealmManager.deleteObjects] at wrote
  exact shrinks_write wrote fun _ => ⟨_, rfl⟩

theorem Shrinks.partitioned {m m' : RealmManager} (h : Shrinks m m') (before : Partitioned m) :
    Partitioned m' := by
  obtain rfl | ⟨realm, accessors, commit, opened, rfl⟩ := h
  · exact before
  · obtain ⟨_⟩ := m
    obtain rfl : _ = some realm := opened
    rw [partitioned_iff] at before
    rw [partitioned_commitWrite, partitioned_iff]
    exact Realm.listed_deleteAll before accessors

/-- A tap on the bookmark button stores the article of its screen, or deletes one. -/
theorem changeBookMark_cases {s t : Bookmarks} {detail : Nat} {commit : Commit}
    (stepped : s.changeBookMark detail commit = some t) :
    (∃ realm news, s.manager.realm = some realm ∧ Stores s news (.changeBookMark detail commit) ∧
      t.manager = ⟨some ((realm.create (.unmanaged news)).commitWrite commit)⟩) ∨
    ((∀ news, ¬ Stores s news (.changeBookMark detail commit)) ∧ Shrinks s.manager t.manager) := by
  obtain ⟨vm, m, vm', completions, found, tapped, rfl⟩ := changeBookMark_some stepped
  obtain ⟨news, isFavorited⟩ := vm
  cases isFavorited with
  | true =>
    have none (news : News) : ¬ Stores s news (.changeBookMark detail commit) := by
      rintro ⟨-, shown⟩
      exact nomatch found.symm.trans shown
    obtain ⟨key, -, rest⟩ := Option.bind_eq_some_iff.mp tapped
    obtain ⟨⟨m, completions⟩, wrote, deleted⟩ := Option.bind_eq_some_iff.mp rest
    obtain ⟨rfl, -⟩ := Prod.mk.inj (Option.some.inj deleted)
    exact Or.inr ⟨none, shrinks_deleteObject wrote⟩
  | false =>
    obtain ⟨⟨m, completions⟩, wrote, added⟩ := Option.bind_eq_some_iff.mp tapped
    obtain ⟨rfl, -⟩ := Prod.mk.inj (Option.some.inj added)
    obtain ⟨closed, same, -⟩ | ⟨realm, opened, -, written, -⟩ := RealmManager.write_some wrote
    · exact Or.inr ⟨fun _ stores => stores.1 closed, Or.inl same⟩
    · cases news with
      | unmanaged news =>
        have stores : s.manager.realm ≠ none := by
          rw [opened]
          nofun
        exact Or.inl ⟨realm, news, opened, ⟨stores, found⟩, written⟩
      | managed a =>
        refine Or.inr ⟨?_, Or.inr ⟨realm, [], commit, opened, written⟩⟩
        rintro news ⟨-, shown⟩
        exact nomatch found.symm.trans shown

/-- **What an event does to the store**: it stores one article, or only deletes. -/
theorem handle_store {s t : Bookmarks} {e : BookmarkEvent} (stepped : s.handle e = some t) :
    (∃ realm news commit, s.manager.realm = some realm ∧ Stores s news e ∧
      t.manager = ⟨some ((realm.create (.unmanaged news)).commitWrite commit)⟩) ∨
    ((∀ news, ¬ Stores s news e) ∧ Shrinks s.manager t.manager) := by
  cases e with
  | openFromHome news | openFromSearch news =>
    obtain ⟨_, -, rfl⟩ := openNews_some stepped
    exact Or.inr ⟨fun _ => id, Or.inl rfl⟩
  | openBookmark list row =>
    obtain ⟨a, opened⟩ := openBookmark_some stepped
    obtain ⟨_, -, rfl⟩ := openNews_some opened
    exact Or.inr ⟨fun _ => id, Or.inl rfl⟩
  | changeBookMark detail commit =>
    obtain ⟨realm, news, stored⟩ | shrinks := changeBookMark_cases stepped
    · exact Or.inl ⟨realm, news, commit, stored⟩
    · exact Or.inr shrinks
  | deleteNews list row commit =>
    obtain ⟨_, _, _, -, -, wrote, -⟩ := deleteNews_some stepped
    exact Or.inr ⟨fun _ => id, shrinks_deleteObject wrote⟩
  | deleteArticles list rows commit =>
    obtain ⟨_, _, _, -, -, wrote, -⟩ := deleteArticles_some stepped
    exact Or.inr ⟨fun _ => id, shrinks_deleteObjects wrote⟩
  | notify list =>
    obtain ⟨_, -, rfl⟩ := notify_some stepped
    exact Or.inr ⟨fun _ => id, Or.inl rfl⟩
  | openCategory category =>
    obtain ⟨-, rfl⟩ := openCategory_some stepped
    exact Or.inr ⟨fun _ => id, Or.inl rfl⟩
  | closeDetail | closeList =>
    obtain rfl := Option.some.inj stepped
    exact Or.inr ⟨fun _ => id, Or.inl rfl⟩

theorem Stores.shown {s : Bookmarks} {news : News} {e : BookmarkEvent} (h : Stores s news e) :
    ⟨.unmanaged news, false⟩ ∈ s.newsDetails := by
  cases e with
  | changeBookMark detail commit => exact List.mem_of_getElem? h.2
  | _ => cases h

theorem Shrinks.stored {m m' : RealmManager} (h : Shrinks m m') {row : NewsRow}
    (mem : row ∈ m'.storedNews) : row ∈ m.storedNews := by
  obtain rfl | ⟨realm, accessors, commit, opened, rfl⟩ := h
  · exact mem
  · have before : row ∈ realm.news.rows := by
      clear opened
      induction accessors generalizing realm with
      | nil => exact mem
      | cons a accessors ih =>
        have deleted : row ∈ (realm.delete a).news.rows := ih _ mem
        unfold Realm.delete at deleted
        split at deleted
        · exact (Table.mem_erase.mp deleted).1
        · exact deleted
    obtain ⟨_⟩ := m
    obtain rfl : _ = some realm := opened
    exact before

/-- **One event** leaves in the store what was stored, and the article it stores. -/
theorem stored_handle {s t : Bookmarks} {e : BookmarkEvent} (stepped : s.handle e = some t)
    {row : NewsRow} (mem : row ∈ t.manager.storedNews) :
    row ∈ s.manager.storedNews ∨ ∃ news, Stores s news e ∧ row.record = news.record := by
  obtain ⟨realm, news, commit, opened, stores, created⟩ | ⟨-, shrinks⟩ := handle_store stepped
  · rw [created] at mem
    obtain rfl | ⟨before, -⟩ := Table.mem_upsert.mp mem
    · exact Or.inr ⟨news, stores, rfl⟩
    · obtain ⟨⟨_⟩, details, lists⟩ := s
      obtain rfl : _ = some realm := opened
      exact Or.inl before
  · exact Or.inl (shrinks.stored mem)

theorem stores_unique {s : Bookmarks} {e : BookmarkEvent} {news news' : News}
    (h : Stores s news e) (h' : Stores s news' e) : news = news' := by
  cases e with
  | changeBookMark detail commit =>
    have same := Option.mem_unique h.2 h'.2
    exact NewsObject.unmanaged.inj (NewsDetailViewModel.mk.inj same).1
  | _ => cases h

/-- One event keeps the partition exactly when what it stores is tagged. -/
theorem partitioned_step_iff {s t : Bookmarks} {e : BookmarkEvent}
    (before : Partitioned s.manager) (stepped : s.handle e = some t) :
    Partitioned t.manager ↔ Tags s e := by
  obtain ⟨realm, news, commit, opened, stores, created⟩ | ⟨none, shrinks⟩ := handle_store stepped
  · have listed : realm.Listed := by
      obtain ⟨⟨_⟩, details, lists⟩ := s
      obtain rfl : _ = some realm := opened
      exact (partitioned_iff realm).mp before
    rw [created, partitioned_commitWrite, partitioned_iff, Realm.listed_create_iff listed]
    constructor
    · intro tagged news' stores'
      exact stores_unique stores stores' ▸ tagged
    · exact fun tags => tags news stores
  · exact ⟨fun _ news stores => absurd stores (none news), fun _ => shrinks.partitioned before⟩

/-- **No bookmark out of view** in every run that stores tagged articles only:
storing one that is not takes it out of view. -/
theorem bookmarks_partitioned (s : Bookmarks) :
    ((machine.given Tags).Reachable (fun s => Launched s ∧ Partitioned s.manager) s →
      Partitioned s.manager) ∧
    (Partitioned s.manager → ∀ e t, s.handle e = some t → (Partitioned t.manager ↔ Tags s e)) := by
  constructor
  · intro h
    apply h.invariant (fun s => Partitioned s.manager) (fun _ launched => launched.2)
    intro s e t _ before allowed stepped
    exact (partitioned_step_iff before stepped).mpr allowed.2
  · intro before e t stepped
    exact partitioned_step_iff before stepped

theorem emptyStore_partitioned : Launched emptyStore ∧ Partitioned emptyStore.manager :=
  ⟨emptyStore_launched, (partitioned_iff _).mpr fun _ mem => nomatch mem⟩

def homeBookmarked : Bookmarks :=
  (homeOpened.handle (.changeBookMark 0 .succeeds)).getD emptyStore

theorem homeBookmarked_reachable :
    (machine.given Tags).Reachable (fun s => Launched s ∧ Partitioned s.manager)
      homeBookmarked := by
  have opened : (machine.given Tags).Reachable (fun s => Launched s ∧ Partitioned s.manager)
      homeOpened :=
    .next (.start emptyStore_partitioned) (e := .openFromHome homeArticle)
      ⟨(by decide : emptyStore.Allowed (.openFromHome homeArticle)), fun _ stores => stores.elim⟩ rfl
  have tags : Tags homeOpened (.changeBookMark 0 .succeeds) := by
    rintro news ⟨-, shown⟩
    cases shown
    exact ⟨.us, rfl⟩
  have allowed : homeOpened.Allowed (.changeBookMark 0 .succeeds) := by decide
  exact .next opened (e := .changeBookMark 0 .succeeds) ⟨allowed, tags⟩ rfl

theorem bookmarks_partitioned_home : Partitioned homeBookmarked.manager ∧
    homeBookmarked.manager.getObjects.length = 1 ∧
    ∀ t, homeBookmarked.handle (.openFromSearch searchArticle) = some t →
      Partitioned t.manager := by
  obtain ⟨run, step⟩ := bookmarks_partitioned homeBookmarked
  have partitioned := run homeBookmarked_reachable
  exact ⟨partitioned, by decide, fun t stepped => (step partitioned _ t stepped).mpr fun _ => False.elim⟩

/-- The article is bookmarked where Search shows it. -/
def searchBookmarked : Bookmarks :=
  (machine.run emptyStore
    [.openFromSearch searchArticle, .changeBookMark 0 .succeeds]).getD emptyStore

theorem searchBookmarked_reachable :
    machine.Reachable (fun s => Launched s ∧ Partitioned s.manager) searchBookmarked :=
  Machine.reachable_getD _ emptyStore_partitioned (by decide)

theorem search_bookmark_unlisted :
    ¬ ∀ s, machine.Reachable (fun s => Launched s ∧ Partitioned s.manager) s →
      Partitioned s.manager := by
  intro partitioned
  have counted := (partitioned _ searchBookmarked_reachable).2
  revert counted
  decide

end Bookmarks

end NewsReader
