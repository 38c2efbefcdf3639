import NewsReader.News
import NewsReader.Table

/-!
# The Realm store

`News` and `Source` are tables keyed by `urlNews` and `name`, both optional
strings. A managed `News` is an accessor of one row: it detaches for good when
the row is deleted, even if its key is stored again, and reading a property of a
detached accessor traps. A write is the change and then its commit, which may throw
and then leaves the write open: the change is read as if it were stored, and the next
write traps.
-/

namespace NewsReader

/-- A stored `News`, whose `source` is a link to the row with that name. -/
structure NewsRecord where
  source : Option (Option String)
  titleNews : Option String
  urlNews : Option String
  urlImage : Option String
  publishedAt : Option Date
  author : Option String
  content : Option String
  descriptionNews : Option String
  categoryNews : Option String
  deriving DecidableEq, Repr

def News.record (news : News) : NewsRecord :=
  { news with source := news.source.map (·.name) }

/-- `object` names the row itself and is never given to another. -/
structure NewsRow where
  object : Nat
  record : NewsRecord
  deriving DecidableEq, Repr

def NewsRow.urlNews (row : NewsRow) : Option String := row.record.urlNews

/-- A managed `News`. A primary key does not change, so it is kept here. -/
structure Accessor where
  object : Nat
  urlNews : Option String
  deriving DecidableEq, Repr

def NewsRow.accessor (row : NewsRow) : Accessor := ⟨row.object, row.urlNews⟩

/-- A `News` in the hands of a screen: decoded from a response, or from Realm. -/
inductive NewsObject
  | unmanaged (news : News)
  | managed (accessor : Accessor)
  deriving DecidableEq, Repr

/-- The article a `News` stands for, read or not. -/
def NewsObject.key : NewsObject → Option String
  | unmanaged news => news.urlNews
  | managed accessor => accessor.urlNews

structure Realm where
  news : Table NewsRow.urlNews := Table.empty _
  sources : Table Source.name := Table.empty _
  nextObject : Nat := 0
  isInWriteTransaction : Bool := false
  deriving DecidableEq

/-- The arguments a completion is called with, call after call. -/
abbrev Completions := List (Bool × String)

/-- Whether the commit at the end of a write goes through. -/
inductive Commit
  | succeeds
  | throws (localizedDescription : String)
  deriving DecidableEq, Repr

namespace Commit

def isThrown : Commit → Bool
  | succeeds => false
  | throws _ => true

/-- The calls from the `catch` around a write. -/
def completions : Commit → Completions
  | succeeds => []
  | throws localizedDescription => [(false, localizedDescription)]

theorem completions_fail (commit : Commit) : ∀ call ∈ commit.completions, call.1 = false := by
  cases commit <;> simp [completions]

end Commit

namespace Realm

def objectForPrimaryKey (realm : Realm) (key : Option String) : Option Accessor :=
  (realm.news.find key).map (·.accessor)

def isAttached (realm : Realm) (a : Accessor) : Bool :=
  decide (realm.objectForPrimaryKey a.urlNews = some a)

/-- `create(_:value:update: .all)`. A linked `Source` is upserted by its own key;
a value that is already managed is left as it is, detached or not. -/
def create (realm : Realm) : NewsObject → Realm
  | .managed _ => realm
  | .unmanaged news =>
    let existing := (realm.news.find news.urlNews).map (·.object)
    { realm with
      news := realm.news.upsert ⟨existing.getD realm.nextObject, news.record⟩
      sources := match news.source with
        | some source => realm.sources.upsert source
        | none => realm.sources
      nextObject := if existing.isSome then realm.nextObject else realm.nextObject + 1 }

def delete (realm : Realm) (a : Accessor) : Realm :=
  if realm.isAttached a then { realm with news := realm.news.erase a.urlNews } else realm

/-- `commitWrite`: one that throws does not end the transaction. -/
def commitWrite (realm : Realm) (commit : Commit) : Realm :=
  { realm with isInWriteTransaction := commit.isThrown }

end Realm

/-- `realm` is nil when the store could not be opened. -/
structure RealmManager where
  realm : Option Realm
  deriving DecidableEq

namespace RealmManager

def getObjectForKey (m : RealmManager) (key : Option String) : Option Accessor :=
  m.realm.bind (·.objectForPrimaryKey key)

def isRealmContainsObject (m : RealmManager) (key : Option String) : Bool :=
  (m.getObjectForKey key).isSome

def getObjects (m : RealmManager) : List Accessor :=
  match m.realm with
  | none => []
  | some realm => realm.news.rows.map (·.accessor)

def getNewsForCategoryInRealm (m : RealmManager) (query : String) : List Accessor :=
  match m.realm with
  | none => []
  | some realm =>
    (realm.news.rows.filter fun row => decide (row.record.categoryNews = some query)).map
      (·.accessor)

/-- A write is open: a commit has thrown since the process started. -/
def isInWriteTransaction (m : RealmManager) : Bool := m.realm.any (·.isInWriteTransaction)

/-- `realm?.write`: `change` also says what it calls the completion with. Only an error
of the block would cancel the transaction, and beginning one inside another raises an
exception. -/
def write (m : RealmManager) (commit : Commit) (change : Realm → Realm × Completions) :
    Option (RealmManager × Completions) :=
  match m.realm with
  | none => some (m, [])
  | some realm =>
    if realm.isInWriteTransaction then none
    else
      let (written, completions) := change realm
      some (⟨some (written.commitWrite commit)⟩, completions ++ commit.completions)

def addObject (m : RealmManager) (object : NewsObject) (commit : Commit) :
    Option (RealmManager × Completions) :=
  m.write commit fun realm => (realm.create object, [(true, "")])

def deleteObject (m : RealmManager) (key : Option String) (commit : Commit) :
    Option (RealmManager × Completions) :=
  m.write commit fun realm =>
    match m.getObjectForKey key with
    | some obj => (realm.delete obj, [(true, "")])
    | none => (realm, [(false, "No object in Realm")])

def deleteObjects (m : RealmManager) (keys : List (Option String)) (commit : Commit) :
    Option (RealmManager × Completions) :=
  let objectsForPKInRealm := keys.filterMap m.getObjectForKey
  m.write commit fun realm => (objectsForPKInRealm.foldl Realm.delete realm, [(true, "")])

end RealmManager

/-- Reading `urlNews`: a detached accessor traps. -/
def NewsObject.urlNews (m : RealmManager) : NewsObject → Option (Option String)
  | .unmanaged news => some news.urlNews
  | .managed a => if m.realm.any (·.isAttached a) then some a.urlNews else none

/-! ## What a write does -/

namespace Realm

/-- The change `deleteObject` makes: the object of a key goes, if there is one. -/
def deleteKey (realm : Realm) (key : Option String) : Realm :=
  (realm.objectForPrimaryKey key).elim realm realm.delete

/-- The change `deleteObjects` makes. -/
def deleteKeys (realm : Realm) (keys : List (Option String)) : Realm :=
  (keys.filterMap realm.objectForPrimaryKey).foldl delete realm

variable {realm : Realm} {k : Option String}

@[simp] theorem news_commitWrite (realm : Realm) (commit : Commit) :
    (realm.commitWrite commit).news = realm.news := rfl

@[simp] theorem sources_commitWrite (realm : Realm) (commit : Commit) :
    (realm.commitWrite commit).sources = realm.sources := rfl

@[simp] theorem isInWriteTransaction_commitWrite (realm : Realm) (commit : Commit) :
    (realm.commitWrite commit).isInWriteTransaction = commit.isThrown := rfl

@[simp] theorem isInWriteTransaction_create (realm : Realm) (object : NewsObject) :
    (realm.create object).isInWriteTransaction = realm.isInWriteTransaction := by
  cases object <;> rfl

@[simp] theorem isInWriteTransaction_delete (realm : Realm) (a : Accessor) :
    (realm.delete a).isInWriteTransaction = realm.isInWriteTransaction := by
  unfold delete
  split <;> rfl

@[simp] theorem isInWriteTransaction_deleteKey (realm : Realm) (key : Option String) :
    (realm.deleteKey key).isInWriteTransaction = realm.isInWriteTransaction := by
  unfold deleteKey
  cases realm.objectForPrimaryKey key <;> simp

@[simp] theorem isInWriteTransaction_deleteKeys (realm : Realm) (keys : List (Option String)) :
    (realm.deleteKeys keys).isInWriteTransaction = realm.isInWriteTransaction := by
  unfold deleteKeys
  generalize keys.filterMap realm.objectForPrimaryKey = accessors
  induction accessors generalizing realm with
  | nil => rfl
  | cons a accessors ih => exact (ih (realm.delete a)).trans (isInWriteTransaction_delete realm a)

@[simp] theorem isAttached_commitWrite (realm : Realm) (commit : Commit) :
    (realm.commitWrite commit).isAttached = realm.isAttached := rfl

@[simp] theorem objectForPrimaryKey_commitWrite (realm : Realm) (commit : Commit) :
    (realm.commitWrite commit).objectForPrimaryKey = realm.objectForPrimaryKey := rfl

theorem commitWrite_succeeds (outside : realm.isInWriteTransaction = false) :
    realm.commitWrite .succeeds = realm := by
  obtain ⟨_, _, _, _⟩ := realm
  obtain rfl := outside
  rfl

theorem objectForPrimaryKey_urlNews {a : Accessor} (h : realm.objectForPrimaryKey k = some a) :
    a.urlNews = k := by
  obtain ⟨row, found, rfl⟩ := Option.map_eq_some_iff.mp h
  exact (Table.find_eq_some_iff.mp found).2

theorem isAttached_of_object {a : Accessor} (h : realm.objectForPrimaryKey k = some a) :
    realm.isAttached a = true := by
  rw [isAttached, objectForPrimaryKey_urlNews h, h]
  exact decide_eq_true rfl

theorem object_create_self (realm : Realm) (news : News) :
    ((realm.create (.unmanaged news)).objectForPrimaryKey news.urlNews).isSome = true := by
  simp only [create, objectForPrimaryKey, Option.isSome_map]
  exact Option.isSome_of_eq_some (Table.find_upsert_self realm.news ⟨_, news.record⟩)

theorem object_create_ne {news : News} (ne : k ≠ news.urlNews) :
    (realm.create (.unmanaged news)).objectForPrimaryKey k = realm.objectForPrimaryKey k :=
  congrArg (Option.map _) (Table.find_upsert_ne ne)

/-- An article keeps its row when it is stored again, as does any other. -/
theorem object_create_of_some {a : Accessor} (stored : realm.objectForPrimaryKey k = some a)
    (object : NewsObject) : (realm.create object).objectForPrimaryKey k = some a := by
  cases object with
  | managed => exact stored
  | unmanaged news =>
    by_cases same : k = news.urlNews
    · subst same
      obtain ⟨row, found, rfl⟩ := Option.map_eq_some_iff.mp stored
      have key : row.urlNews = news.urlNews := (Table.find_eq_some_iff.mp found).2
      have written : (realm.news.upsert ⟨row.object, news.record⟩).find news.urlNews =
          some ⟨row.object, news.record⟩ := Table.find_upsert_self realm.news _
      simp only [create, objectForPrimaryKey, found, Option.map_some, Option.getD_some, written,
        NewsRow.accessor, key]
      rfl
    · exact (object_create_ne same).trans stored

theorem object_delete (realm : Realm) (a : Accessor) (k : Option String) :
    (realm.delete a).objectForPrimaryKey k =
      if realm.isAttached a = true ∧ k = a.urlNews then none
      else realm.objectForPrimaryKey k := by
  unfold delete
  split
  · rename_i attached
    by_cases same : k = a.urlNews
    · rw [if_pos ⟨attached, same⟩, same]
      exact congrArg (Option.map _) (Table.find_erase_self _ _)
    · rw [if_neg fun h => same h.2]
      exact congrArg (Option.map _) (Table.find_erase_ne same)
  · rename_i detached
    rw [if_neg fun h => detached h.1]

theorem object_deleteKey (realm : Realm) (key k : Option String) :
    (realm.deleteKey key).objectForPrimaryKey k =
      if k = key then none else realm.objectForPrimaryKey k := by
  cases found : realm.objectForPrimaryKey key with
  | none =>
    rw [deleteKey, found]
    by_cases same : k = key
    · rw [if_pos same, same]
      exact found
    · rw [if_neg same]
      rfl
  | some a =>
    obtain rfl := objectForPrimaryKey_urlNews found
    have deleted := object_delete realm a k
    rw [isAttached_of_object found] at deleted
    simpa [deleteKey, found] using deleted

/-- Deleting the objects of some keys: those are gone, and the others stay. -/
theorem object_deleteKeys (realm : Realm) (keys : List (Option String)) (k : Option String) :
    (realm.deleteKeys keys).objectForPrimaryKey k =
      if k ∈ keys then none else realm.objectForPrimaryKey k := by
  have part (now : Realm) (sub : ∀ k, now.objectForPrimaryKey k = none ∨
      now.objectForPrimaryKey k = realm.objectForPrimaryKey k) :
      ((keys.filterMap realm.objectForPrimaryKey).foldl delete now).objectForPrimaryKey k =
        if k ∈ keys then none else now.objectForPrimaryKey k := by
    induction keys generalizing now with
    | nil => rfl
    | cons key keys ih =>
      cases found : realm.objectForPrimaryKey key with
      | none =>
        have absent : now.objectForPrimaryKey key = none := by
          obtain gone | same := sub key
          · exact gone
          · exact same.trans found
        rw [List.filterMap_cons_none found, ih now sub]
        by_cases same : k = key
        · simp [same, absent]
        · simp [same]
      | some a =>
        obtain rfl := objectForPrimaryKey_urlNews found
        rw [List.filterMap_cons_some found, List.foldl_cons, ih]
        · rw [object_delete]
          by_cases same : k = a.urlNews
          · have gone : now.isAttached a = true ∨ now.objectForPrimaryKey a.urlNews = none := by
              obtain gone | same := sub a.urlNews
              · exact Or.inr gone
              · exact Or.inl (isAttached_of_object (same.trans found))
            rcases gone with attached | gone
            · simp [same, attached]
            · simp [same, gone]
          · simp [same]
        · intro k
          rw [object_delete]
          split
          · exact Or.inl rfl
          · exact sub k
  exact part realm fun _ => Or.inr rfl

end Realm

namespace RealmManager

variable {m m' : RealmManager} {realm : Realm} {commit : Commit} {completions : Completions}
  {change : Realm → Realm × Completions} {key k : Option String}

theorem write_isSome_iff : (m.write commit change).isSome ↔ m.isInWriteTransaction = false := by
  obtain ⟨_ | realm⟩ := m
  · simp [write, isInWriteTransaction]
  · simp [write, isInWriteTransaction]

/-- **What a write does**: nothing without a store, and otherwise its change, whatever
becomes of the commit. -/
theorem write_some (wrote : m.write commit change = some (m', completions)) :
    (m.realm = none ∧ m' = m ∧ completions = []) ∨
    ∃ realm, m.realm = some realm ∧ realm.isInWriteTransaction = false ∧
      m' = ⟨some ((change realm).1.commitWrite commit)⟩ ∧
      completions = (change realm).2 ++ commit.completions := by
  obtain ⟨_ | realm⟩ := m
  · obtain ⟨rfl, rfl⟩ := Prod.mk.inj (Option.some.inj wrote)
    exact Or.inl ⟨rfl, rfl, rfl⟩
  · simp only [write] at wrote
    split at wrote
    · cases wrote
    · rename_i closed
      obtain ⟨rfl, rfl⟩ := Prod.mk.inj (Option.some.inj wrote)
      exact Or.inr ⟨realm, rfl, by simpa using closed, rfl, rfl⟩

/-- A write begins where none is open, and leaves itself open where its commit throws. -/
theorem write_transaction (wrote : m.write commit change = some (m', completions)) :
    m.isInWriteTransaction = false ∧
      m'.isInWriteTransaction = (m.realm.isSome && commit.isThrown) := by
  obtain ⟨none, rfl, -⟩ | ⟨realm, opened, outside, rfl, -⟩ := write_some wrote
  · simp [isInWriteTransaction, none]
  · simp [isInWriteTransaction, opened, outside]

theorem deleteObject_some (wrote : m.deleteObject key commit = some (m', completions)) :
    (m.realm = none ∧ m' = m ∧ completions = []) ∨
    ∃ realm, m.realm = some realm ∧ realm.isInWriteTransaction = false ∧
      m' = ⟨some ((realm.deleteKey key).commitWrite commit)⟩ ∧
      completions = (if (realm.objectForPrimaryKey key).isSome then (true, "")
        else (false, "No object in Realm")) :: commit.completions := by
  obtain closed | ⟨realm, opened, outside, rfl, rfl⟩ := write_some wrote
  · exact Or.inl closed
  · have found : m.getObjectForKey key = realm.objectForPrimaryKey key := by
      simp [getObjectForKey, opened]
    refine Or.inr ⟨realm, opened, outside, ?_⟩
    cases there : realm.objectForPrimaryKey key with
    | none => simp [found, there, Realm.deleteKey]
    | some a => simp [found, there, Realm.deleteKey]

theorem deleteObject_of_object (outside : realm.isInWriteTransaction = false) {a : Accessor}
    (h : realm.objectForPrimaryKey k = some a) (commit : Commit) :
    deleteObject ⟨some realm⟩ k commit =
      some (⟨some ((realm.delete a).commitWrite commit)⟩, (true, "") :: commit.completions) := by
  simp [deleteObject, write, getObjectForKey, h, outside]

theorem deleteObjects_of_outside (outside : realm.isInWriteTransaction = false)
    (keys : List (Option String)) (commit : Commit) :
    deleteObjects ⟨some realm⟩ keys commit =
      some (⟨some ((realm.deleteKeys keys).commitWrite commit)⟩,
        (true, "") :: commit.completions) := by
  simp only [deleteObjects, write, outside, Bool.false_eq_true, ↓reduceIte]
  rfl

theorem deleteObjects_some {keys : List (Option String)}
    (wrote : m.deleteObjects keys commit = some (m', completions)) :
    (m.realm = none ∧ m' = m ∧ completions = []) ∨
    ∃ realm, m.realm = some realm ∧ realm.isInWriteTransaction = false ∧
      m' = ⟨some ((realm.deleteKeys keys).commitWrite commit)⟩ ∧
      completions = (true, "") :: commit.completions := by
  simp only [deleteObjects] at wrote
  obtain closed | ⟨realm, opened, outside, rfl, rfl⟩ := write_some wrote
  · exact Or.inl closed
  · obtain ⟨_⟩ := m
    obtain rfl : _ = some realm := opened
    exact Or.inr ⟨realm, rfl, outside, rfl, rfl⟩

theorem addObject_isSome_iff {object : NewsObject} :
    (m.addObject object commit).isSome ↔ m.isInWriteTransaction = false :=
  write_isSome_iff

theorem deleteObject_isSome_iff :
    (m.deleteObject key commit).isSome ↔ m.isInWriteTransaction = false :=
  write_isSome_iff

theorem deleteObjects_isSome_iff {keys : List (Option String)} :
    (m.deleteObjects keys commit).isSome ↔ m.isInWriteTransaction = false := by
  simp only [deleteObjects]
  exact write_isSome_iff

theorem getObjectForKey_deleteObject (wrote : m.deleteObject key commit = some (m', completions))
    (k : Option String) :
    m'.getObjectForKey k = if k = key then none else m.getObjectForKey k := by
  obtain ⟨none, rfl, -⟩ | ⟨realm, opened, -, rfl, -⟩ := deleteObject_some wrote
  · simp [getObjectForKey, none]
  · simp [getObjectForKey, opened, Realm.object_deleteKey]

theorem getObjectForKey_deleteObjects {keys : List (Option String)}
    (wrote : m.deleteObjects keys commit = some (m', completions)) (k : Option String) :
    m'.getObjectForKey k = if k ∈ keys then none else m.getObjectForKey k := by
  obtain ⟨none, rfl, -⟩ | ⟨realm, opened, -, rfl, -⟩ := deleteObjects_some wrote
  · simp [getObjectForKey, none]
  · simp [getObjectForKey, opened, Realm.object_deleteKeys]

end RealmManager

/-! ## What is stored -/

namespace RealmManager

/-- `realm.objects(News.self)`. -/
def storedNews (m : RealmManager) : List NewsRow :=
  match m.realm with
  | none => []
  | some realm => realm.news.rows

section Stored

variable {m : RealmManager}

theorem getNewsForCategoryInRealm_eq (m : RealmManager) (query : String) :
    m.getNewsForCategoryInRealm query =
      (m.storedNews.filter fun row => decide (row.record.categoryNews = some query)).map
        (·.accessor) := by
  obtain ⟨_ | realm⟩ := m <;> rfl

theorem nodup_storedNews (m : RealmManager) : (m.storedNews.map NewsRow.urlNews).Nodup := by
  obtain ⟨_ | realm⟩ := m
  · exact List.nodup_nil
  · exact realm.news.nodup

theorem getObjectForKey_stored {row : NewsRow} (stored : row ∈ m.storedNews) :
    m.getObjectForKey row.urlNews = some row.accessor := by
  obtain ⟨_ | realm⟩ := m
  · cases stored
  · have found : realm.news.find row.urlNews = some row :=
      Table.find_eq_some_iff.mpr ⟨stored, rfl⟩
    exact congrArg (Option.map _) found

theorem nodup_getNewsForCategory (m : RealmManager) (query : String) :
    (m.getNewsForCategoryInRealm query).Nodup := by
  have keys : ((m.storedNews.filter fun row =>
      decide (row.record.categoryNews = some query)).map NewsRow.urlNews).Nodup :=
    m.nodup_storedNews.sublist (List.filter_sublist.map NewsRow.urlNews)
  rw [m.getNewsForCategoryInRealm_eq]
  apply List.Nodup.of_map Accessor.urlNews
  rw [List.map_map]
  exact keys

theorem mem_getNewsForCategory {query : String} {a : Accessor} :
    a ∈ m.getNewsForCategoryInRealm query ↔ ∃ row ∈ m.storedNews,
      row.record.categoryNews = some query ∧ row.accessor = a := by
  simp only [m.getNewsForCategoryInRealm_eq, List.mem_map, List.mem_filter, decide_eq_true_eq,
    and_assoc]

end Stored

end RealmManager

/-- The article is not an accessor that has lost its row. -/
def NewsObject.Readable (m : RealmManager) (news : NewsObject) : Prop :=
  ∀ a, news = .managed a → m.getObjectForKey news.key = some a

theorem NewsObject.urlNews_eq_some_iff {m : RealmManager} {news : NewsObject}
    {key : Option String} : news.urlNews m = some key ↔ key = news.key ∧ news.Readable m := by
  cases news with
  | unmanaged news =>
    have readable : (NewsObject.unmanaged news).Readable m := nofun
    simp only [urlNews, NewsObject.key, Option.some.injEq, readable, and_true]
    exact eq_comm
  | managed a =>
    have attached : m.realm.any (·.isAttached a) = true ↔ (NewsObject.managed a).Readable m := by
      obtain ⟨_ | realm⟩ := m
      · simp [Readable, RealmManager.getObjectForKey]
      · simp [Readable, RealmManager.getObjectForKey, Realm.isAttached, NewsObject.key]
    rw [← attached, urlNews]
    split
    · rename_i yes
      simp only [Option.some.injEq, NewsObject.key, yes, and_true]
      exact eq_comm
    · rename_i no
      simp [no]

end NewsReader
