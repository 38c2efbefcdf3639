import NewsReader.Bookmarks.Listing

/-!
# Bookmarking again what was just removed

Two taps on the bookmark of a stored article delete it and store what the screen
holds. That is an undo exactly when the screen holds a copy of all that was stored
(`rebookmark_restores_iff`): an accessor of the deleted object stores nothing, and a
copy stores its own fields.
-/

namespace NewsReader

namespace Realm

/-- A stored `News` as its properties read: a linked `Source` by its own fields. -/
def value (realm : Realm) (record : NewsRecord) : News :=
  { record with source := record.source.bind realm.sources.find }

/-- The `News` stored under a key. -/
def read (realm : Realm) (key : Option String) : Option News :=
  (realm.news.find key).map fun row => realm.value row.record

section Read

variable {realm : Realm} {key : Option String}

/-- Storing an article stores its source, so that its link is read back. -/
theorem source_create (realm : Realm) (news : News) :
    (news.source.map (·.name)).bind (realm.create (.unmanaged news)).sources.find =
      news.source := by
  cases linked : news.source with
  | none => rfl
  | some source =>
    simp only [create, linked, Option.map_some, Option.bind_some]
    exact Table.find_upsert_self realm.sources source

/-- What is stored of an article not yet managed is the article. -/
theorem read_create_self (realm : Realm) (news : News) :
    (realm.create (.unmanaged news)).read news.urlNews = some news := by
  let existing := (realm.news.find news.urlNews).map (·.object)
  have found : (realm.create (.unmanaged news)).news.find news.urlNews =
      some ⟨existing.getD realm.nextObject, news.record⟩ :=
    Table.find_upsert_self realm.news ⟨existing.getD realm.nextObject, news.record⟩
  simp only [read, found, Option.map_some, value, News.record, source_create]

theorem read_delete {a : Accessor} (stored : realm.objectForPrimaryKey key = some a) :
    (realm.delete a).read key = none := by
  have gone := object_delete realm a key
  rw [if_pos ⟨isAttached_of_object stored, (objectForPrimaryKey_urlNews stored).symm⟩] at gone
  rw [read, Option.map_eq_none_iff.mp gone]
  rfl

theorem read_isSome {a : Accessor} (stored : realm.objectForPrimaryKey key = some a) :
    (realm.read key).isSome = true := by
  obtain ⟨row, found, -⟩ := Option.map_eq_some_iff.mp stored
  rw [read, found]
  rfl

end Read

end Realm

namespace NewsDetailViewModel

variable {realm : Realm} {news : NewsObject} {a : Accessor}

/-- What the two taps leave under the key of the article: what the screen holds a copy
of, and nothing where it holds an accessor. -/
theorem read_rebookmarked (stored : realm.objectForPrimaryKey news.key = some a) :
    ((realm.delete a).create news).read news.key =
      match news with
      | .unmanaged copy => some copy
      | .managed _ => none := by
  cases news with
  | unmanaged copy => exact Realm.read_create_self (realm.delete a) copy
  | managed accessor => exact Realm.read_delete stored

/-- **Un-bookmark and re-bookmark.** On a stored article both taps succeed, and the
store is as it was under its key exactly when the screen holds an unmanaged copy of
what was stored there. -/
theorem rebookmark_restores_iff {vm : NewsDetailViewModel}
    (outside : realm.isInWriteTransaction = false)
    (opened : getNewsDetailViewModel ⟨some realm⟩ news = some vm)
    (stored : vm.isFavorited = true) :
    ∃ removed restored vm₁ vm₂,
      vm.changeBookMark ⟨some realm⟩ .succeeds = some (⟨some removed⟩, vm₁, [(true, "")]) ∧
      vm₁.changeBookMark ⟨some removed⟩ .succeeds = some (⟨some restored⟩, vm₂, [(true, "")]) ∧
      ((restored.read news.key = realm.read news.key ∧ vm₂.isFavorited = true) ↔
        ∃ copy, news = .unmanaged copy ∧ realm.read copy.urlNews = some copy) := by
  obtain ⟨key, read, found⟩ := Option.bind_eq_some_iff.mp opened
  obtain ⟨rfl, readable⟩ := NewsObject.urlNews_eq_some_iff.mp read
  obtain rfl := Option.some.inj found
  have flag : (⟨some realm⟩ : RealmManager).isRealmContainsObject news.key = true := stored
  obtain ⟨a, object⟩ := Option.isSome_iff_exists.mp flag
  have object : realm.objectForPrimaryKey news.key = some a := object
  rw [flag]
  have after : (realm.delete a).isInWriteTransaction = false := by simpa using outside
  have first := changeBookMark_remove outside readable object .succeeds
  have second := changeBookMark_add after news .succeeds
  rw [Realm.commitWrite_succeeds after] at first
  rw [Realm.commitWrite_succeeds (by simpa using after)] at second
  refine ⟨realm.delete a, (realm.delete a).create news, ⟨news, false⟩, ⟨news, true⟩,
    first, second, ?_⟩
  rw [read_rebookmarked object]
  cases news with
  | unmanaged copy =>
    constructor
    · rintro ⟨same, -⟩
      exact ⟨copy, rfl, same.symm⟩
    · rintro ⟨_, ⟨⟩, same⟩
      exact ⟨same.symm, rfl⟩
  | managed accessor =>
    constructor
    · rintro ⟨same, -⟩
      have there := Realm.read_isSome object
      rw [← same] at there
      cases there
    · rintro ⟨_, ⟨⟩, _⟩

end NewsDetailViewModel

namespace Bookmarks

/-- The store with one article bookmarked from Home. -/
def homeStore : Realm := ({} : Realm).create (.unmanaged homeArticle)

theorem rebookmark_restores_homeArticle :
    ∃ removed restored vm₁ vm₂,
      NewsDetailViewModel.changeBookMark ⟨some homeStore⟩ ⟨.unmanaged homeArticle, true⟩
        .succeeds = some (⟨some removed⟩, vm₁, [(true, "")]) ∧
      vm₁.changeBookMark ⟨some removed⟩ .succeeds = some (⟨some restored⟩, vm₂, [(true, "")]) ∧
      restored.read homeArticle.urlNews = some homeArticle ∧ vm₂.isFavorited = true := by
  have opened : getNewsDetailViewModel ⟨some homeStore⟩ (.unmanaged homeArticle) =
      some ⟨.unmanaged homeArticle, true⟩ := by decide
  obtain ⟨removed, restored, vm₁, vm₂, first, second, same⟩ :=
    NewsDetailViewModel.rebookmark_restores_iff rfl opened rfl
  have kept : homeStore.read homeArticle.urlNews = some homeArticle := by decide
  obtain ⟨read, flag⟩ := same.mpr ⟨homeArticle, rfl, kept⟩
  exact ⟨removed, restored, vm₁, vm₂, first, second, read.trans kept, flag⟩

/-- The article is opened from the Bookmarks list, removed and added again. -/
theorem rebookmark_from_list_loses :
    ¬ ∀ (realm : Realm) (news : NewsObject) (vm : NewsDetailViewModel),
      getNewsDetailViewModel ⟨some realm⟩ news = some vm → vm.isFavorited = true →
      ∀ m₁ vm₁ m₂ vm₂,
        vm.changeBookMark ⟨some realm⟩ .succeeds = some (m₁, vm₁, [(true, "")]) →
        vm₁.changeBookMark m₁ .succeeds = some (m₂, vm₂, [(true, "")]) →
        m₂.realm.bind (·.read news.key) = realm.read news.key ∧ vm₂.isFavorited = true := by
  intro restores
  let listed : NewsObject := .managed ⟨0, homeArticle.urlNews⟩
  have lost := restores homeStore listed ⟨listed, true⟩ (by decide) rfl
    ⟨some (homeStore.delete ⟨0, homeArticle.urlNews⟩)⟩ ⟨listed, false⟩
    ⟨some (homeStore.delete ⟨0, homeArticle.urlNews⟩)⟩ ⟨listed, true⟩ (by decide) (by decide)
  revert lost
  decide

end Bookmarks

end NewsReader
