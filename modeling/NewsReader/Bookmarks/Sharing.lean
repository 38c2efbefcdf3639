import NewsReader.Bookmarks.Undo

/-!
# What bookmarks share

A `Source` is stored once under its name, and every `News` with a source of that name
links to it. Writing one article then rewrites the source seen through the others of
the same name, and touches nothing else of them (`bookmarks_share_sources`).
-/

namespace NewsReader

/-- `other`, once `source` is stored: sources of one name are one record. -/
def Source.after (source other : Source) : Source :=
  if other.name = source.name then source else other

/-- A stored `News`, once another with this source is stored. -/
def News.afterSource (source : Option Source) (news : News) : News :=
  match source with
  | none => news
  | some source => { news with source := news.source.map source.after }

/-- The source a `News` brings into the store: none with a managed one. -/
def NewsObject.newSource : NewsObject → Option Source
  | .unmanaged news => news.source
  | .managed _ => none

namespace Source

@[simp] theorem after_name (source other : Source) : (source.after other).name = other.name := by
  by_cases same : other.name = source.name
  · simp [after, same]
  · simp [after, same]

theorem after_eq_iff {source other : Source} :
    source.after other = other ↔ (other.name = source.name → other.id = source.id) := by
  obtain ⟨id, name⟩ := source
  obtain ⟨id', name'⟩ := other
  simp only [after, ite_eq_right_iff, Source.mk.injEq]
  constructor
  · intro kept same
    exact (kept same).1.symm
  · intro kept same
    exact ⟨(kept same).symm, same.symm⟩

end Source

theorem News.afterSource_eq_iff {source : Option Source} {news : News} :
    news.afterSource source = news ↔ ∀ new ∈ source, ∀ old ∈ news.source,
      old.name = new.name → old.id = new.id := by
  obtain ⟨linked, _, _, _, _, _, _, _, _⟩ := news
  cases source with
  | none => simp [afterSource]
  | some new => cases linked <;> simp [afterSource, Source.after_eq_iff]

namespace Realm

/-- Every link of a stored `News` leads to a stored `Source`. -/
def Linked (realm : Realm) : Prop :=
  ∀ row ∈ realm.news.rows, ∀ name ∈ row.record.source, (realm.sources.find name).isSome = true

section

variable {realm : Realm} {key : Option String}

theorem linked_empty : ({} : Realm).Linked := by
  intro row mem
  cases mem

/-- What is found under a name, once an article is stored. -/
theorem sources_create (realm : Realm) (news : News) (name : Option String) :
    (realm.create (.unmanaged news)).sources.find name =
      if name ∈ news.source.map (·.name) then news.source else realm.sources.find name := by
  cases linked : news.source with
  | none => simp [create, linked]
  | some source =>
    simp only [create, linked, Option.map_some, Option.mem_some_iff]
    by_cases same : source.name = name
    · subst same
      rw [if_pos rfl]
      exact Table.find_upsert_self realm.sources source
    · rw [if_neg same]
      exact Table.find_upsert_ne fun back => same back.symm

theorem Linked.create (h : realm.Linked) (object : NewsObject) : (realm.create object).Linked := by
  cases object with
  | managed a => exact h
  | unmanaged news =>
    intro row mem name link
    rw [sources_create]
    by_cases stored : name ∈ news.source.map (·.name)
    · rw [if_pos stored]
      exact Option.isSome_map ▸ Option.isSome_of_mem stored
    · rw [if_neg stored]
      rcases Table.mem_upsert.mp mem with rfl | ⟨old, -⟩
      · exact absurd link stored
      · exact h row old name link

theorem Linked.delete (h : realm.Linked) (a : Accessor) : (realm.delete a).Linked := by
  unfold Realm.delete
  split
  · intro row mem name link
    exact h row (Table.mem_erase.mp mem).1 name link
  · exact h

/-- A link to a stored `Source`, once an article is stored. -/
theorem link_create {name : Option String} (stored : (realm.sources.find name).isSome = true)
    {news : News} {source : Source} (brings : news.source = some source) :
    (realm.create (.unmanaged news)).sources.find name =
      (realm.sources.find name).map source.after := by
  obtain ⟨old, found⟩ := Option.isSome_iff_exists.mp stored
  have named : old.name = name := (Table.find_eq_some_iff.mp found).2
  rw [sources_create, found, brings]
  by_cases same : source.name = name
  · simp [Source.after, same, named]
  · have other : old.name ≠ source.name := fun back => same (back.symm.trans named)
    simp [Source.after, same, other]

/-- Another article, read through its link. -/
theorem read_create_ne (linked : realm.Linked) {news : News} (ne : key ≠ news.urlNews) :
    (realm.create (.unmanaged news)).read key =
      (realm.read key).map (·.afterSource news.source) := by
  have row : (realm.create (.unmanaged news)).news.find key = realm.news.find key :=
    Table.find_upsert_ne ne
  rw [read, read, row, Option.map_map]
  cases found : realm.news.find key with
  | none => rfl
  | some row =>
    have stored := (Table.find_eq_some_iff.mp found).1
    cases brings : news.source with
    | none => simp [value, News.afterSource, create, brings]
    | some source =>
      cases link : row.record.source with
      | none => simp [value, News.afterSource, link]
      | some name =>
        have known := linked row stored name link
        simp [value, News.afterSource, link, link_create known brings]

theorem read_delete_ne {a : Accessor} (ne : key ≠ a.urlNews) :
    (realm.delete a).read key = realm.read key := by
  unfold Realm.delete
  split
  · rw [read, read]
    exact congrArg (Option.map _) (Table.find_erase_ne ne)
  · rfl

end

end Realm

namespace RealmManager

/-- The `News` stored under a key, all its properties read. -/
def read (m : RealmManager) (key : Option String) : Option News :=
  m.realm.bind (·.read key)

/-- The links of the store lead somewhere. -/
def Linked (m : RealmManager) : Prop := ∀ realm ∈ m.realm, realm.Linked

section

variable {m m' : RealmManager} {key : Option String} {commit : Commit} {completions : Completions}

theorem read_addObject_ne (linked : m.Linked) {object : NewsObject} (ne : key ≠ object.key)
    (wrote : m.addObject object commit = some (m', completions)) :
    m'.read key = (m.read key).map (·.afterSource object.newSource) := by
  obtain ⟨none, rfl, -⟩ | ⟨realm, opened, -, rfl, -⟩ := write_some wrote
  · simp [read, none]
  · obtain ⟨_⟩ := m
    obtain rfl : _ = some realm := opened
    cases object with
    | unmanaged news => exact Realm.read_create_ne (linked realm rfl) ne
    | managed a => exact Option.map_id_fun.symm ▸ rfl

theorem read_deleteObject_ne {k : Option String} (ne : key ≠ k)
    (wrote : m.deleteObject k commit = some (m', completions)) : m'.read key = m.read key := by
  obtain ⟨-, rfl, -⟩ | ⟨realm, opened, -, rfl, -⟩ := deleteObject_some wrote
  · rfl
  · obtain ⟨_⟩ := m
    obtain rfl : _ = some realm := opened
    cases found : realm.objectForPrimaryKey k with
    | none =>
      rw [Realm.deleteKey, found]
      rfl
    | some a =>
      have other : key ≠ a.urlNews := Realm.objectForPrimaryKey_urlNews found ▸ ne
      rw [Realm.deleteKey, found]
      exact Realm.read_delete_ne other

/-- **Bookmarking one article** changes of the others the id of the source they share
with it by name, and nothing else; they are as before exactly when that id is the same.
Removing its bookmark changes nothing of the others. Either way it is so from then on in
the process, whatever becomes of the commit, and both go through unless a write is open. -/
theorem bookmarks_share_sources (linked : m.Linked) (object : NewsObject)
    (ne : key ≠ object.key) (commit : Commit) :
    (∀ m' completions, m.addObject object commit = some (m', completions) →
      m'.read key = (m.read key).map (·.afterSource object.newSource) ∧
      (m'.read key = m.read key ↔
        ∀ news ∈ m.read key, ∀ new ∈ object.newSource, ∀ old ∈ news.source,
          old.name = new.name → old.id = new.id)) ∧
    (∀ m' completions, m.deleteObject object.key commit = some (m', completions) →
      m'.read key = m.read key) ∧
    (m.isInWriteTransaction = false →
      (m.addObject object commit).isSome ∧ (m.deleteObject object.key commit).isSome) := by
  refine ⟨?_, ?_, ?_⟩
  · intro m' completions wrote
    have added := read_addObject_ne linked ne wrote
    refine ⟨added, ?_⟩
    rw [added]
    cases m.read key with
    | none => simp
    | some news => simp [News.afterSource_eq_iff]
  · intro m' completions wrote
    exact read_deleteObject_ne ne wrote
  · intro outside
    exact ⟨addObject_isSome_iff.mpr outside, deleteObject_isSome_iff.mpr outside⟩

end

end RealmManager

namespace Bookmarks

section

variable {s t : Bookmarks} {e : BookmarkEvent}

theorem linked_handle (linked : s.manager.Linked) (stepped : s.handle e = some t) :
    t.manager.Linked := by
  obtain ⟨realm, news, commit, opened, -, stored⟩ | ⟨-, same | ⟨realm, accessors, commit, opened,
    deleted⟩⟩ := handle_store stepped
  · rw [stored]
    rintro _ ⟨⟩
    exact (linked realm opened).create (.unmanaged news)
  · rw [same]
    exact linked
  · have kept : (accessors.foldl Realm.delete realm).Linked := by
      have before := linked realm opened
      clear deleted opened
      induction accessors generalizing realm with
      | nil => exact before
      | cons a accessors ih => exact ih (realm.delete a) (before.delete a)
    rw [deleted]
    rintro _ ⟨⟩
    exact kept

/-- No run breaks a link. -/
theorem linked_of_reachable
    (h : machine.Reachable (fun s => Launched s ∧ s.manager.Linked) s) : s.manager.Linked :=
  h.invariant (fun s => s.manager.Linked) (fun _ launched => launched.2)
    fun _ _ _ _ linked _ stepped => linked_handle linked stepped

end

theorem emptyStore_linked : Launched emptyStore ∧ emptyStore.manager.Linked := by
  refine ⟨emptyStore_launched, ?_⟩
  rintro _ ⟨⟩
  exact Realm.linked_empty

/-- Two articles of one source, as two requests brought them. -/
def marsNews : News :=
  { source := some ⟨some "cnn", some "CNN"⟩, urlNews := some "https://a.example/mars" }

def venusNews : News :=
  { source := some ⟨none, some "CNN"⟩, urlNews := some "https://a.example/venus" }

/-- The first of them is bookmarked where Search shows it. -/
def marsBookmarked : Bookmarks :=
  (machine.run emptyStore
    [.openFromSearch marsNews, .changeBookMark 0 .succeeds]).getD emptyStore

theorem marsBookmarked_linked : marsBookmarked.manager.Linked :=
  linked_of_reachable (Machine.reachable_getD _ emptyStore_linked (by decide))

theorem bookmarks_share_sources_cnn :
    ∃ m completions, marsBookmarked.manager.addObject (.unmanaged venusNews) .succeeds =
        some (m, completions) ∧
      m.read marsNews.urlNews = some { marsNews with source := some ⟨none, some "CNN"⟩ } := by
  have ne : marsNews.urlNews ≠ (NewsObject.unmanaged venusNews).key := by decide
  obtain ⟨added, -, writes⟩ := RealmManager.bookmarks_share_sources marsBookmarked_linked
    (.unmanaged venusNews) ne .succeeds
  obtain ⟨⟨m, completions⟩, wrote⟩ := Option.isSome_iff_exists.mp (writes (by decide)).1
  obtain ⟨read, -⟩ := added m completions wrote
  refine ⟨m, completions, wrote, read.trans ?_⟩
  decide

theorem other_bookmark_rewritten :
    ¬ ∀ (m : RealmManager) (object : NewsObject) (key : Option String), m.Linked →
      key ≠ object.key → ∀ m' completions,
        m.addObject object .succeeds = some (m', completions) → m'.read key = m.read key := by
  intro unchanged
  let realm : Realm := ({} : Realm).create (.unmanaged marsNews)
  have same := unchanged marsBookmarked.manager (.unmanaged venusNews) marsNews.urlNews
    marsBookmarked_linked (by decide) ⟨some (realm.create (.unmanaged venusNews))⟩ [(true, "")]
    (by decide)
  revert same
  decide

end Bookmarks

end NewsReader
