import NewsReader.Bookmarks.BulkDelete
import NewsReader.Bookmarks.Sharing
import NewsReader.Replay

/-!
# What the screens write

A tap writes what its screen shows, and a deletion the keys its list looks up. Told by
these writes alone, the store is read to hold under a url the article that was put there
last, with its source as it was put last with any article (`toldBy_handle`, `ToldBy.read`).
The bookmark buttons and the lists are filled from it (`ToldBy.contains`, `ToldBy.listed`).
A write whose commit throws is read like any other.
-/

namespace NewsReader

/-- An article brings its source into the store, under the name of it. -/
def Write.source :
    Write (Option String) News → Option (Write (Option String) Source)
  | .put _ news => news.source.map fun source => .put source.name source
  | .remove _ => none

/-- The bookmark under a url after the writes. -/
def bookmark (writes : List (Write (Option String) News)) (key : Option String) : Option News :=
  (replay writes key).map fun news =>
    { news with source :=
        news.source.bind fun source => replay (writes.filterMap Write.source) source.name }

namespace NewsDetailViewModel

/-- A tap on a filled button removes, and on an empty one stores an article that is not
managed. -/
def write (vm : NewsDetailViewModel) : Option (Write (Option String) News) :=
  if vm.isFavorited then some (.remove [vm.news.key])
  else match vm.news with
    | .unmanaged news => some (.put news.urlNews news)
    | .managed _ => none

end NewsDetailViewModel

namespace FavoritesDetailViewModel

/-- The button of a row. -/
def writeNews (vm : FavoritesDetailViewModel) (row : Nat) :
    Option (Write (Option String) News) :=
  vm.articles[row]?.map fun a => .remove [a.urlNews]

/-- The button below the list. -/
def writeArticles (vm : FavoritesDetailViewModel) (rows : List Nat) :
    Option (Write (Option String) News) :=
  (rows.mapM fun row => vm.articles[row]?).map fun articles => .remove (articles.map bulkKey)

end FavoritesDetailViewModel

/-- What an event writes where the store is open, committed or not. -/
def Bookmarks.write (s : Bookmarks) : BookmarkEvent → Option (Write (Option String) News)
  | .changeBookMark detail _ => s.newsDetails[detail]?.bind (·.write)
  | .deleteNews list row _ => s.favoritesDetails[list]?.bind (·.writeNews row)
  | .deleteArticles list rows _ => s.favoritesDetails[list]?.bind (·.writeArticles rows)
  | _ => none

namespace Realm

/-- The writes tell what the store is read to hold: its articles, and its sources, of which
none is ever removed. -/
structure ToldBy (realm : Realm) (writes : List (Write (Option String) News)) : Prop where
  news : ∀ key, (realm.news.find key).map (·.record) = (replay writes key).map News.record
  sources : ∀ name, realm.sources.find name = replay (writes.filterMap Write.source) name

section

variable {realm : Realm} {writes : List (Write (Option String) News)} {key : Option String}

theorem toldBy_empty : ({} : Realm).ToldBy [] := ⟨fun _ => rfl, fun _ => rfl⟩

/-- What the store reads back is the bookmark that the writes leave. -/
theorem ToldBy.read (h : realm.ToldBy writes) (key : Option String) :
    realm.read key = bookmark writes key := by
  have value : realm.read key = ((realm.news.find key).map (·.record)).map realm.value := by
    rw [Option.map_map]
    rfl
  rw [value, h.news, Option.map_map, bookmark]
  congr 1
  funext news
  cases brings : news.source with
  | none => simp [Realm.value, News.record, brings]
  | some source => simp [Realm.value, News.record, brings, h.sources]

/-- A screen that is opened now shows a filled button where a bookmark is left. -/
theorem ToldBy.contains (h : realm.ToldBy writes) (key : Option String) :
    (⟨some realm⟩ : RealmManager).isRealmContainsObject key = (bookmark writes key).isSome := by
  rw [← h.read, Realm.read, Option.isSome_map]
  exact Option.isSome_map

/-- A list that is fetched now has the bookmarks with its tag. -/
theorem ToldBy.listed (h : realm.ToldBy writes) (query : String) (key : Option String) :
    (∃ a ∈ RealmManager.getNewsForCategoryInRealm ⟨some realm⟩ query, a.urlNews = key) ↔
      ∃ news ∈ bookmark writes key, news.categoryNews = some query := by
  rw [← h.read]
  constructor
  · rintro ⟨a, mem, rfl⟩
    obtain ⟨row, stored, tagged, rfl⟩ := RealmManager.mem_getNewsForCategory.mp mem
    have found : realm.news.find row.urlNews = some row :=
      Table.find_eq_some_iff.mpr ⟨stored, rfl⟩
    exact ⟨realm.value row.record, congrArg (Option.map _) found, tagged⟩
  · rintro ⟨news, stored, tagged⟩
    obtain ⟨row, found, rfl⟩ := Option.map_eq_some_iff.mp stored
    obtain ⟨mem, has⟩ := Table.find_eq_some_iff.mp found
    exact ⟨row.accessor, RealmManager.mem_getNewsForCategory.mpr ⟨row, mem, tagged, rfl⟩, has⟩

theorem find_create (realm : Realm) (news : News) (key : Option String) :
    ((realm.create (.unmanaged news)).news.find key).map (·.record) =
      if key = news.urlNews then some news.record else (realm.news.find key).map (·.record) := by
  by_cases same : key = news.urlNews
  · rw [if_pos same, same]
    exact congrArg (Option.map _) (Table.find_upsert_self realm.news ⟨_, news.record⟩)
  · rw [if_neg same]
    exact congrArg (Option.map _) (Table.find_upsert_ne same)

theorem ToldBy.create (h : realm.ToldBy writes) (news : News) :
    (realm.create (.unmanaged news)).ToldBy (writes ++ [.put news.urlNews news]) := by
  constructor
  · intro key
    rw [find_create, replay_put, h.news]
    split
    · rfl
    · rfl
  · intro name
    rw [sources_create, List.filterMap_append]
    cases brings : news.source with
    | none => simp [Write.source, brings, h.sources]
    | some source =>
      have put : [Write.put news.urlNews news].filterMap Write.source =
          [.put source.name source] := by simp [Write.source, brings]
      rw [put, replay_put, h.sources]
      simp [eq_comm]

/-- Deletions leave the rows of the other keys, and every source. -/
theorem deleteKeys_rows (realm : Realm) (keys : List (Option String)) :
    (∀ row ∈ (realm.deleteKeys keys).news.rows, row ∈ realm.news.rows) ∧
    (realm.deleteKeys keys).sources = realm.sources := by
  unfold deleteKeys
  generalize keys.filterMap realm.objectForPrimaryKey = accessors
  induction accessors generalizing realm with
  | nil => exact ⟨fun _ mem => mem, rfl⟩
  | cons a accessors ih =>
    obtain ⟨rows, sources⟩ := ih (realm.delete a)
    have first : (∀ row ∈ (realm.delete a).news.rows, row ∈ realm.news.rows) ∧
        (realm.delete a).sources = realm.sources := by
      unfold delete
      split
      · exact ⟨fun row mem => (Table.mem_erase.mp mem).1, rfl⟩
      · exact ⟨fun _ mem => mem, rfl⟩
    exact ⟨fun row mem => first.1 row (rows row mem), sources.trans first.2⟩

theorem find_deleteKeys (realm : Realm) (keys : List (Option String)) (key : Option String) :
    (realm.deleteKeys keys).news.find key = if key ∈ keys then none else realm.news.find key := by
  have object := object_deleteKeys realm keys key
  by_cases deleted : key ∈ keys
  · rw [if_pos deleted] at object ⊢
    exact Option.map_eq_none_iff.mp object
  · rw [if_neg deleted] at object ⊢
    cases found : (realm.deleteKeys keys).news.find key with
    | none =>
      have gone : realm.objectForPrimaryKey key = none := by
        rw [← object]
        exact Option.map_eq_none_iff.mpr found
      exact (Option.map_eq_none_iff.mp gone).symm
    | some row =>
      obtain ⟨mem, has⟩ := Table.find_eq_some_iff.mp found
      exact (Table.find_eq_some_iff.mpr ⟨(realm.deleteKeys_rows keys).1 row mem, has⟩).symm

theorem ToldBy.deleteKeys (h : realm.ToldBy writes) (keys : List (Option String)) :
    (realm.deleteKeys keys).ToldBy (writes ++ [.remove keys]) := by
  constructor
  · intro key
    rw [find_deleteKeys, replay_remove]
    split
    · rfl
    · exact h.news key
  · intro name
    have none : [Write.remove keys].filterMap Write.source = [] := rfl
    rw [(realm.deleteKeys_rows keys).2, h.sources, List.filterMap_append, none, List.append_nil]

theorem deleteKeys_singleton (realm : Realm) (key : Option String) :
    realm.deleteKeys [key] = realm.deleteKey key := by
  cases found : realm.objectForPrimaryKey key with
  | none => simp [Realm.deleteKeys, deleteKey, found]
  | some a => simp [Realm.deleteKeys, deleteKey, found]

theorem ToldBy.deleteKey (h : realm.ToldBy writes) (key : Option String) :
    (realm.deleteKey key).ToldBy (writes ++ [.remove [key]]) :=
  realm.deleteKeys_singleton key ▸ h.deleteKeys [key]

/-- The commit decides what is on disk, and nothing is read from there. -/
theorem ToldBy.commitWrite (h : realm.ToldBy writes) (commit : Commit) :
    (realm.commitWrite commit).ToldBy writes := ⟨h.news, h.sources⟩

end

end Realm

namespace Bookmarks

section

variable {s t : Bookmarks} {e : BookmarkEvent} {realm : Realm}
  {writes : List (Write (Option String) News)}

/-- A store that could not be opened stays as it is. -/
theorem manager_of_closed (closed : s.manager.realm = none) (stepped : s.handle e = some t) :
    t.manager = s.manager := by
  obtain ⟨-, same⟩ | ⟨_, _, _, -, wrote⟩ := handle_manager stepped
  · exact same
  · obtain ⟨-, same, -⟩ | ⟨_, opened, -⟩ := RealmManager.write_some wrote
    · exact same
    · cases closed.symm.trans opened

theorem toldBy_tapped {vm vm' : NewsDetailViewModel} {m : RealmManager} {commit : Commit}
    {completions : Completions} (told : realm.ToldBy writes)
    (tapped : vm.changeBookMark ⟨some realm⟩ commit = some (m, vm', completions)) :
    ∃ realm', m = ⟨some realm'⟩ ∧ realm'.ToldBy (writes ++ vm.write.toList) := by
  obtain ⟨news, isFavorited⟩ := vm
  cases isFavorited with
  | true =>
    obtain ⟨key, read, tapped⟩ := Option.bind_eq_some_iff.mp tapped
    obtain ⟨⟨_, _⟩, wrote, same⟩ := Option.bind_eq_some_iff.mp tapped
    obtain ⟨rfl, -⟩ := Prod.mk.inj (Option.some.inj same)
    obtain ⟨rfl, -⟩ := NewsObject.urlNews_eq_some_iff.mp read
    obtain ⟨closed, -⟩ | ⟨_, opened, -, rfl, -⟩ := RealmManager.deleteObject_some wrote
    · cases closed
    · obtain rfl := Option.some.inj opened
      exact ⟨_, rfl, (told.deleteKey news.key).commitWrite commit⟩
  | false =>
    obtain ⟨⟨_, _⟩, wrote, same⟩ := Option.bind_eq_some_iff.mp tapped
    obtain ⟨rfl, -⟩ := Prod.mk.inj (Option.some.inj same)
    obtain ⟨closed, -⟩ | ⟨_, opened, -, rfl, -⟩ := RealmManager.write_some wrote
    · cases closed
    · obtain rfl := Option.some.inj opened
      refine ⟨_, rfl, Realm.ToldBy.commitWrite ?_ commit⟩
      cases news with
      | unmanaged news => exact told.create news
      | managed a =>
        have nothing : writes ++ (NewsDetailViewModel.write ⟨.managed a, false⟩).toList =
            writes := List.append_nil _
        rw [nothing]
        exact told

/-- **One event** of the screens leaves the store told by the writes before it and its own. -/
theorem toldBy_handle (opened : s.manager.realm = some realm) (told : realm.ToldBy writes)
    (stepped : s.handle e = some t) :
    ∃ realm', t.manager.realm = some realm' ∧ realm'.ToldBy (writes ++ (s.write e).toList) := by
  have kept (same : t.manager = s.manager) (none : s.write e = none) :
      ∃ realm', t.manager.realm = some realm' ∧
        realm'.ToldBy (writes ++ (s.write e).toList) := by
    refine ⟨realm, same ▸ opened, ?_⟩
    rw [none, Option.toList_none, List.append_nil]
    exact told
  have manager : s.manager = ⟨some realm⟩ := by rw [← opened]
  cases e with
  | openFromHome news | openFromSearch news =>
    obtain ⟨_, -, rfl⟩ := openNews_some stepped
    exact kept rfl rfl
  | openBookmark list row =>
    obtain ⟨a, stepped⟩ := openBookmark_some stepped
    obtain ⟨_, -, rfl⟩ := openNews_some stepped
    exact kept rfl rfl
  | changeBookMark detail commit =>
    obtain ⟨vm, m, vm', completions, found, tapped, rfl⟩ := changeBookMark_some stepped
    rw [manager] at tapped
    obtain ⟨realm', rfl, after⟩ := toldBy_tapped told tapped
    refine ⟨realm', rfl, ?_⟩
    rw [write, found, Option.bind_some]
    exact after
  | deleteNews list row commit =>
    obtain ⟨vm, a, completions, found, shown, wrote, -⟩ := deleteNews_some stepped
    have is : s.write (.deleteNews list row commit) = some (.remove [a.urlNews]) := by
      simp [write, found, FavoritesDetailViewModel.writeNews, shown]
    obtain ⟨closed, -⟩ | ⟨_, here, -, after, -⟩ := RealmManager.deleteObject_some wrote
    · cases closed.symm.trans opened
    · obtain rfl := Option.some.inj (here.symm.trans opened)
      rw [after, is]
      exact ⟨_, rfl, (told.deleteKey a.urlNews).commitWrite commit⟩
  | deleteArticles list rows commit =>
    obtain ⟨vm, articles, completions, found, selected, wrote, -⟩ := deleteArticles_some stepped
    have is : s.write (.deleteArticles list rows commit) =
        some (.remove (articles.map FavoritesDetailViewModel.bulkKey)) := by
      simp [write, found, FavoritesDetailViewModel.writeArticles, selected]
    obtain ⟨closed, -⟩ | ⟨_, here, -, after, -⟩ := RealmManager.deleteObjects_some wrote
    · cases closed.symm.trans opened
    · obtain rfl := Option.some.inj (here.symm.trans opened)
      have after' := told.deleteKeys (articles.map FavoritesDetailViewModel.bulkKey)
      rw [after, is]
      exact ⟨_, rfl, after'.commitWrite commit⟩
  | notify list =>
    obtain ⟨_, -, rfl⟩ := notify_some stepped
    exact kept rfl rfl
  | openCategory category =>
    obtain ⟨-, rfl⟩ := openCategory_some stepped
    exact kept rfl rfl
  | closeDetail | closeList =>
    obtain rfl := Option.some.inj stepped
    exact kept rfl rfl

end

end Bookmarks

end NewsReader
