import NewsReader.Bookmarks.Reports
import NewsReader.Selection

/-!
# Deleting the selected rows at once

Deleting the selected rows at once and deleting them one by one from the last row up
leave the same list. They leave the same records as long as every selected article has a
url: the first looks an article without one up under "No url"
(`bulk_delete_eq_single_iff`). The records left need not be in the same order, as each
deletion moves the last one.
-/

namespace NewsReader

namespace Realm

variable {realm : Realm} {a b : Accessor}

/-- Deleting an article attaches none. -/
theorem isAttached_delete (realm : Realm) (a b : Accessor) :
    (realm.delete a).isAttached b = true ↔
      realm.isAttached b = true ∧ (realm.isAttached a = true → b.urlNews ≠ a.urlNews) := by
  simp only [isAttached, decide_eq_true_eq, object_delete]
  by_cases gone : realm.objectForPrimaryKey a.urlNews = some a ∧ b.urlNews = a.urlNews
  · simp [gone]
  · rw [if_neg gone]
    constructor
    · intro attached
      exact ⟨attached, fun here same => gone ⟨here, same⟩⟩
    · exact fun both => both.1

theorem delete_of_attached (h : realm.isAttached a = true) :
    realm.delete a = { realm with news := realm.news.erase a.urlNews } := if_pos h

theorem delete_of_detached (h : ¬ realm.isAttached a = true) : realm.delete a = realm := if_neg h

/-- Two attached accessors of one key are the same. -/
theorem eq_of_isAttached (ha : realm.isAttached a = true) (hb : realm.isAttached b = true)
    (same : a.urlNews = b.urlNews) : a = b := by
  simp only [isAttached, decide_eq_true_eq] at ha hb
  rw [same] at ha
  exact Option.some.inj (ha.symm.trans hb)

/-- An article that is not attached stays so when another is deleted first. -/
theorem delete_delete_of_detached (h : ¬ realm.isAttached a = true) (b : Accessor) :
    (realm.delete b).delete a = realm.delete b := by
  apply delete_of_detached
  intro attached
  exact h ((isAttached_delete realm b a).mp attached).1

/-- The same records, in whatever order. -/
structure SameRecords (realm other : Realm) : Prop where
  news : realm.news.rows.Perm other.news.rows
  sources : realm.sources = other.sources
  nextObject : realm.nextObject = other.nextObject
  isInWriteTransaction : realm.isInWriteTransaction = other.isInWriteTransaction

namespace SameRecords

variable {other third : Realm}

theorem refl (realm : Realm) : realm.SameRecords realm := ⟨List.Perm.refl _, rfl, rfl, rfl⟩

theorem trans (h : realm.SameRecords other) (h' : other.SameRecords third) :
    realm.SameRecords third where
  news := h.news.trans h'.news
  sources := h.sources.trans h'.sources
  nextObject := h.nextObject.trans h'.nextObject
  isInWriteTransaction := h.isInWriteTransaction.trans h'.isInWriteTransaction

/-- They are looked up alike. -/
theorem object (h : realm.SameRecords other) :
    realm.objectForPrimaryKey = other.objectForPrimaryKey := by
  funext key
  exact congrArg (Option.map _) (Table.find_perm h.news key)

theorem isAttached (h : realm.SameRecords other) (a : Accessor) :
    realm.isAttached a = other.isAttached a := by
  rw [Realm.isAttached, Realm.isAttached, h.object]

theorem delete (h : realm.SameRecords other) (a : Accessor) :
    (realm.delete a).SameRecords (other.delete a) := by
  by_cases attached : realm.isAttached a = true
  · rw [delete_of_attached attached, delete_of_attached (h.isAttached a ▸ attached)]
    exact ⟨Table.erase_congr h.news a.urlNews, h.sources, h.nextObject, h.isInWriteTransaction⟩
  · rw [delete_of_detached attached, delete_of_detached (h.isAttached a ▸ attached)]
    exact h

theorem deleteAll (h : realm.SameRecords other) (articles : List Accessor) :
    (articles.foldl Realm.delete realm).SameRecords (articles.foldl Realm.delete other) := by
  induction articles generalizing realm other with
  | nil => exact h
  | cons a articles ih => exact ih (h.delete a)

end SameRecords

theorem delete_comm (realm : Realm) (a b : Accessor) :
    ((realm.delete a).delete b).SameRecords ((realm.delete b).delete a) := by
  by_cases ha : realm.isAttached a = true
  · by_cases hb : realm.isAttached b = true
    · by_cases same : a.urlNews = b.urlNews
      · rw [eq_of_isAttached ha hb same]
        exact SameRecords.refl _
      · have ha' : (realm.delete b).isAttached a = true :=
          (isAttached_delete realm b a).mpr ⟨ha, fun _ => same⟩
        have hb' : (realm.delete a).isAttached b = true :=
          (isAttached_delete realm a b).mpr ⟨hb, fun _ => Ne.symm same⟩
        rw [delete_of_attached hb', delete_of_attached ha', delete_of_attached ha,
          delete_of_attached hb]
        exact ⟨Table.erase_comm realm.news a.urlNews b.urlNews, rfl, rfl, rfl⟩
    · rw [delete_of_detached hb, delete_delete_of_detached hb]
      exact SameRecords.refl _
  · rw [delete_of_detached ha, delete_delete_of_detached ha]
    exact SameRecords.refl _

/-- The order of the deletions does not matter to the records left. -/
theorem foldl_delete_perm {as bs : List Accessor} (h : as.Perm bs) (realm : Realm) :
    (as.foldl delete realm).SameRecords (bs.foldl delete realm) := by
  induction h generalizing realm with
  | nil => exact SameRecords.refl realm
  | cons a _ ih => exact ih (realm.delete a)
  | swap a b as => exact (delete_comm realm b a).deleteAll as
  | trans _ _ ih ih' => exact (ih realm).trans (ih' realm)

/-- Deleting attached articles is deleting the objects of their keys. -/
theorem deleteKeys_urlNews {articles : List Accessor}
    (attached : ∀ a ∈ articles, realm.isAttached a = true) :
    realm.deleteKeys (articles.map (·.urlNews)) = articles.foldl delete realm := by
  have found : (articles.map (·.urlNews)).filterMap realm.objectForPrimaryKey = articles := by
    induction articles with
    | nil => rfl
    | cons a articles ih =>
      obtain ⟨here, attached⟩ := List.forall_mem_cons.mp attached
      simp only [isAttached, decide_eq_true_eq] at here
      rw [List.map_cons, List.filterMap_cons_some here, ih attached]
  rw [deleteKeys, found]

end Realm

namespace FavoritesDetailViewModel

/-- The rows deleted one by one, each commit going through. -/
def removeRows (m : RealmManager) (vm : FavoritesDetailViewModel) :
    List Nat → Option (RealmManager × FavoritesDetailViewModel)
  | [] => some (m, vm)
  | row :: rows => do
    let (m, vm, _) ← vm.removeNewsInFavorites m row .succeeds
    removeRows m vm rows

/-- Every article of the list is a stored one. -/
def Shows (vm : FavoritesDetailViewModel) (realm : Realm) : Prop :=
  vm.articles.Nodup ∧ ∀ a ∈ vm.articles, realm.isAttached a = true

section

variable {realm : Realm} {vm : FavoritesDetailViewModel} {a : Accessor} {row : Nat}
  {rows : List Nat}

/-- Deleting one row of a list of stored articles. -/
theorem removeNews_succeeds (outside : realm.isInWriteTransaction = false)
    (shows : vm.Shows realm) (found : vm.articles[row]? = some a) :
    vm.removeNewsInFavorites ⟨some realm⟩ row .succeeds =
      some (⟨some (realm.delete a)⟩, { vm with articles := vm.articles.eraseIdx row },
        [(true, "")]) := by
  have attached := shows.2 a (List.mem_of_getElem? found)
  have stored : realm.objectForPrimaryKey a.urlNews = some a := of_decide_eq_true attached
  have read : (NewsObject.managed a).urlNews ⟨some realm⟩ = some a.urlNews := by
    simp [NewsObject.urlNews, attached]
  have after : (realm.delete a).isInWriteTransaction = false := by simpa using outside
  simp [removeNewsInFavorites, found, read, RealmManager.deleteObject_of_object outside stored,
    Realm.commitWrite_succeeds after, Commit.completions]

theorem Shows.removeNews (shows : vm.Shows realm) (found : vm.articles[row]? = some a) :
    Shows { vm with articles := vm.articles.eraseIdx row } (realm.delete a) := by
  obtain ⟨distinct, attached⟩ := shows
  constructor
  · exact distinct.eraseIdx row
  · intro b mem
    rw [eraseIdx_eq_erase distinct found, distinct.mem_erase_iff] at mem
    obtain ⟨ne, mem⟩ := mem
    rw [Realm.isAttached_delete]
    constructor
    · exact attached b mem
    · intro here same
      exact ne (Realm.eq_of_isAttached (attached b mem) here same)

/-- The rows from the last one up, by induction on those still to go. -/
theorem removeRows_eq (outside : realm.isInWriteTransaction = false) (shows : vm.Shows realm)
    (inside : ∀ row ∈ rows, row < vm.articles.length)
    (descending : rows.Pairwise (· > ·)) :
    vm.removeRows ⟨some realm⟩ rows =
      some (⟨some ((select vm.articles rows).foldl Realm.delete realm)⟩,
        { vm with articles := rows.foldl List.eraseIdx vm.articles }) := by
  induction rows generalizing realm vm with
  | nil => rfl
  | cons row rows ih =>
    obtain ⟨before, descending⟩ := List.pairwise_cons.mp descending
    obtain ⟨bound, inside⟩ := List.forall_mem_cons.mp inside
    have found : vm.articles[row]? = some vm.articles[row] := List.getElem?_eq_getElem bound
    have shorter : ∀ r ∈ rows, r < (vm.articles.eraseIdx row).length := by
      intro r mem
      have := before r mem
      rw [List.length_eraseIdx_of_lt bound]
      omega
    simp only [removeRows, removeNews_succeeds outside shows found, Option.bind_eq_bind,
      Option.bind_some]
    rw [ih (by simpa using outside) (shows.removeNews found) shorter descending,
      select_eraseIdx before,
      select_cons found]
    rfl

/-- The key the articles deleted at once are looked up under. -/
def bulkKey (a : Accessor) : Option String := some (a.urlNews.getD "No url")

theorem removeArticles_shown (outside : realm.isInWriteTransaction = false)
    (shows : vm.Shows realm) {articles : List Accessor}
    (listed : ∀ a ∈ articles, a ∈ vm.articles) (nonempty : articles ≠ []) :
    vm.removeArticlesInFavorites ⟨some realm⟩ articles .succeeds =
      some (⟨some (realm.deleteKeys (articles.map bulkKey))⟩,
        { vm with articles := articles.foldl List.erase vm.articles }, [(true, "")]) := by
  have readable : ∀ a ∈ articles, (NewsObject.managed a).Readable ⟨some realm⟩ := by
    rintro a mem _ ⟨⟩
    exact of_decide_eq_true (shows.2 a (listed a mem))
  have after : (realm.deleteKeys (articles.map bulkKey)).isInWriteTransaction = false := by
    simpa using outside
  have wrote := RealmManager.deleteObjects_of_outside outside (articles.map bulkKey) .succeeds
  rw [Realm.commitWrite_succeeds after] at wrote
  rw [removeArticles_eq readable nonempty]
  exact congrArg (Option.map _) wrote

/-- Articles with a url are looked up under it; one without is not found. -/
theorem deleteKeys_bulkKey_iff {articles articles' : List Accessor}
    (attached : ∀ a ∈ articles, realm.isAttached a = true) (same : articles'.Perm articles) :
    (realm.deleteKeys (articles.map bulkKey)).SameRecords (articles'.foldl Realm.delete realm) ↔
      ∀ a ∈ articles, a.urlNews ≠ none := by
  have ordered := Realm.foldl_delete_perm same.symm realm
  rw [← Realm.deleteKeys_urlNews attached] at ordered
  constructor
  · intro equal a mem nameless
    have bulk := Realm.object_deleteKeys realm (articles.map bulkKey) none
    have single := Realm.object_deleteKeys realm (articles.map (·.urlNews)) none
    rw [if_neg (by simp [bulkKey])] at bulk
    rw [if_pos (List.mem_map.mpr ⟨a, mem, nameless⟩), ordered.object, ← equal.object] at single
    have stored : realm.objectForPrimaryKey none = some a :=
      nameless ▸ of_decide_eq_true (attached a mem)
    rw [bulk, stored] at single
    cases single
  · intro named
    have keys : articles.map bulkKey = articles.map (·.urlNews) := by
      apply List.map_congr_left
      intro a mem
      obtain ⟨url, found⟩ := Option.ne_none_iff_exists'.mp (named a mem)
      simp [bulkKey, found]
    rw [keys]
    exact ordered

/-- **Deleting the selected rows at once** leaves the list that deleting them one by one
from the last row up leaves, and the same records exactly when every selected article has
a url. -/
theorem bulk_delete_eq_single_iff (outside : realm.isInWriteTransaction = false)
    (shows : vm.Shows realm) (inside : ∀ row ∈ rows, row < vm.articles.length) (nonempty : rows ≠ [])
    {descending : List Nat} (same : descending.Perm rows)
    (order : descending.Pairwise (· > ·)) :
    ∃ articles realm₁ vm₁ realm₂ vm₂,
      (rows.mapM fun row => vm.articles[row]?) = some articles ∧
      vm.removeArticlesInFavorites ⟨some realm⟩ articles .succeeds =
        some (⟨some realm₁⟩, vm₁, [(true, "")]) ∧
      vm.removeRows ⟨some realm⟩ descending = some (⟨some realm₂⟩, vm₂) ∧
      vm₁ = vm₂ ∧ (realm₁.SameRecords realm₂ ↔ ∀ a ∈ articles, a.urlNews ≠ none) := by
  have within : ∀ row ∈ descending, row < vm.articles.length :=
    fun row mem => inside row (same.mem_iff.mp mem)
  have listed : ∀ a ∈ select vm.articles rows, a ∈ vm.articles := fun _ => mem_of_mem_select
  have attached : ∀ a ∈ select vm.articles rows, realm.isAttached a = true :=
    fun a mem => shows.2 a (listed a mem)
  have selected := select_perm vm.articles same
  refine ⟨select vm.articles rows, _, _, _, _, mapM_getElem? inside,
    removeArticles_shown outside shows listed (select_ne_nil inside nonempty),
    removeRows_eq outside shows within order, ?_, ?_⟩
  · rw [foldl_eraseIdx shows.1 within order, foldl_erase_perm selected]
  · exact deleteKeys_bulkKey_iff attached selected

end

end FavoritesDetailViewModel

namespace Bookmarks

/-- Four bookmarks of one category. -/
def fourStore : Realm :=
  ["mars", "venus", "earth", "pluto"].foldl (fun realm url => realm.create
    (.unmanaged { urlNews := some url, categoryNews := some "general" })) {}

/-- The list of them. -/
def fourList : FavoritesDetailViewModel :=
  (FavoritesDetailViewModel.fetchData ⟨some fourStore⟩ { categoryType := .us }).1

theorem fourList_shows : fourList.Shows fourStore := by
  unfold FavoritesDetailViewModel.Shows
  decide

/-- The first two are deleted. -/
theorem bulk_delete_eq_single_four :
    ∃ articles realm₁ realm₂ vm,
      fourList.removeArticlesInFavorites ⟨some fourStore⟩ articles .succeeds =
        some (⟨some realm₁⟩, vm, [(true, "")]) ∧
      fourList.removeRows ⟨some fourStore⟩ [1, 0] = some (⟨some realm₂⟩, vm) ∧
      vm.articles.map (·.urlNews) = [some "earth", some "pluto"] ∧
      realm₁.SameRecords realm₂ := by
  have inside : ∀ row ∈ [0, 1], row < fourList.articles.length := by decide
  have descending : [1, 0].Perm [0, 1] := List.Perm.swap 0 1 []
  obtain ⟨articles, realm₁, vm₁, realm₂, vm₂, read, bulk, single, rfl, same⟩ :=
    FavoritesDetailViewModel.bulk_delete_eq_single_iff rfl fourList_shows inside (by decide)
      descending (by decide)
  obtain rfl : articles = [⟨0, some "mars"⟩, ⟨1, some "venus"⟩] :=
    Option.mem_unique read (by decide)
  have left : (fourList.removeRows ⟨some fourStore⟩ [1, 0]).map
      (fun outcome => outcome.2.articles.map (·.urlNews)) =
        some [some "earth", some "pluto"] := by decide
  rw [single] at left
  exact ⟨_, realm₁, realm₂, vm₁, bulk, single, Option.some.inj left, same.mpr (by decide)⟩

/-- An article the decoder read without a url, stored beside the one from Home. -/
def urllessNews : News := { titleNews := some "Venus", categoryNews := some "general" }

def mixedStore : Realm :=
  (({} : Realm).create (.unmanaged homeArticle)).create (.unmanaged urllessNews)

/-- The list of both, and the row of each. -/
def mixedList : FavoritesDetailViewModel :=
  { categoryType := .us, articles := [⟨0, homeArticle.urlNews⟩, ⟨1, none⟩] }

theorem mixedList_shows : mixedList.Shows mixedStore := by
  unfold FavoritesDetailViewModel.Shows
  decide

theorem urlless_article_kept :
    ¬ ∀ (realm : Realm) (vm : FavoritesDetailViewModel) (rows descending : List Nat)
      (articles : List Accessor) (realm₁ realm₂ : Realm) (vm₁ vm₂ : FavoritesDetailViewModel),
      realm.isInWriteTransaction = false → vm.Shows realm → rows ≠ [] → descending.Perm rows →
      descending.Pairwise (· > ·) → (rows.mapM fun row => vm.articles[row]?) = some articles →
      vm.removeArticlesInFavorites ⟨some realm⟩ articles .succeeds =
        some (⟨some realm₁⟩, vm₁, [(true, "")]) →
      vm.removeRows ⟨some realm⟩ descending = some (⟨some realm₂⟩, vm₂) →
      realm₁.SameRecords realm₂ ∧ vm₁ = vm₂ := by
  intro equal
  let shorter : FavoritesDetailViewModel := { mixedList with articles := [⟨0, homeArticle.urlNews⟩] }
  have kept := equal mixedStore mixedList [1] [1] [⟨1, none⟩] mixedStore
    (mixedStore.delete ⟨1, none⟩) shorter shorter rfl mixedList_shows (by decide)
    (List.Perm.refl _) (by decide) (by decide) (by decide) (by decide)
  have counted := kept.1.news.length_eq
  revert counted
  decide

end Bookmarks

end NewsReader
