import Mathlib.Data.List.Pairwise
import NewsReader.Bookmarks.BulkDelete

/-!
# The rows selected for deletion

The list of a Bookmarks screen holds `News` objects, and is searched by their equality:
one object, or two that are attached to one row. The search runs in the write, when the
rows of the selected articles are gone. It finds each selected object all the same, and the
list is left without the selected rows, which is what the table is told
(`bulk_delete_in_step`).
-/

namespace NewsReader

/-- A `News` object: which one it is in memory, and what it stands for. -/
structure NewsReference where
  identity : Nat
  news : NewsObject
  deriving DecidableEq, Repr

namespace NewsReference

/-- `RLMObjectBaseAreEqual`. An accessor names its row. -/
def isEqual (m : RealmManager) (o₁ o₂ : NewsReference) : Bool :=
  if o₁.identity = o₂.identity then true
  else match o₁.news, o₂.news with
    | .managed a, .managed b =>
      m.realm.any (fun realm => realm.isAttached a && realm.isAttached b) && decide (a = b)
    | _, _ => false

end NewsReference

namespace InMemory

/-- `FavoritesDetailViewModel` with the objects its list holds. -/
structure FavoritesDetailViewModel where
  categoryType : CategoryType
  articles : List NewsReference := []
  deriving DecidableEq, Repr

namespace FavoritesDetailViewModel

variable (m : RealmManager) (vm : FavoritesDetailViewModel) (articles : List NewsReference)

/-- The loop of the completion, with the store as it finds it. -/
def removeEach : FavoritesDetailViewModel :=
  { vm with articles := articles.foldl (removeFirst (NewsReference.isEqual m)) vm.articles }

/-- The completion runs in the write, and finds the articles gone as they are after it. -/
def removeArticlesInFavorites (commit : Commit) :
    Option (RealmManager × FavoritesDetailViewModel × Completions) := do
  let keys ← articles.mapM fun news => news.news.urlNews m
  let _ ← articles[0]?
  let (m, completions) ← m.deleteObjects (keys.map fun key => some (key.getD "No url")) commit
  return (m, if completions.any (·.1) then vm.removeEach m articles else vm, completions)

end FavoritesDetailViewModel

/-- The screen and its table. `selectedRows` are those of `indexPathsForSelectedRows`, in
the order the table gives them, and empty where it gives nil. -/
structure FavoritesDetailViewController where
  manager : RealmManager
  viewModel : FavoritesDetailViewModel
  numberOfRows : Nat
  selectedRows : List Nat := []
  alerts : List String := []
  deriving DecidableEq

namespace FavoritesDetailViewController

variable (c : FavoritesDetailViewController)

/-- The table checks the rows, and that the number of rows has gone down by as many. -/
def deleteRows (rows : List Nat) : Option FavoritesDetailViewController :=
  if (∀ row ∈ rows, row < c.numberOfRows) ∧
      c.viewModel.articles.length + rows.length = c.numberOfRows then
    some { c with numberOfRows := c.viewModel.articles.length, selectedRows := [] }
  else none

/-- One call of the completion of `removeArticlesInFavorites`. -/
def completion (rows : List Nat) (c : FavoritesDetailViewController) (call : Bool × String) :
    Option FavoritesDetailViewController :=
  if call.1 then c.deleteRows rows else some { c with alerts := c.alerts ++ [call.2] }

/-- The alert's "Ok". -/
def deleteNewsButtonTouchUpInside (commit : Commit) : Option FavoritesDetailViewController :=
  let selectedRows := c.selectedRows
  if selectedRows = [] then some c
  else do
    let articles ← selectedRows.mapM fun row => c.viewModel.articles[row]?
    let (manager, viewModel, completions) ←
      c.viewModel.removeArticlesInFavorites c.manager articles commit
    completions.foldlM (completion selectedRows) { c with manager, viewModel }

end FavoritesDetailViewController

end InMemory

/-! ## Equality under a deletion -/

/-- Deletions attach nothing. -/
theorem Realm.isAttached_of_foldl_delete {realm : Realm} {articles : List Accessor} {a : Accessor}
    (attached : (articles.foldl Realm.delete realm).isAttached a = true) :
    realm.isAttached a = true := by
  induction articles generalizing realm with
  | nil => exact attached
  | cons b articles ih => exact ((realm.isAttached_delete b a).mp (ih attached)).1

namespace NewsReference

variable {m m' : RealmManager} {keys : List (Option String)} {commit : Commit}
  {completions : Completions} {o₁ o₂ : NewsReference}

theorem isEqual_self (m : RealmManager) (o : NewsReference) : o.isEqual m o = true := if_pos rfl

theorem isEqual_comm (m : RealmManager) (o₁ o₂ : NewsReference) :
    o₁.isEqual m o₂ = o₂.isEqual m o₁ := by
  obtain ⟨i, news⟩ := o₁
  obtain ⟨j, news'⟩ := o₂
  by_cases same : i = j
  · simp [isEqual, same]
  · have other : j ≠ i := Ne.symm same
    cases news <;> cases news' <;>
      simp [isEqual, same, other, Bool.and_comm, eq_comm]

/-- Objects that a deletion leaves equal were equal before it. -/
theorem isEqual_of_deleteObjects (wrote : m.deleteObjects keys commit = some (m', completions))
    (equal : o₁.isEqual m' o₂ = true) : o₁.isEqual m o₂ = true := by
  obtain ⟨-, rfl, -⟩ | ⟨realm, opened, -, rfl, -⟩ := RealmManager.deleteObjects_some wrote
  · exact equal
  · obtain ⟨_⟩ := m
    obtain rfl : _ = some realm := opened
    obtain ⟨i, news⟩ := o₁
    obtain ⟨j, news'⟩ := o₂
    by_cases same : i = j
    · exact if_pos same
    · cases news with
      | unmanaged => simp [isEqual, same] at equal
      | managed a =>
        cases news' with
        | unmanaged => simp [isEqual, same] at equal
        | managed b =>
          simp only [isEqual, same, if_false, Option.any_some, Realm.isAttached_commitWrite,
            Bool.and_eq_true, decide_eq_true_eq] at equal ⊢
          obtain ⟨⟨here, there⟩, row⟩ := equal
          exact ⟨⟨Realm.isAttached_of_foldl_delete here, Realm.isAttached_of_foldl_delete there⟩,
            row⟩

variable {articles : List NewsReference}

theorem nodup_of_distinct (distinct : articles.Pairwise fun a b => a.isEqual m b = false) :
    articles.Nodup := by
  apply distinct.imp
  rintro a b other rfl
  rw [isEqual_self] at other
  cases other

/-- Distinct objects are told apart in the write as well. -/
theorem isEqual_written_iff (distinct : articles.Pairwise fun a b => a.isEqual m b = false)
    (wrote : m.deleteObjects keys commit = some (m', completions)) {a b : NewsReference}
    (ha : a ∈ articles) (hb : b ∈ articles) : b.isEqual m' a = true ↔ b = a := by
  constructor
  · intro equal
    by_contra other
    have symmetric : Std.Symm fun a b : NewsReference => a.isEqual m b = false :=
      ⟨fun x y apart => (isEqual_comm m y x).trans apart⟩
    have apart := distinct.forall hb ha other
    rw [isEqual_of_deleteObjects wrote equal] at apart
    cases apart
  · rintro rfl
    exact isEqual_self _ b

end NewsReference

/-! ## Objects and articles -/

namespace InMemory.FavoritesDetailViewModel

/-- The objects of the list are those of the articles, each of another article. -/
structure Holds (vm : FavoritesDetailViewModel) (screen : NewsReader.FavoritesDetailViewModel) :
    Prop where
  categoryType : vm.categoryType = screen.categoryType
  articles : vm.articles.map (·.news) = screen.articles.map .managed
  identities : (vm.articles.map (·.identity)).Nodup
  nodup : screen.articles.Nodup

section

variable {vm : FavoritesDetailViewModel} {screen : NewsReader.FavoritesDetailViewModel}
  {m : RealmManager}

/-- A list that Realm has returned has distinct objects, whatever is stored by now. -/
theorem Holds.distinct (h : vm.Holds screen) (m : RealmManager) :
    vm.articles.Pairwise fun a b => a.isEqual m b = false := by
  have news : (vm.articles.map (·.news)).Nodup := by
    rw [h.articles]
    apply h.nodup.map
    intro a b same
    exact NewsObject.managed.inj same
  have apart := (List.pairwise_map.mp h.identities).and (List.pairwise_map.mp news)
  apply apart.imp
  rintro ⟨i, news⟩ ⟨j, news'⟩ ⟨others, article⟩
  cases news <;> cases news' <;> simp_all [NewsReference.isEqual]

theorem holds_fetched {categoryType : CategoryType} {objects : List NewsReference}
    (fetched : objects.map (·.news) =
      (m.getNewsForCategoryInRealm categoryType.param).map .managed)
    (identities : (objects.map (·.identity)).Nodup) :
    Holds ⟨categoryType, objects⟩
      ⟨categoryType, m.getNewsForCategoryInRealm categoryType.param⟩ :=
  ⟨rfl, fetched, identities, m.nodup_getNewsForCategory _⟩

end

end InMemory.FavoritesDetailViewModel

/-! ## The list and the table -/

namespace InMemory

section

variable {m m' : RealmManager} {vm vm' : FavoritesDetailViewModel} {rows : List Nat}
  {articles : List NewsReference} {commit : Commit} {completions : Completions}

/-- The loop over the selected objects leaves the list without the selected rows. -/
theorem removeEach_selected
    (distinct : vm.articles.Pairwise fun a b => a.isEqual m b = false)
    (selected : (rows.mapM fun row => vm.articles[row]?) = some articles)
    {keys : List (Option String)}
    (wrote : m.deleteObjects keys commit = some (m', completions)) :
    (vm.removeEach m' articles).articles = withoutRows vm.articles rows := by
  have nodup := NewsReference.nodup_of_distinct distinct
  have inside := inside_of_mapM selected
  obtain rfl : select vm.articles rows = articles :=
    Option.some.inj ((mapM_getElem? inside).symm.trans selected)
  rw [withoutRows_eq_filter nodup]
  apply foldl_removeFirst nodup
  intro a mem b listed
  exact NewsReference.isEqual_written_iff distinct wrote (mem_of_mem_select mem) listed

theorem removeArticlesInFavorites_some
    (removed : vm.removeArticlesInFavorites m articles commit = some (m', vm', completions)) :
    ∃ urls, (articles.mapM fun news => news.news.urlNews m) = some urls ∧ articles ≠ [] ∧
      m.deleteObjects (urls.map fun key => some (key.getD "No url")) commit =
        some (m', completions) ∧
      vm' = if completions.any (·.1) then vm.removeEach m' articles else vm := by
  simp only [FavoritesDetailViewModel.removeArticlesInFavorites, Option.bind_eq_bind,
    Option.bind_eq_some_iff, Option.pure_def, Option.some.injEq] at removed
  obtain ⟨urls, read, _, first, ⟨written, called⟩, wrote, returned⟩ := removed
  obtain ⟨rfl, rest⟩ := Prod.mk.inj returned
  obtain ⟨rfl, rfl⟩ := Prod.mk.inj rest
  refine ⟨urls, read, ?_, wrote, rfl⟩
  rintro rfl
  cases first

/-- A deletion that calls back calls back with success first, and after it at most with the
error of the commit. -/
theorem deleteObjects_completions {keys : List (Option String)}
    (wrote : m.deleteObjects keys commit = some (m', completions))
    (succeeded : (true, "") ∈ completions) :
    ∃ later, completions = (true, "") :: later ∧ ∀ call ∈ later, call.1 = false := by
  obtain ⟨-, -, rfl⟩ | ⟨_, -, -, -, rfl⟩ := RealmManager.deleteObjects_some wrote
  · cases succeeded
  · exact ⟨commit.completions, rfl, commit.completions_fail⟩

end

namespace FavoritesDetailViewController

variable {c : FavoritesDetailViewController}

/-- Errors only raise alerts. -/
theorem foldlM_errors {later : Completions} (rows : List Nat)
    (errors : ∀ call ∈ later, call.1 = false) :
    ∃ alerts, later.foldlM (completion rows) c = some { c with alerts } := by
  induction later generalizing c with
  | nil => exact ⟨c.alerts, rfl⟩
  | cons call later ih =>
    obtain ⟨failed, errors⟩ := List.forall_mem_cons.mp errors
    rw [List.foldlM_cons, completion, failed]
    exact ih errors

/-- A table that shows the list before the deletion accepts the deletion of its rows. -/
theorem deleteRows_eq {rows : List Nat} {t : FavoritesDetailViewController}
    (inside : ∀ row ∈ rows, row < t.numberOfRows)
    (length : t.viewModel.articles.length + rows.length = t.numberOfRows) :
    t.deleteRows rows =
      some { t with numberOfRows := t.viewModel.articles.length, selectedRows := [] } :=
  if_pos ⟨inside, length⟩

/-- **Deleting the selected rows** leaves the list without them, in its order, and as many
articles fewer as the table is told to delete rows. A table that shows the list accepts
it, and shows it again. -/
theorem bulk_delete_in_step {m' : RealmManager} {vm' : FavoritesDetailViewModel}
    {articles : List NewsReference} {commit : Commit} {completions : Completions}
    (distinct : c.viewModel.articles.Pairwise fun a b => a.isEqual c.manager b = false)
    (nodup : c.selectedRows.Nodup)
    (selected : (c.selectedRows.mapM fun row => c.viewModel.articles[row]?) = some articles)
    (removed : c.viewModel.removeArticlesInFavorites c.manager articles commit =
      some (m', vm', completions))
    (succeeded : (true, "") ∈ completions) :
    vm'.articles = withoutRows c.viewModel.articles c.selectedRows ∧
    vm'.articles.length + c.selectedRows.length = c.viewModel.articles.length ∧
    (c.numberOfRows = c.viewModel.articles.length →
      ∃ t, c.deleteNewsButtonTouchUpInside commit = some t ∧ t.viewModel = vm' ∧
        t.numberOfRows = vm'.articles.length) := by
  obtain ⟨_, -, selection, deleted, after⟩ := removeArticlesInFavorites_some removed
  obtain ⟨later, rfl, errors⟩ := deleteObjects_completions deleted succeeded
  have list : vm'.articles = withoutRows c.viewModel.articles c.selectedRows := by
    rw [after, if_pos (by simp)]
    exact removeEach_selected distinct selected deleted
  have inside := inside_of_mapM selected
  have length : vm'.articles.length + c.selectedRows.length = c.viewModel.articles.length := by
    rw [list]
    exact length_withoutRows nodup inside
  refine ⟨list, length, ?_⟩
  intro shown
  have nonempty : c.selectedRows ≠ [] := by
    intro none
    rw [none] at selected
    exact selection (Option.some.inj selected).symm
  have accepted := deleteRows_eq (t := { c with manager := m', viewModel := vm' })
    (shown.symm ▸ inside) (length.trans shown.symm)
  obtain ⟨alerts, ran⟩ := foldlM_errors (c := { c with
    manager := m', viewModel := vm', numberOfRows := vm'.articles.length, selectedRows := [] })
    c.selectedRows errors
  refine ⟨{ c with
    manager := m', viewModel := vm', numberOfRows := vm'.articles.length, selectedRows := [],
    alerts }, ?_, rfl, rfl⟩
  simp only [deleteNewsButtonTouchUpInside, if_neg nonempty, selected, Option.bind_eq_bind,
    Option.bind_some, removed, List.foldlM_cons, completion, if_true, accepted]
  exact ran

/-- A third article beside those of `mixedStore`. -/
def threeStored : RealmManager :=
  ⟨some (Bookmarks.mixedStore.create (.unmanaged
    { urlNews := some "https://a.example/earth", categoryNews := some "general" }))⟩

/-- All three are listed. The first and the last are selected, the last one before. -/
def lastAndFirst : FavoritesDetailViewController where
  manager := threeStored
  viewModel := { categoryType := .us, articles := [
    ⟨7, .managed ⟨0, Bookmarks.homeArticle.urlNews⟩⟩, ⟨8, .managed ⟨1, none⟩⟩,
    ⟨9, .managed ⟨2, some "https://a.example/earth"⟩⟩] }
  numberOfRows := 3
  selectedRows := [2, 0]

theorem bulk_delete_in_step_lastAndFirst :
    ∃ t, lastAndFirst.deleteNewsButtonTouchUpInside .succeeds = some t ∧
      t.viewModel.articles = [⟨8, .managed ⟨1, none⟩⟩] ∧ t.numberOfRows = 1 := by
  have fetched : lastAndFirst.viewModel.articles.map (·.news) =
      (threeStored.getNewsForCategoryInRealm CategoryType.us.param).map .managed := by decide
  have holds := FavoritesDetailViewModel.holds_fetched fetched (by decide)
  have selected :
      (lastAndFirst.selectedRows.mapM fun row => lastAndFirst.viewModel.articles[row]?) =
        some [⟨9, .managed ⟨2, some "https://a.example/earth"⟩⟩,
          ⟨7, .managed ⟨0, Bookmarks.homeArticle.urlNews⟩⟩] := by decide
  have removes : ((lastAndFirst.viewModel.removeArticlesInFavorites lastAndFirst.manager
      [⟨9, .managed ⟨2, some "https://a.example/earth"⟩⟩,
        ⟨7, .managed ⟨0, Bookmarks.homeArticle.urlNews⟩⟩] .succeeds).map (·.2.2)) =
      some [(true, "")] := by decide
  obtain ⟨⟨m', vm', completions⟩, removed, rfl⟩ := Option.map_eq_some_iff.mp removes
  obtain ⟨list, -, table⟩ :=
    bulk_delete_in_step (holds.distinct threeStored) (by decide) selected removed (by decide)
  obtain ⟨t, deleted, shown, rows⟩ := table rfl
  refine ⟨t, deleted, ?_, ?_⟩
  · rw [shown, list]
    decide
  · rw [rows, list]
    decide

end FavoritesDetailViewController

namespace FavoritesDetailViewModel

section

variable {vm vm' : FavoritesDetailViewModel} {screen : NewsReader.FavoritesDetailViewModel}
  {m m' : RealmManager} {rows : List Nat}

/-- On the screen's articles the list with objects goes through the same deletion. -/
theorem Holds.removeArticlesInFavorites (h : vm.Holds screen) {articles : List NewsReference}
    (selected : (rows.mapM fun row => vm.articles[row]?) = some articles) {commit : Commit}
    {completions : Completions}
    (removed : vm.removeArticlesInFavorites m articles commit = some (m', vm', completions)) :
    ∃ accessors screen', (rows.mapM fun row => screen.articles[row]?) = some accessors ∧
      screen.removeArticlesInFavorites m accessors commit = some (m', screen', completions) ∧
      vm'.Holds screen' := by
  obtain ⟨urls, read, nonempty, deleted, after⟩ := removeArticlesInFavorites_some removed
  have inside := inside_of_mapM selected
  have length := congrArg List.length h.articles
  rw [List.length_map, List.length_map] at length
  have inside' : ∀ row ∈ rows, row < screen.articles.length := fun row mem =>
    length ▸ inside row mem
  have objects : select vm.articles rows = articles :=
    Option.some.inj ((mapM_getElem? inside).symm.trans selected)
  have same : articles.map (·.news) = (select screen.articles rows).map .managed := by
    rw [← objects, map_select, map_select, h.articles]
  have read' : ((select screen.articles rows).mapM fun news =>
      (NewsObject.managed news).urlNews m) = some urls := by
    have managed := List.mapM_map (m := Option) (f := NewsObject.managed)
      (g := NewsObject.urlNews m) (l := select screen.articles rows)
    rw [← same, List.mapM_map] at managed
    exact managed.symm.trans read
  have first : ((select screen.articles rows)[0]?).isSome = true := by
    have counted := congrArg List.length same
    rw [List.length_map, List.length_map] at counted
    have some := List.length_pos_iff.mpr nonempty
    simpa using counted ▸ some
  obtain ⟨accessor, found⟩ := Option.isSome_iff_exists.mp first
  refine ⟨select screen.articles rows, if completions.any (·.1) then
    { screen with articles := (select screen.articles rows).foldl List.erase screen.articles }
    else screen, mapM_getElem? inside', ?_, ?_⟩
  · simp only [NewsReader.FavoritesDetailViewModel.removeArticlesInFavorites, read', found,
      deleted, Option.bind_eq_bind, Option.bind_some, Option.pure_def]
  · rw [after]
    split
    · have left := removeEach_selected (h.distinct m) selected deleted
      refine ⟨h.categoryType, ?_, ?_, ?_⟩
      · rw [left, map_withoutRows, h.articles, ← map_withoutRows, withoutRows_eq_filter h.nodup,
          foldl_erase_eq_filter h.nodup]
      · rw [left]
        exact h.identities.sublist ((withoutRows_sublist _ _).map _)
      · rw [foldl_erase_eq_filter h.nodup]
        exact h.nodup.filter _
    · exact h

end

end FavoritesDetailViewModel

end InMemory

end NewsReader
