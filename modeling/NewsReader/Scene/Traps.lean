import NewsReader.Scene.Components
import NewsReader.Selection

/-!
# Where the app traps

A trap ends the whole process, whichever screen it is in. Of the events of a scene four
kinds trap (`scene_traps`): an answer to a request of Home whose index is past the
categories saved since, a row that its list does not have, an article that is read
through an accessor whose row is deleted, and a write or a list of bookmarks that would
begin while an earlier write is open, its commit having thrown. That a cell is set up, or
the Bookmarks tab itself, is no event of a scene.
-/

namespace NewsReader

/-! ## Home -/

namespace HomeViewController

variable {isURL : String → Bool} {s t : HomeViewController} {e : HomeEvent}

/-- The answer is for an index past the categories. -/
def Traps (s : HomeViewController) : HomeEvent → Prop
  | .respond r _ => s.categories.length ≤ r.index
  | _ => False

/-- A page that is shown has an error to look up. -/
theorem scrollToCategory_isSome (a : s.Aligned) {page : Nat} (bound : page < s.categories.length) :
    (scrollToCategory
      { s with displayed := some page, viewModel := s.viewModel.setCurrentPage page }).isSome =
        true := by
  have inside : page < s.viewModel.errors.length := a.errors ▸ bound
  simp only [scrollToCategory, HomeViewModel.setCurrentPage, List.getElem?_eq_getElem inside,
    Option.bind_eq_bind, Option.bind_some, Option.pure_def]
  split <;> rfl

theorem child_of_lt (a : s.Aligned) {i : Nat} (bound : i < s.categories.length) :
    ∃ child, s.viewControllers[i]? = some child :=
  ⟨_, List.getElem?_eq_getElem (a.viewControllers ▸ bound)⟩

/-- A page has its neighbours among the children. -/
theorem swipeTarget_some (a : s.Aligned) {tag : Nat} (bound : tag < s.categories.length)
    (direction : Swipe) : ∃ target, s.swipeTarget tag direction = some target := by
  cases direction with
  | before =>
    simp only [swipeTarget, viewControllerBefore]
    split
    · exact ⟨none, rfl⟩
    · have before : tag - 1 < s.categories.length := by omega
      obtain ⟨child, found⟩ := child_of_lt a before
      exact ⟨some child, by rw [found]; rfl⟩
  | after =>
    simp only [swipeTarget, viewControllerAfter]
    split
    · exact ⟨none, rfl⟩
    · have after : tag + 1 < s.categories.length := by omega
      obtain ⟨child, found⟩ := child_of_lt a after
      exact ⟨some child, by rw [found]; rfl⟩
  | back => exact ⟨none, rfl⟩

theorem swipe_isSome (a : s.Aligned) (direction : Swipe) : (s.swipe direction).isSome = true := by
  by_cases empty : s.categories = []
  · simp only [swipe, a.displayed, if_pos empty, Option.isSome_some]
  · have bound := a.currentPage empty
    obtain ⟨target, found⟩ := swipeTarget_some a bound direction
    simp only [swipe, a.displayed, if_neg empty, found, Option.bind_eq_bind, Option.bind_some]
    cases target with
    | none => exact scrollToCategory_isSome a bound
    | some child => exact scrollToCategory_isSome a (tag_of_swipeTarget a found)

theorem didSelectItemAt_isSome (a : s.Aligned) {row : Nat} (bound : row < s.categories.length) :
    (s.didSelectItemAt row).isSome = true := by
  obtain ⟨child, found⟩ := child_of_lt a bound
  have tag : child.tag = row := (a.child row child found).2.2.1
  unfold didSelectItemAt
  split
  · simp only [HomeViewModel.setCurrentPage, found, tag, Option.bind_eq_bind, Option.bind_some]
    exact scrollToCategory_isSome a bound
  · rfl

theorem viewDidLoad_alerts {setting : SettingManager} (empty : setting.categories = [])
    (loaded : viewDidLoad isURL setting = some s) : s.alerts = [] := by
  simp only [viewDidLoad, configHomeChildViewController, categories, empty, List.length_nil,
    List.range_zero, loadChildren, Option.bind_eq_bind, Option.bind_some, Option.pure_def] at loaded
  obtain rfl := Option.some.inj loaded
  rfl

/-- Where no category is chosen nothing has happened that could be told. -/
theorem alerts_of_no_categories (h : (machine isURL).Reachable (Launched isURL) s)
    (empty : s.categories = []) : s.alerts = [] := by
  have every : s.categories = [] → s.alerts = [] := by
    apply h.invariant (fun s => s.categories = [] → s.alerts = [])
    · rintro s ⟨setting, loaded⟩ empty
      obtain ⟨t, same, rebuilt, -⟩ := viewDidLoad_eq isURL setting
      obtain rfl := Option.mem_unique same loaded
      exact viewDidLoad_alerts (rebuilt.categories.symm.trans empty) loaded
    · intro s e t reached before allowed stepped empty
      have a := reachable_aligned reached
      by_cases saves : IsSave e
      · cases e with
        | saveSettingSubTabs screen =>
          obtain rfl | ⟨setting, chosen, rebuilt, -⟩ := handle_save allowed stepped
          · exact before empty
          · have none : setting.categories = [] := rebuilt.categories.symm.trans empty
            exact absurd (chosen ▸ none) (SettingSubTabsViewModel.Permitted.selected_ne_nil allowed)
        | _ => cases saves
      · have none : s.categories = [] := by
          rw [categories, ← handle_setting a allowed saves stepped]
          exact empty
        have quiet := before none
        have outside (i : Nat) : ¬ i < s.categories.length := by simp [none]
        cases e with
        | saveSettingSubTabs screen => exact absurd trivial saves
        | refreshHomeChildVC position | loadMore position =>
          exact absurd (a.viewControllers ▸ allowed) (outside position)
        | respond r result =>
          have handled : (s.handle isURL (.respond r result)).isSome = true :=
            Option.isSome_of_eq_some stepped
          exact absurd ((a.respond_isSome_iff r result).mp handled) (outside r.index)
        | didSelectItemAt row => exact absurd allowed (outside row)
        | swipe direction =>
          have stays : s.handle isURL (.swipe direction) = some s := by
            simp only [handle, swipe, a.displayed, if_pos none]
          obtain rfl := Option.mem_unique stays stepped
          exact quiet
        | confirm alert =>
          have raised : alert ∈ s.alerts := allowed
          rw [quiet] at raised
          cases raised
  exact every empty

theorem saveSettingSubTabs_isSome {screen : SettingSubTabsViewModel} (permitted : screen.Permitted)
    (s : HomeViewController) : (s.saveSettingSubTabs isURL screen).isSome = true := by
  unfold saveSettingSubTabs
  split
  · rename_i setting saved
    have chosen := (SettingSubTabsViewModel.saveSettingSubTabs_posted saved).1
    have nonempty : setting.categories ≠ [] := chosen ▸ permitted.selected_ne_nil
    obtain ⟨t, rebuilt, -⟩ := fetchDataSetting_eq isURL { s with setting } nonempty
    exact Option.isSome_of_eq_some rebuilt
  · rfl

/-- **Home traps on late answers only.** -/
theorem handle_eq_none_iff (h : (machine isURL).Reachable (Launched isURL) s)
    (allowed : s.Allowed e) : s.handle isURL e = none ↔ s.Traps e := by
  have a := reachable_aligned h
  have safe (handled : (s.handle isURL e).isSome = true) : s.handle isURL e ≠ none :=
    Option.isSome_iff_ne_none.mp handled
  cases e with
  | respond r result =>
    rw [← Option.not_isSome_iff_eq_none, a.respond_isSome_iff, Nat.not_lt]
    rfl
  | saveSettingSubTabs screen =>
    exact iff_of_false (safe (saveSettingSubTabs_isSome allowed s)) id
  | refreshHomeChildVC position =>
    have bound : position < s.viewControllers.length := allowed
    obtain ⟨c, f, category, found⟩ := exists_feed a (a.viewControllers ▸ bound)
    obtain ⟨t, ran, -⟩ := touches_refresh isURL a found category
    exact iff_of_false (safe (Option.isSome_of_eq_some ran)) id
  | loadMore position =>
    have bound : position < s.viewControllers.length := allowed
    obtain ⟨c, f, category, found⟩ := exists_feed a (a.viewControllers ▸ bound)
    obtain ⟨t, ran, -⟩ := touches_loadMore isURL a found category
    exact iff_of_false (safe (Option.isSome_of_eq_some ran)) id
  | didSelectItemAt row => exact iff_of_false (safe (didSelectItemAt_isSome a allowed)) id
  | swipe direction => exact iff_of_false (safe (swipe_isSome a direction)) id
  | confirm alert =>
    cases alert with
    | notice message => exact iff_of_false (Option.some_ne_none _) id
    | categoryError message =>
      have nonempty : s.categories ≠ [] := by
        intro empty
        have raised : Alert.categoryError message ∈ s.alerts := allowed
        rw [alerts_of_no_categories h empty] at raised
        cases raised
      have inside : s.viewModel.currentPage < s.viewControllers.length :=
        a.viewControllers ▸ a.currentPage nonempty
      refine iff_of_false (safe ?_) id
      simp [handle, confirm, setChild, assign, inside]

end HomeViewController

/-! ## Bookmarks -/

namespace Bookmarks

/-- The row of the list holds an article that is stored. -/
def Stored (s : Bookmarks) (list row : Nat) : Prop :=
  ∃ vm a, s.favoritesDetails[list]? = some vm ∧ vm.articles[row]? = some a ∧
    (NewsObject.managed a).Readable s.manager

/-- The commit of an earlier write has thrown. -/
abbrev InWrite (s : Bookmarks) : Prop := s.manager.isInWriteTransaction = true

/-- The event reads an article that is stored no more, or that its row has lost, or it needs
a store that no write is open on. A screen reads the article before it is removed, and not
before it is added. -/
def Traps (s : Bookmarks) : BookmarkEvent → Prop
  | .openBookmark list row => ¬ s.Stored list row
  | .deleteNews list row _ => ¬ s.Stored list row ∨ s.InWrite
  | .deleteArticles list rows _ => (∃ row ∈ rows, ¬ s.Stored list row) ∨ s.InWrite
  | .changeBookMark detail _ => (∃ vm, s.newsDetails[detail]? = some vm ∧
    vm.isFavorited = true ∧ ¬ vm.news.Readable s.manager) ∨ s.InWrite
  | .openCategory _ => s.InWrite
  | _ => False

variable {s t : Bookmarks}

theorem openBookmark_some_iff {list row : Nat} :
    (∃ t, s.openBookmark list row = some t) ↔ s.Stored list row := by
  constructor
  · rintro ⟨t, opened⟩
    obtain ⟨vm, found, opened⟩ := Option.bind_eq_some_iff.mp opened
    obtain ⟨a, shown, opened⟩ := Option.bind_eq_some_iff.mp opened
    obtain ⟨key, read, -⟩ := openNews_some opened
    exact ⟨vm, a, found, shown, (NewsObject.urlNews_eq_some_iff.mp read).2⟩
  · rintro ⟨vm, a, found, shown, readable⟩
    have read := NewsObject.urlNews_eq_some_iff.mpr ⟨rfl, readable⟩
    simp [openBookmark, found, shown, openNews, getNewsDetailViewModel, read]

theorem openCategory_some_iff {category : CategoryType} :
    (∃ t, s.openCategory category = some t) ↔ s.manager.isInWriteTransaction = false := by
  constructor
  · rintro ⟨t, opened⟩
    exact (openCategory_some opened).1
  · intro outside
    simp [openCategory, outside]

/-- An event that writes begins a write. -/
theorem outside_of_commit {e : BookmarkEvent} {commit : Commit} (writes : e.commit = some commit)
    (stepped : s.handle e = some t) : s.manager.isInWriteTransaction = false := by
  obtain ⟨none, -⟩ | ⟨_, _, _, -, wrote⟩ := handle_manager stepped
  · cases none.symm.trans writes
  · exact (RealmManager.write_transaction wrote).1

theorem deleteNews_some_iff {list row : Nat} {commit : Commit} :
    (∃ t, s.deleteNews list row commit = some t) ↔
      s.Stored list row ∧ s.manager.isInWriteTransaction = false := by
  constructor
  · rintro ⟨t, stepped⟩
    have outside := outside_of_commit (e := .deleteNews list row commit) rfl stepped
    obtain ⟨vm, found, deleted⟩ := Option.bind_eq_some_iff.mp stepped
    obtain ⟨removed, ran, -⟩ := Option.bind_eq_some_iff.mp deleted
    obtain ⟨a, shown, ran⟩ := Option.bind_eq_some_iff.mp ran
    obtain ⟨key, read, -⟩ := Option.bind_eq_some_iff.mp ran
    exact ⟨⟨vm, a, found, shown, (NewsObject.urlNews_eq_some_iff.mp read).2⟩, outside⟩
  · rintro ⟨⟨vm, a, found, shown, readable⟩, outside⟩
    have read := NewsObject.urlNews_eq_some_iff.mpr ⟨rfl, readable⟩
    have writes : (s.manager.deleteObject (NewsObject.managed a).key commit).isSome :=
      RealmManager.deleteObject_isSome_iff.mpr outside
    obtain ⟨_, wrote⟩ := Option.isSome_iff_exists.mp writes
    simp [deleteNews, FavoritesDetailViewModel.removeNewsInFavorites, found, shown, read, wrote]

theorem deleteArticles_some_iff {list : Nat} {rows : List Nat} {commit : Commit}
    (bound : list < s.favoritesDetails.length) (nonempty : rows ≠ []) :
    (∃ t, s.deleteArticles list rows commit = some t) ↔
      (∀ row ∈ rows, s.Stored list row) ∧ s.manager.isInWriteTransaction = false := by
  have found : s.favoritesDetails[list]? = some s.favoritesDetails[list] :=
    List.getElem?_eq_getElem bound
  generalize s.favoritesDetails[list] = vm at found
  constructor
  · rintro ⟨t, stepped⟩
    have outside := outside_of_commit (e := .deleteArticles list rows commit) rfl stepped
    refine ⟨?_, outside⟩
    intro row mem
    obtain ⟨vm', found', deleted⟩ := Option.bind_eq_some_iff.mp stepped
    obtain ⟨articles, selected, deleted⟩ := Option.bind_eq_some_iff.mp deleted
    obtain ⟨removed, ran, -⟩ := Option.bind_eq_some_iff.mp deleted
    obtain ⟨keys, read, -⟩ := Option.bind_eq_some_iff.mp ran
    have inside := inside_of_mapM selected
    obtain rfl : articles = select vm'.articles rows :=
      Option.some.inj (selected.symm.trans (mapM_getElem? inside))
    obtain ⟨a, shown⟩ : ∃ a, vm'.articles[row]? = some a :=
      ⟨_, List.getElem?_eq_getElem (inside row mem)⟩
    obtain ⟨key, here⟩ := Option.isSome_iff_exists.mp
      (isSome_of_mapM read a (List.mem_filterMap.mpr ⟨row, mem, shown⟩))
    exact ⟨vm', a, found', shown, (NewsObject.urlNews_eq_some_iff.mp here).2⟩
  · rintro ⟨stored, outside⟩
    have inside : ∀ row ∈ rows, row < vm.articles.length := by
      intro row mem
      obtain ⟨vm', a, found', shown, -⟩ := stored row mem
      obtain rfl := Option.mem_unique found found'
      exact (List.getElem?_eq_some_iff.mp shown).1
    have read : ∀ a ∈ select vm.articles rows,
        (NewsObject.managed a).urlNews s.manager = some a.urlNews := by
      intro a mem
      obtain ⟨row, selected, shown⟩ := List.mem_filterMap.mp mem
      obtain ⟨vm', a', found', shown', readable⟩ := stored row selected
      obtain rfl := Option.mem_unique found found'
      obtain rfl := Option.mem_unique shown shown'
      exact NewsObject.urlNews_eq_some_iff.mpr ⟨rfl, readable⟩
    have first : ((select vm.articles rows)[0]?).isSome = true := by
      simpa using List.length_pos_iff.mpr (select_ne_nil inside nonempty)
    obtain ⟨a, first⟩ := Option.isSome_iff_exists.mp first
    have writes (keys : List (Option String)) : (s.manager.deleteObjects keys commit).isSome :=
      RealmManager.deleteObjects_isSome_iff.mpr outside
    obtain ⟨_, wrote⟩ := Option.isSome_iff_exists.mp
      (writes (((select vm.articles rows).map (·.urlNews)).map fun key =>
        some (key.getD "No url")))
    simp [-List.map_map, deleteArticles, FavoritesDetailViewModel.removeArticlesInFavorites, found,
      mapM_getElem? inside, mapM_eq_map read, first, wrote]

theorem changeBookMark_some_iff {detail : Nat} {commit : Commit} {vm : NewsDetailViewModel}
    (found : s.newsDetails[detail]? = some vm) :
    (∃ t, s.changeBookMark detail commit = some t) ↔
      (vm.isFavorited = true → vm.news.Readable s.manager) ∧
        s.manager.isInWriteTransaction = false := by
  constructor
  · rintro ⟨t, stepped⟩
    have outside := outside_of_commit (e := .changeBookMark detail commit) rfl stepped
    refine ⟨fun flag => ?_, outside⟩
    obtain ⟨vm', m, vm'', completions, found', tapped, -⟩ := changeBookMark_some stepped
    obtain rfl := Option.mem_unique found found'
    rw [NewsDetailViewModel.changeBookMark, if_pos flag] at tapped
    obtain ⟨key, read, -⟩ := Option.bind_eq_some_iff.mp tapped
    exact (NewsObject.urlNews_eq_some_iff.mp read).2
  · rintro ⟨readable, outside⟩
    cases flag : vm.isFavorited with
    | false =>
      have writes : (s.manager.addObject vm.news commit).isSome :=
        RealmManager.addObject_isSome_iff.mpr outside
      obtain ⟨_, wrote⟩ := Option.isSome_iff_exists.mp writes
      simp [changeBookMark, found, NewsDetailViewModel.changeBookMark, flag,
        NewsDetailViewModel.addNewsInFavorites, wrote]
    | true =>
      have read := NewsObject.urlNews_eq_some_iff.mpr ⟨rfl, readable flag⟩
      have writes : (s.manager.deleteObject vm.news.key commit).isSome :=
        RealmManager.deleteObject_isSome_iff.mpr outside
      obtain ⟨_, wrote⟩ := Option.isSome_iff_exists.mp writes
      simp [changeBookMark, found, NewsDetailViewModel.changeBookMark, flag,
        NewsDetailViewModel.removeNewsInFavorites, read, wrote]

/-- **The bookmarks trap on articles that are gone, and inside a write.** -/
theorem handle_eq_none_iff {e : BookmarkEvent} (allowed : s.Allowed e) :
    s.handle e = none ↔ s.Traps e := by
  have stale {p : Prop} (ran : (∃ t, s.handle e = some t) ↔ p) : s.handle e = none ↔ ¬ p := by
    rw [← ran, ← Option.ne_none_iff_exists', not_not]
  cases e with
  | openBookmark list row => exact stale openBookmark_some_iff
  | openCategory category =>
    rw [stale openCategory_some_iff, Bool.not_eq_false]
    rfl
  | deleteNews list row commit =>
    rw [stale deleteNews_some_iff, not_and_or, Bool.not_eq_false]
    rfl
  | deleteArticles list rows commit =>
    obtain ⟨bound, nonempty, -⟩ := allowed
    rw [stale (deleteArticles_some_iff bound nonempty), not_and_or, Bool.not_eq_false]
    simp only [Traps, not_forall, exists_prop]
  | changeBookMark detail commit =>
    have found : s.newsDetails[detail]? = some _ := List.getElem?_eq_getElem allowed
    rw [stale (changeBookMark_some_iff found), not_and_or, Bool.not_eq_false]
    simp only [Traps, found, Option.some.injEq, exists_eq_left', Classical.not_imp]
  | notify list =>
    have found : s.favoritesDetails[list]? = some _ := List.getElem?_eq_getElem allowed.1
    refine iff_of_false ?_ id
    simp [handle, notify, found]
  | openFromHome news | openFromSearch news =>
    refine iff_of_false ?_ id
    simp [handle, openNews, getNewsDetailViewModel, NewsObject.urlNews]
  | closeDetail | closeList => exact iff_of_false (Option.some_ne_none _) id

end Bookmarks

/-! ## The scene -/

namespace Scene

variable {Document : Type} {F : Foundation Document} {s : Scene} {e : SceneEvent Document}

/-- An answer is late, a row is one that its list has not, an article is gone, or a write
is open. -/
def Traps (s : Scene) : SceneEvent Document → Prop
  | .homeAnswered r data error =>
    (data.isSome = true ∨ error.isSome = true) ∧ s.home.categories.length ≤ r.index
  | .didSelectRowAt position row => ∀ child, s.home.viewControllers[position]? = some child →
    child.viewModel.articles.length ≤ row
  | .didSelectItemAt row => s.search.viewModel.searchItems.length ≤ row
  | .bookmarks e => s.bookmarks.Traps e
  | _ => False

theorem bookmarksHandle_eq_none_iff {e : BookmarkEvent} :
    s.bookmarksHandle e = none ↔ s.bookmarks.handle e = none := by
  cases handled : s.bookmarks.handle e <;> simp [bookmarksHandle, handled]

/-- An article that is not managed always opens. -/
theorem openNews_unmanaged (s : Bookmarks) (news : News) : s.openNews (.unmanaged news) ≠ none := by
  simp [Bookmarks.openNews, getNewsDetailViewModel, NewsObject.urlNews]

theorem didSelectItemAt_eq_none_iff {row : Nat} :
    s.didSelectItemAt row = none ↔ s.search.viewModel.searchItems.length ≤ row := by
  unfold didSelectItemAt
  rw [← List.getElem?_eq_none_iff]
  cases s.search.viewModel.searchItems[row]? with
  | none => simp
  | some news =>
    simp only [Option.bind_eq_bind, Option.bind_some, bookmarksHandle_eq_none_iff, reduceCtorEq,
      iff_false]
    exact openNews_unmanaged s.bookmarks news

end Scene

end NewsReader
