import NewsReader.Machine
import NewsReader.Realm

/-!
# Bookmarks and the screens that change them

The shared store with the article screens and Bookmarks lists that are open on
it, in any number and in any tabs. Each screen keeps a copy of what it read when
it was opened.
-/

namespace NewsReader

structure NewsDetailViewModel where
  news : NewsObject
  isFavorited : Bool := false
  deriving DecidableEq, Repr

structure FavoritesDetailViewModel where
  categoryType : CategoryType
  articles : List Accessor := []
  deriving DecidableEq, Repr

/-- `getNewsDetailViewModel(at:)` of the three lists that open an article. -/
def getNewsDetailViewModel (m : RealmManager) (news : NewsObject) : Option NewsDetailViewModel := do
  let urlNews ← news.urlNews m
  return { news, isFavorited := m.isRealmContainsObject urlNews }

namespace NewsDetailViewModel

variable (m : RealmManager) (vm : NewsDetailViewModel) (commit : Commit)

def addNewsInFavorites : Option (RealmManager × NewsDetailViewModel × Completions) := do
  let (m, completions) ← m.addObject vm.news commit
  return (m, if completions.any (·.1) then { vm with isFavorited := true } else vm, completions)

def removeNewsInFavorites : Option (RealmManager × NewsDetailViewModel × Completions) := do
  let urlNews ← vm.news.urlNews m
  let (m, completions) ← m.deleteObject urlNews commit
  return (m, if completions.any (·.1) then { vm with isFavorited := false } else vm, completions)

/-- A tap on the bookmark button. -/
def changeBookMark : Option (RealmManager × NewsDetailViewModel × Completions) :=
  if vm.isFavorited then vm.removeNewsInFavorites m commit
  else vm.addNewsInFavorites m commit

variable {realm : Realm} {news : NewsObject} {a : Accessor}

/-- The tap that adds what the screen holds. -/
theorem changeBookMark_add (outside : realm.isInWriteTransaction = false) (news : NewsObject)
    (commit : Commit) : changeBookMark ⟨some realm⟩ ⟨news, false⟩ commit =
      some (⟨some ((realm.create news).commitWrite commit)⟩, ⟨news, true⟩,
        (true, "") :: commit.completions) := by
  simp [changeBookMark, addNewsInFavorites, RealmManager.addObject, RealmManager.write, outside]

/-- The tap that removes a stored article. -/
theorem changeBookMark_remove (outside : realm.isInWriteTransaction = false)
    (readable : news.Readable ⟨some realm⟩)
    (stored : realm.objectForPrimaryKey news.key = some a) (commit : Commit) :
    changeBookMark ⟨some realm⟩ ⟨news, true⟩ commit =
      some (⟨some ((realm.delete a).commitWrite commit)⟩, ⟨news, false⟩,
        (true, "") :: commit.completions) := by
  have read : news.urlNews ⟨some realm⟩ = some news.key :=
    NewsObject.urlNews_eq_some_iff.mpr ⟨rfl, readable⟩
  simp [changeBookMark, removeNewsInFavorites, read,
    RealmManager.deleteObject_of_object outside stored]

end NewsDetailViewModel

namespace FavoritesDetailViewModel

variable (m : RealmManager) (vm : FavoritesDetailViewModel)

/-- An empty result leaves the articles as they are. -/
def fetchData : FavoritesDetailViewModel × Bool × String :=
  let articles := m.getNewsForCategoryInRealm vm.categoryType.param
  if articles.isEmpty then (vm, false, "No articles!") else ({ vm with articles }, true, "")

def removeNewsInFavorites (row : Nat) (commit : Commit) :
    Option (RealmManager × FavoritesDetailViewModel × Completions) := do
  let news ← vm.articles[row]?
  let urlNews ← (NewsObject.managed news).urlNews m
  let (m, completions) ← m.deleteObject urlNews commit
  let vm := if completions.any (·.1) then { vm with articles := vm.articles.eraseIdx row } else vm
  return (m, vm, completions)

/-- An article without a url is looked up under "No url". -/
def removeArticlesInFavorites (articles : List Accessor) (commit : Commit) :
    Option (RealmManager × FavoritesDetailViewModel × Completions) := do
  let keys ← articles.mapM fun news => (NewsObject.managed news).urlNews m
  let _ ← articles[0]?
  let (m, completions) ← m.deleteObjects (keys.map fun key => some (key.getD "No url")) commit
  let vm :=
    if completions.any (·.1) then { vm with articles := articles.foldl List.erase vm.articles }
    else vm
  return (m, vm, completions)

end FavoritesDetailViewModel

structure Bookmarks where
  manager : RealmManager
  newsDetails : List NewsDetailViewModel := []
  favoritesDetails : List FavoritesDetailViewModel := []
  deriving DecidableEq

/-- What happens to bookmarks from outside. Screens are named by their position
among those open; `notify` is a change notification that reaches a list. None is taken
to be pending as a write begins, where it would reach the list inside the write. -/
inductive BookmarkEvent
  | openFromHome (news : News)
  | openFromSearch (news : News)
  | openCategory (category : CategoryType)
  | openBookmark (list row : Nat)
  | changeBookMark (detail : Nat) (commit : Commit)
  | deleteNews (list row : Nat) (commit : Commit)
  | deleteArticles (list : Nat) (rows : List Nat) (commit : Commit)
  | notify (list : Nat)
  | closeDetail (detail : Nat)
  | closeList (list : Nat)
  deriving DecidableEq, Repr

/-- The commit of the write that the event makes. -/
def BookmarkEvent.commit : BookmarkEvent → Option Commit
  | changeBookMark _ commit | deleteNews _ _ commit | deleteArticles _ _ commit => some commit
  | _ => none

namespace Bookmarks

section Handlers

variable (s : Bookmarks)

def openNews (news : NewsObject) : Option Bookmarks := do
  let vm ← getNewsDetailViewModel s.manager news
  return { s with newsDetails := s.newsDetails ++ [vm] }

/-- A row of the Bookmarks tab: the list fetches as its view loads, and observes the
store, which raises an exception while a write is open. -/
def openCategory (category : CategoryType) : Option Bookmarks :=
  let vm := (FavoritesDetailViewModel.fetchData s.manager { categoryType := category }).1
  if s.manager.isInWriteTransaction then none
  else some { s with favoritesDetails := s.favoritesDetails ++ [vm] }

def openBookmark (list row : Nat) : Option Bookmarks := do
  let vm ← s.favoritesDetails[list]?
  let news ← vm.articles[row]?
  s.openNews (.managed news)

def changeBookMark (detail : Nat) (commit : Commit) : Option Bookmarks := do
  let vm ← s.newsDetails[detail]?
  let (manager, vm, _) ← vm.changeBookMark s.manager commit
  return { s with manager, newsDetails := s.newsDetails.set detail vm }

def deleteNews (list row : Nat) (commit : Commit) : Option Bookmarks := do
  let vm ← s.favoritesDetails[list]?
  let (manager, vm, _) ← vm.removeNewsInFavorites s.manager row commit
  return { s with manager, favoritesDetails := s.favoritesDetails.set list vm }

def deleteArticles (list : Nat) (rows : List Nat) (commit : Commit) : Option Bookmarks := do
  let vm ← s.favoritesDetails[list]?
  let articles ← rows.mapM fun row => vm.articles[row]?
  let (manager, vm, _) ← vm.removeArticlesInFavorites s.manager articles commit
  return { s with manager, favoritesDetails := s.favoritesDetails.set list vm }

def notify (list : Nat) : Option Bookmarks := do
  let vm ← s.favoritesDetails[list]?
  return { s with favoritesDetails := s.favoritesDetails.set list (vm.fetchData s.manager).1 }

def handle : BookmarkEvent → Option Bookmarks
  | .openFromHome news => s.openNews (.unmanaged news)
  | .openFromSearch news => s.openNews (.unmanaged news)
  | .openCategory category => s.openCategory category
  | .openBookmark list row => s.openBookmark list row
  | .changeBookMark detail commit => s.changeBookMark detail commit
  | .deleteNews list row commit => s.deleteNews list row commit
  | .deleteArticles list rows commit => s.deleteArticles list rows commit
  | .notify list => s.notify list
  | .closeDetail detail => some { s with newsDetails := s.newsDetails.eraseIdx detail }
  | .closeList list => some { s with favoritesDetails := s.favoritesDetails.eraseIdx list }

end Handlers

/-- Home shows articles tagged with a category, and Search shows them as they are
decoded, with none. While a write is open nothing is notified. -/
def Allowed (s : Bookmarks) : BookmarkEvent → Prop
  | .openFromHome news => ∃ c ∈ CategoryType.allCases, news.categoryNews = some c.param
  | .openFromSearch news => news.categoryNews = none
  | .openCategory _ => True
  | .openBookmark list _ => list < s.favoritesDetails.length
  | .changeBookMark detail _ => detail < s.newsDetails.length
  | .deleteNews list _ _ => list < s.favoritesDetails.length
  | .deleteArticles list rows _ => list < s.favoritesDetails.length ∧ rows ≠ [] ∧ rows.Nodup
  | .notify list => list < s.favoritesDetails.length ∧ s.manager.isInWriteTransaction = false
  | .closeDetail detail => detail < s.newsDetails.length
  | .closeList list => list < s.favoritesDetails.length

instance (s : Bookmarks) : (e : BookmarkEvent) → Decidable (s.Allowed e)
  | .openFromHome news =>
    inferInstanceAs (Decidable (∃ c ∈ CategoryType.allCases, news.categoryNews = some c.param))
  | .openFromSearch news => inferInstanceAs (Decidable (news.categoryNews = none))
  | .openCategory _ => .isTrue trivial
  | .openBookmark list _ | .deleteNews list _ _ | .closeList list =>
    inferInstanceAs (Decidable (list < s.favoritesDetails.length))
  | .notify list => inferInstanceAs (Decidable (
    list < s.favoritesDetails.length ∧ s.manager.isInWriteTransaction = false))
  | .changeBookMark detail _ | .closeDetail detail =>
    inferInstanceAs (Decidable (detail < s.newsDetails.length))
  | .deleteArticles list rows _ => inferInstanceAs (Decidable (
    list < s.favoritesDetails.length ∧ rows ≠ [] ∧ rows.Nodup))

/-- Bookmarks as a machine: its runs interleave the screens in any order, and end
at a trap. -/
def machine : Machine Bookmarks BookmarkEvent where
  allowed := Allowed
  step := handle

instance (s : Bookmarks) (e : BookmarkEvent) : Decidable (machine.allowed s e) :=
  inferInstanceAs (Decidable (s.Allowed e))

/-- The app as it starts: any store, and no screen and no write open on it. -/
def Launched (s : Bookmarks) : Prop :=
  s.newsDetails = [] ∧ s.favoritesDetails = [] ∧ s.manager.isInWriteTransaction = false

/-! ## What a handler does -/

section Inversion

variable {s t : Bookmarks}

theorem openNews_some {news : NewsObject} (stepped : s.openNews news = some t) :
    ∃ urlNews, news.urlNews s.manager = some urlNews ∧
      t = { s with newsDetails :=
        s.newsDetails ++ [⟨news, s.manager.isRealmContainsObject urlNews⟩] } := by
  simp only [openNews, getNewsDetailViewModel, Option.bind_eq_bind, Option.bind_eq_some_iff,
    Option.pure_def, Option.some.injEq] at stepped
  obtain ⟨vm, ⟨urlNews, read, rfl⟩, rfl⟩ := stepped
  exact ⟨urlNews, read, rfl⟩

theorem openCategory_some {category : CategoryType} (stepped : s.openCategory category = some t) :
    s.manager.isInWriteTransaction = false ∧
      t = { s with favoritesDetails := s.favoritesDetails ++
        [(FavoritesDetailViewModel.fetchData s.manager { categoryType := category }).1] } := by
  unfold openCategory at stepped
  split at stepped
  · cases stepped
  · rename_i outside
    exact ⟨by simpa using outside, (Option.some.inj stepped).symm⟩

theorem openBookmark_some {list row : Nat} (stepped : s.openBookmark list row = some t) :
    ∃ a, s.openNews (.managed a) = some t := by
  simp only [openBookmark, Option.bind_eq_bind, Option.bind_eq_some_iff] at stepped
  obtain ⟨vm, -, a, -, opened⟩ := stepped
  exact ⟨a, opened⟩

theorem changeBookMark_some {detail : Nat} {commit : Commit}
    (stepped : s.changeBookMark detail commit = some t) :
    ∃ vm m vm' completions, s.newsDetails[detail]? = some vm ∧
      vm.changeBookMark s.manager commit = some (m, vm', completions) ∧
      t = { s with manager := m, newsDetails := s.newsDetails.set detail vm' } := by
  simp only [changeBookMark, Option.bind_eq_bind, Option.bind_eq_some_iff, Option.pure_def,
    Option.some.injEq] at stepped
  obtain ⟨vm, found, ⟨m, vm', completions⟩, tapped, rfl⟩ := stepped
  exact ⟨vm, m, vm', completions, found, tapped, rfl⟩

/-- A tap keeps the article of its screen. -/
theorem news_of_changeBookMark {m m' : RealmManager} {vm vm' : NewsDetailViewModel}
    {commit : Commit} {completions : Completions}
    (tapped : vm.changeBookMark m commit = some (m', vm', completions)) : vm'.news = vm.news := by
  cases flag : vm.isFavorited with
  | true =>
    simp only [NewsDetailViewModel.changeBookMark, flag, ↓reduceIte,
      NewsDetailViewModel.removeNewsInFavorites, Option.bind_eq_bind, Option.bind_eq_some_iff,
      Option.pure_def, Option.some.injEq, Prod.mk.injEq] at tapped
    obtain ⟨_, -, _, -, -, rfl, -⟩ := tapped
    split <;> rfl
  | false =>
    simp only [NewsDetailViewModel.changeBookMark, flag, Bool.false_eq_true, ↓reduceIte,
      NewsDetailViewModel.addNewsInFavorites, Option.bind_eq_bind, Option.bind_eq_some_iff,
      Option.pure_def, Option.some.injEq, Prod.mk.injEq] at tapped
    obtain ⟨_, -, -, rfl, -⟩ := tapped
    split <;> rfl

/-- Reading a managed article's key gives the key it was stored under. -/
theorem urlNews_managed {m : RealmManager} {a : Accessor} {key : Option String}
    (read : (NewsObject.managed a).urlNews m = some key) : key = a.urlNews :=
  (NewsObject.urlNews_eq_some_iff.mp read).1

theorem keys_of_articles {m : RealmManager} {articles : List Accessor} {keys : List (Option String)}
    (read : (articles.mapM fun news => (NewsObject.managed news).urlNews m) = some keys) :
    keys = articles.map (·.urlNews) := by
  induction articles generalizing keys with
  | nil => exact (Option.some.inj read).symm
  | cons a articles ih =>
    simp only [List.mapM_cons, Option.bind_eq_bind, Option.bind_eq_some_iff, Option.pure_def,
      Option.some.injEq] at read
    obtain ⟨key, first, rest, others, rfl⟩ := read
    rw [urlNews_managed first, ih others, List.map_cons]

theorem deleteNews_some {list row : Nat} {commit : Commit}
    (stepped : s.deleteNews list row commit = some t) :
    ∃ vm a completions, s.favoritesDetails[list]? = some vm ∧ vm.articles[row]? = some a ∧
      s.manager.deleteObject a.urlNews commit = some (t.manager, completions) ∧
      t.newsDetails = s.newsDetails ∧
      t.favoritesDetails.length = s.favoritesDetails.length := by
  simp only [deleteNews, FavoritesDetailViewModel.removeNewsInFavorites, Option.bind_eq_bind,
    Option.bind_eq_some_iff, Option.pure_def, Option.some.injEq] at stepped
  obtain ⟨vm, found, _, ⟨a, shown, key, read, ⟨m, completions⟩, wrote, rfl⟩, rfl⟩ := stepped
  exact ⟨vm, a, completions, found, shown, urlNews_managed read ▸ wrote, rfl, List.length_set⟩

theorem deleteArticles_some {list : Nat} {rows : List Nat} {commit : Commit}
    (stepped : s.deleteArticles list rows commit = some t) :
    ∃ (vm : FavoritesDetailViewModel) (articles : List Accessor) (completions : Completions),
      s.favoritesDetails[list]? = some vm ∧
      (rows.mapM fun row => vm.articles[row]?) = some articles ∧
      s.manager.deleteObjects (articles.map fun a => some (a.urlNews.getD "No url")) commit =
        some (t.manager, completions) ∧
      t.newsDetails = s.newsDetails ∧
      t.favoritesDetails.length = s.favoritesDetails.length := by
  simp only [deleteArticles, FavoritesDetailViewModel.removeArticlesInFavorites,
    Option.bind_eq_bind, Option.bind_eq_some_iff, Option.pure_def, Option.some.injEq] at stepped
  obtain ⟨vm, found, articles, selected, _, ⟨keys, read, _, -, ⟨m, completions⟩, wrote, rfl⟩,
    rfl⟩ := stepped
  refine ⟨vm, articles, completions, found, selected, ?_, rfl, List.length_set⟩
  rw [keys_of_articles read, List.map_map] at wrote
  exact wrote

theorem notify_some {list : Nat} (stepped : s.notify list = some t) :
    ∃ vm, s.favoritesDetails[list]? = some vm ∧
      t = { s with favoritesDetails :=
        s.favoritesDetails.set list (vm.fetchData s.manager).1 } := by
  simp only [notify, Option.bind_eq_bind, Option.bind_eq_some_iff, Option.pure_def,
    Option.some.injEq] at stepped
  obtain ⟨vm, found, rfl⟩ := stepped
  exact ⟨vm, found, rfl⟩

/-- A tap on the bookmark button is one write. -/
theorem write_of_changeBookMark {m m' : RealmManager} {vm vm' : NewsDetailViewModel}
    {commit : Commit} {completions : Completions}
    (tapped : vm.changeBookMark m commit = some (m', vm', completions)) :
    ∃ change, m.write commit change = some (m', completions) := by
  cases flag : vm.isFavorited with
  | true =>
    simp only [NewsDetailViewModel.changeBookMark, flag, ↓reduceIte,
      NewsDetailViewModel.removeNewsInFavorites, Option.bind_eq_bind, Option.bind_eq_some_iff,
      Option.pure_def, Option.some.injEq, Prod.mk.injEq] at tapped
    obtain ⟨_, -, ⟨m, completions⟩, wrote, rfl, -, rfl⟩ := tapped
    exact ⟨_, wrote⟩
  | false =>
    simp only [NewsDetailViewModel.changeBookMark, flag, Bool.false_eq_true, ↓reduceIte,
      NewsDetailViewModel.addNewsInFavorites, Option.bind_eq_bind, Option.bind_eq_some_iff,
      Option.pure_def, Option.some.injEq, Prod.mk.injEq] at tapped
    obtain ⟨⟨m, completions⟩, wrote, rfl, -, rfl⟩ := tapped
    exact ⟨_, wrote⟩

/-- **An event writes once or not at all.** -/
theorem handle_manager {e : BookmarkEvent} (stepped : s.handle e = some t) :
    (e.commit = none ∧ t.manager = s.manager) ∨
    ∃ commit change completions, e.commit = some commit ∧
      s.manager.write commit change = some (t.manager, completions) := by
  cases e with
  | openFromHome news | openFromSearch news =>
    obtain ⟨_, -, rfl⟩ := openNews_some stepped
    exact Or.inl ⟨rfl, rfl⟩
  | openBookmark list row =>
    obtain ⟨_, opened⟩ := openBookmark_some stepped
    obtain ⟨_, -, rfl⟩ := openNews_some opened
    exact Or.inl ⟨rfl, rfl⟩
  | openCategory category =>
    obtain ⟨-, rfl⟩ := openCategory_some stepped
    exact Or.inl ⟨rfl, rfl⟩
  | changeBookMark detail commit =>
    obtain ⟨_, _, _, completions, -, tapped, rfl⟩ := changeBookMark_some stepped
    obtain ⟨change, wrote⟩ := write_of_changeBookMark tapped
    exact Or.inr ⟨commit, change, completions, rfl, wrote⟩
  | deleteNews list row commit =>
    obtain ⟨_, _, completions, -, -, wrote, -⟩ := deleteNews_some stepped
    exact Or.inr ⟨commit, _, completions, rfl, wrote⟩
  | deleteArticles list rows commit =>
    obtain ⟨_, _, completions, -, -, wrote, -⟩ := deleteArticles_some stepped
    simp only [RealmManager.deleteObjects] at wrote
    exact Or.inr ⟨commit, _, completions, rfl, wrote⟩
  | notify list =>
    obtain ⟨_, -, rfl⟩ := notify_some stepped
    exact Or.inl ⟨rfl, rfl⟩
  | closeDetail | closeList =>
    obtain rfl := Option.some.inj stepped
    exact Or.inl ⟨rfl, rfl⟩

/-- An article that is open and not managed was open before, or has been opened. -/
theorem details_handle {e : BookmarkEvent} (stepped : s.handle e = some t)
    {vm : NewsDetailViewModel} (mem : vm ∈ t.newsDetails) {news : News}
    (shown : vm.news = .unmanaged news) :
    (∃ old ∈ s.newsDetails, old.news = .unmanaged news) ∨ e = .openFromHome news ∨
      e = .openFromSearch news := by
  have opened {object : NewsObject} (stepped : s.openNews object = some t) :
      (∃ old ∈ s.newsDetails, old.news = .unmanaged news) ∨ object = .unmanaged news := by
    obtain ⟨_, -, rfl⟩ := openNews_some stepped
    obtain before | new := List.mem_append.mp mem
    · exact Or.inl ⟨vm, before, shown⟩
    · obtain rfl := List.mem_singleton.mp new
      exact Or.inr shown
  cases e with
  | openFromHome other =>
    obtain before | same := opened stepped
    · exact Or.inl before
    · exact Or.inr (Or.inl (NewsObject.unmanaged.inj same ▸ rfl))
  | openFromSearch other =>
    obtain before | same := opened stepped
    · exact Or.inl before
    · exact Or.inr (Or.inr (NewsObject.unmanaged.inj same ▸ rfl))
  | openBookmark list row =>
    obtain ⟨a, stepped⟩ := openBookmark_some stepped
    obtain before | other := opened stepped
    · exact Or.inl before
    · cases other
  | changeBookMark detail commit =>
    obtain ⟨old, _, vm', _, found, tapped, rfl⟩ := changeBookMark_some stepped
    obtain before | rfl := List.mem_or_eq_of_mem_set mem
    · exact Or.inl ⟨vm, before, shown⟩
    · exact Or.inl ⟨old, List.mem_of_getElem? found, news_of_changeBookMark tapped ▸ shown⟩
  | deleteNews list row commit =>
    obtain ⟨_, _, _, -, -, -, same, -⟩ := deleteNews_some stepped
    exact Or.inl ⟨vm, same ▸ mem, shown⟩
  | deleteArticles list rows commit =>
    obtain ⟨_, _, _, -, -, -, same, -⟩ := deleteArticles_some stepped
    exact Or.inl ⟨vm, same ▸ mem, shown⟩
  | notify list =>
    obtain ⟨_, -, rfl⟩ := notify_some stepped
    exact Or.inl ⟨vm, mem, shown⟩
  | closeDetail detail =>
    obtain rfl := Option.some.inj stepped
    exact Or.inl ⟨vm, List.mem_of_mem_eraseIdx mem, shown⟩
  | openCategory category =>
    obtain ⟨-, rfl⟩ := openCategory_some stepped
    exact Or.inl ⟨vm, mem, shown⟩
  | closeList list =>
    obtain rfl := Option.some.inj stepped
    exact Or.inl ⟨vm, mem, shown⟩

end Inversion

/-! ## The Bookmarks tab -/

/-- `FavoritesViewModel.categories`. -/
def categories : List CategoryType := CategoryType.allCases

/-- `getNumberArticlesForCategory(at:)`, for the category of the row. -/
def getNumberArticlesForCategory (m : RealmManager) (c : CategoryType) : Nat :=
  (m.getNewsForCategoryInRealm c.param).length

def isEmtyBookmarks (m : RealmManager) : Bool := m.getObjects.length == 0

/-! ## One article in two tabs -/

/-- The app with nothing stored. -/
def emptyStore : Bookmarks := { manager := ⟨some {}⟩ }

theorem emptyStore_launched : Launched emptyStore := ⟨rfl, rfl, rfl⟩

def searchArticle : News :=
  { titleNews := some "Mars", urlNews := some "https://a.example/mars" }

/-- The same article as Home shows it. -/
def homeArticle : News := { searchArticle with categoryNews := some "general" }

/-- Home's screen of the article, and nothing stored. -/
def homeOpened : Bookmarks :=
  { emptyStore with newsDetails := [⟨.unmanaged homeArticle, false⟩] }

end Bookmarks

end NewsReader
