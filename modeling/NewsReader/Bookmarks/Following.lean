import NewsReader.Bookmarks.Screens

/-!
# A Bookmarks list after its notification

A list fetches again when it is told of a change, and an empty result leaves it as
it is. So it follows the store in every run in which a list that shows anything is
told only while its category has an article left (`articles_follow_store`).
-/

namespace NewsReader

namespace FavoritesDetailViewModel

/-- The list shows the stored articles of its category, each once and none deleted. -/
structure Follows (m : RealmManager) (vm : FavoritesDetailViewModel) : Prop where
  once : vm.articles.Nodup
  stored : ∀ a, a ∈ vm.articles ↔ ∃ row ∈ m.storedNews,
    row.record.categoryNews = some vm.categoryType.param ∧ row.accessor = a
  attached : ∀ a ∈ vm.articles, m.getObjectForKey a.urlNews = some a

/-- The list shows nothing, or an article of its category is stored. -/
def Refetched (m : RealmManager) (vm : FavoritesDetailViewModel) : Prop :=
  vm.articles = [] ∨ ∃ row ∈ m.storedNews,
    row.record.categoryNews = some vm.categoryType.param

instance (m : RealmManager) (vm : FavoritesDetailViewModel) : Decidable (Refetched m vm) :=
  inferInstanceAs (Decidable (_ ∨ _))

variable {m : RealmManager} {vm : FavoritesDetailViewModel}

/-- What a fetch of the whole category shows. -/
theorem follows_fetched (m : RealmManager) (categoryType : CategoryType) :
    Follows m ⟨categoryType, m.getNewsForCategoryInRealm categoryType.param⟩ where
  once := m.nodup_getNewsForCategory categoryType.param
  stored _ := RealmManager.mem_getNewsForCategory
  attached a mem := by
    obtain ⟨row, stored, -, rfl⟩ := RealmManager.mem_getNewsForCategory.mp mem
    exact RealmManager.getObjectForKey_stored stored

/-- **One fetch.** It brings the list up to date exactly when it does not fail over
articles that are shown. -/
theorem follows_fetchData_iff : Follows m (vm.fetchData m).1 ↔ Refetched m vm := by
  obtain ⟨categoryType, articles⟩ := vm
  have found : m.getNewsForCategoryInRealm categoryType.param ≠ [] ↔
      ∃ row ∈ m.storedNews, row.record.categoryNews = some categoryType.param := by
    constructor
    · intro some
      obtain ⟨a, mem⟩ := List.exists_mem_of_ne_nil _ some
      obtain ⟨row, stored, tagged, -⟩ := RealmManager.mem_getNewsForCategory.mp mem
      exact ⟨row, stored, tagged⟩
    · rintro ⟨row, stored, tagged⟩
      exact List.ne_nil_of_mem (RealmManager.mem_getNewsForCategory.mpr ⟨row, stored, tagged, rfl⟩)
  have fetched := follows_fetched m categoryType
  unfold fetchData
  rw [Refetched, ← found]
  cases result : m.getNewsForCategoryInRealm categoryType.param with
  | cons a rest =>
    rw [result] at fetched
    simp [fetched]
  | nil =>
    rw [result] at fetched
    simp only [List.isEmpty_nil, ↓reduceIte, ne_eq, not_true_eq_false, or_false]
    constructor
    · intro follows
      apply List.eq_nil_iff_forall_not_mem.mpr
      intro a shown
      have stored := (fetched.stored a).mpr ((follows.stored a).mp shown)
      cases stored
    · rintro rfl
      exact fetched

end FavoritesDetailViewModel

namespace Bookmarks

open FavoritesDetailViewModel

/-- A list that shows articles is told of a change only while its category has some. -/
def Refetches (s : Bookmarks) : BookmarkEvent → Prop
  | .notify list => ∀ vm ∈ s.favoritesDetails[list]?, Refetched s.manager vm
  | _ => True

instance (s : Bookmarks) : (e : BookmarkEvent) → Decidable (Refetches s e)
  | .notify list =>
    inferInstanceAs (Decidable (∀ vm ∈ s.favoritesDetails[list]?, Refetched s.manager vm))
  | .openFromHome _ | .openFromSearch _ | .openCategory _ | .openBookmark _ _
  | .changeBookMark _ _ | .deleteNews _ _ _ | .deleteArticles _ _ _ | .closeDetail _
  | .closeList _ => .isTrue trivial

/-- For each open list, whether it has handled a notification since the last write. -/
def notified (_ : Bookmarks) : BookmarkEvent → List Bool → List Bool
  | .notify list, told => told.set list true
  | .openCategory _, told => told ++ [false]
  | .closeList list, told => told.eraseIdx list
  | .changeBookMark _ _, told | .deleteNews _ _ _, told | .deleteArticles _ _ _, told =>
    told.map fun _ => false
  | .openFromHome _, told | .openFromSearch _, told | .openBookmark _ _, told
  | .closeDetail _, told => told

/-- Every list that was told since the last write shows what is stored. -/
structure Followed (s : Bookmarks) (told : List Bool) : Prop where
  length : told.length = s.favoritesDetails.length
  follows : ∀ (list : Nat) vm, told[list]? = some true → s.favoritesDetails[list]? = some vm →
    Follows s.manager vm

section Steps

variable {s t : Bookmarks} {told : List Bool} {list : Nat}

/-- After a write no list counts as told. -/
theorem followed_written (h : Followed s told)
    (same : t.favoritesDetails.length = s.favoritesDetails.length) :
    Followed t (told.map fun _ => false) where
  length := by rw [List.length_map, h.length, same]
  follows list vm yes _ := by
    obtain ⟨_, -, no⟩ := List.mem_map.mp (List.mem_of_getElem? yes)
    cases no

theorem followed_frame (h : Followed s told) (manager : t.manager = s.manager)
    (lists : t.favoritesDetails = s.favoritesDetails) : Followed t told where
  length := by rw [h.length, lists]
  follows list vm yes shown := by
    rw [manager]
    exact h.follows list vm yes (lists ▸ shown)

theorem followed_openCategory (h : Followed s told) {category : CategoryType}
    (stepped : s.openCategory category = some t) : Followed t (told ++ [false]) := by
  obtain ⟨-, rfl⟩ := openCategory_some stepped
  refine ⟨by simp [h.length], fun list vm yes shown => ?_⟩
  have old : list < told.length := by
    by_contra new
    rw [List.getElem?_append_right (by omega)] at yes
    have no := List.mem_singleton.mp (List.mem_of_getElem? yes)
    cases no
  have old' : list < s.favoritesDetails.length := h.length ▸ old
  rw [List.getElem?_append_left old] at yes
  rw [List.getElem?_append_left old'] at shown
  exact h.follows list vm yes shown

theorem followed_closeList (h : Followed s told) (list : Nat) :
    Followed { s with favoritesDetails := s.favoritesDetails.eraseIdx list }
      (told.eraseIdx list) where
  length := by simp only [List.length_eraseIdx, h.length]
  follows other vm yes shown := by
    rw [List.getElem?_eraseIdx] at yes shown
    split at shown
    · rename_i before
      rw [if_pos before] at yes
      exact h.follows other vm yes shown
    · rename_i after
      rw [if_neg after] at yes
      exact h.follows (other + 1) vm yes shown

theorem followed_notify (h : Followed s told) (refetches : Refetches s (.notify list))
    (stepped : s.notify list = some t) : Followed t (told.set list true) := by
  obtain ⟨vm, found, rfl⟩ := notify_some stepped
  refine ⟨by simp only [List.length_set, h.length], fun other vm' yes shown => ?_⟩
  by_cases same : list = other
  · subst same
    have inside : list < s.favoritesDetails.length := (List.getElem?_eq_some_iff.mp found).1
    rw [List.getElem?_set_self inside] at shown
    obtain rfl := Option.some.inj shown
    exact follows_fetchData_iff.mpr (refetches vm found)
  · rw [List.getElem?_set_ne same] at yes shown
    exact h.follows other vm' yes shown

/-- **One event.** Where a notification is not a failed fetch over articles that are
shown, the lists that were told show what is stored. -/
theorem followed_step {e : BookmarkEvent} (h : Followed s told) (refetches : Refetches s e)
    (stepped : s.handle e = some t) : Followed t (notified s e told) := by
  cases e with
  | openFromHome news | openFromSearch news =>
    obtain ⟨_, -, rfl⟩ := openNews_some stepped
    exact followed_frame h rfl rfl
  | openBookmark list row =>
    obtain ⟨_, opened⟩ := openBookmark_some stepped
    obtain ⟨_, -, rfl⟩ := openNews_some opened
    exact followed_frame h rfl rfl
  | openCategory category => exact followed_openCategory h stepped
  | changeBookMark detail commit =>
    obtain ⟨_, _, _, _, -, -, rfl⟩ := changeBookMark_some stepped
    exact followed_written h rfl
  | deleteNews list row commit =>
    obtain ⟨_, _, _, -, -, -, -, lists⟩ := deleteNews_some stepped
    exact followed_written h lists
  | deleteArticles list rows commit =>
    obtain ⟨_, _, _, -, -, -, -, lists⟩ := deleteArticles_some stepped
    exact followed_written h lists
  | notify list => exact followed_notify h refetches stepped
  | closeDetail detail =>
    obtain rfl := Option.some.inj stepped
    exact followed_frame h rfl rfl
  | closeList list =>
    obtain rfl := Option.some.inj stepped
    exact followed_closeList h list

end Steps

/-- **Bookmarks lists follow the store** in every run in which no list that shows
articles is told that its category has none. A notification that tells one so leaves
it showing articles that are deleted. -/
theorem articles_follow_store (s : Bookmarks) (told : List Bool) :
    (((machine.given Refetches).observed notified).Reachable
        (fun p => Launched p.1 ∧ p.2 = []) (s, told) → Followed s told) ∧
    (∀ list t, s.handle (.notify list) = some t →
      ((∀ vm, t.favoritesDetails[list]? = some vm → Follows t.manager vm) ↔
        Refetches s (.notify list))) := by
  constructor
  · intro reached
    apply reached.invariant (fun p => Followed p.1 p.2)
    · rintro ⟨s, told⟩ ⟨⟨-, none, -⟩, rfl⟩
      exact ⟨congrArg List.length none.symm, nofun⟩
    · rintro ⟨s, told⟩ e ⟨t, told'⟩ - h ⟨-, refetches⟩ stepped
      obtain ⟨handled, rfl⟩ := Machine.observed_step.mp stepped
      exact followed_step h refetches handled
  · intro list t stepped
    obtain ⟨vm, found, rfl⟩ := notify_some stepped
    have inside : list < s.favoritesDetails.length := (List.getElem?_eq_some_iff.mp found).1
    simp only [List.getElem?_set_self inside, Refetches, found, Option.mem_def,
      Option.some.injEq, forall_eq', follows_fetchData_iff]

/-- The list of a category with one article, told once. -/
def listTold : List BookmarkEvent :=
  [.openFromHome homeArticle, .changeBookMark 0 .succeeds, .openCategory .us, .notify 0]

def toldOnce : Bookmarks × List Bool :=
  (((machine.given Refetches).observed notified).run (emptyStore, []) listTold).getD
    (emptyStore, [])

theorem toldOnce_reachable : ((machine.given Refetches).observed notified).Reachable
    (fun p => Launched p.1 ∧ p.2 = []) toldOnce :=
  Machine.reachable_getD _ ⟨emptyStore_launched, rfl⟩ (by decide)

theorem articles_follow_store_told :
    toldOnce.1.favoritesDetails = [⟨.us, [⟨0, homeArticle.urlNews⟩]⟩] ∧
    ∀ vm, toldOnce.1.favoritesDetails[0]? = some vm → Follows toldOnce.1.manager vm := by
  have follows := (articles_follow_store toldOnce.1 toldOnce.2).1 toldOnce_reachable
  exact ⟨by decide, fun vm => follows.follows 0 vm (by decide)⟩

/-- The only bookmark of a category is opened from its list and removed there. -/
def lastRemoved : List BookmarkEvent :=
  listTold ++ [.openBookmark 0 0, .changeBookMark 1 .succeeds, .notify 0]

def listStale : Bookmarks × List Bool :=
  ((machine.observed notified).run (emptyStore, []) lastRemoved).getD (emptyStore, [])

theorem listStale_reachable : (machine.observed notified).Reachable
    (fun p => Launched p.1 ∧ p.2 = []) listStale :=
  Machine.reachable_getD _ ⟨emptyStore_launched, rfl⟩ (by decide)

theorem emptied_category_still_listed :
    ¬ ∀ s told, (machine.observed notified).Reachable
      (fun p => Launched p.1 ∧ p.2 = []) (s, told) → Followed s told := by
  intro followed
  have shown : listStale.1.favoritesDetails[0]? = some ⟨.us, [⟨0, homeArticle.urlNews⟩]⟩ := by
    decide
  have follows := (followed _ _ listStale_reachable).follows 0 _ (by decide) shown
  have attached := follows.attached _ List.mem_cons_self
  revert attached
  decide

end Bookmarks

end NewsReader
