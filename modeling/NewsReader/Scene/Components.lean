import NewsReader.Home.IndexSafety
import NewsReader.Scene.Scene

/-!
# The screens of a scene

Every run of a scene is, of each of its screens, a run of that screen by itself
(`scene_components`). What is proved of the screens alone so holds where they run
together.
-/

namespace NewsReader

/-! ## Closing every screen -/

namespace Bookmarks

variable {start : Bookmarks → Prop} {s : Bookmarks}

theorem reachable_closeDetails (h : machine.Reachable start s) :
    machine.Reachable start { s with newsDetails := [] } := by
  induction opened : s.newsDetails generalizing s with
  | nil => exact opened ▸ h
  | cons vm rest ih =>
    have closed := h.next (e := .closeDetail 0) (by simp [machine, Allowed, opened]) rfl
    have shut := ih closed (by simp [opened])
    exact shut

theorem reachable_closeLists (h : machine.Reachable start s) :
    machine.Reachable start { s with favoritesDetails := [] } := by
  induction opened : s.favoritesDetails generalizing s with
  | nil => exact opened ▸ h
  | cons vm rest ih =>
    have closed := h.next (e := .closeList 0) (by simp [machine, Allowed, opened]) rfl
    have shut := ih closed (by simp [opened])
    exact shut

/-- The store without its screens, whether a write is open on it or not. -/
theorem reachable_closeAll (h : machine.Reachable start s) :
    machine.Reachable start { manager := s.manager } :=
  reachable_closeLists (reachable_closeDetails h)

end Bookmarks

namespace Scene

variable {Document : Type} {F : Foundation Document}

/-- What an event is to Home. -/
def homeEvent (F : Foundation Document) : SceneEvent Document → Option HomeEvent
  | .home e => some e
  | .homeAnswered r data error => (API.dataTaskDone data error).map fun answer =>
    .respond r (APIManager.topHeadlines F r answer)
  | _ => none

/-- What an event is to Search. -/
def searchEvent (F : Foundation Document) : SceneEvent Document → Option SearchEvent
  | .search e => some e
  | .searchAnswered task data error => (API.dataTaskDone data error).map fun answer =>
    .respond task (APIManager.everything F task answer)
  | _ => none

/-- An article is opened where it is shown. -/
def Opens (s : Scene) : BookmarkEvent → Prop
  | .openFromHome news => ∃ child ∈ s.home.viewControllers, news ∈ child.viewModel.articles
  | .openFromSearch news => news ∈ s.search.viewModel.searchItems
  | e => s.bookmarks.Allowed e

/-- What an event does to the scene: it connects it anew, or moves one part of it. -/
inductive Moved (F : Foundation Document) (s : Scene) (e : SceneEvent Document) : Scene → Prop
  | connected {home : HomeViewController}
      (loaded : HomeViewController.viewDidLoad F.isURL s.home.setting = some home) :
      Moved F s e {
        home
        bookmarks := { manager := s.bookmarks.manager }
        downloader := s.downloader.configImageDataStorage }
  | home {e' : HomeEvent} {home : HomeViewController} (is : homeEvent F e = some e')
      (kept : ¬ HomeViewController.IsSave e') (allowed : s.home.Allowed e')
      (stepped : s.home.handle F.isURL e' = some home) : Moved F s e { s with home }
  | saved {screen : SettingSubTabsViewModel} {home : HomeViewController}
      (shown : s.settingSubTabs = some screen)
      (stepped : s.home.handle F.isURL (.saveSettingSubTabs screen) = some home) :
      Moved F s e
        { s with home, settingSubTabs := some (screen.saveSettingSubTabs s.home.setting).1 }
  | opened : Moved F s e s.settingSubTabsButtonItemTouchUpInside
  | toggled {screen screen' : SettingSubTabsViewModel} {row : Nat}
      (shown : s.settingSubTabs = some screen) (bound : row < screen.categories.length)
      (tapped : screen.checkButtonTouchUpInside row = some screen') :
      Moved F s e { s with settingSubTabs := some screen' }
  | closed : Moved F s e { s with settingSubTabs := none }
  | search {e' : SearchEvent} (is : searchEvent F e = some e') (allowed : s.search.Allowed e') :
      Moved F s e (s.searchHandles F e')
  | bookmarks {e' : BookmarkEvent} {bookmarks : Bookmarks} (opens : s.Opens e')
      (stepped : s.bookmarks.handle e' = some bookmarks) : Moved F s e { s with bookmarks }
  | downloader {e' : DownloadEvent} {downloader : Downloader}
      (stepped : s.downloader.handle e' = some downloader) : Moved F s e { s with downloader }
  | same : Moved F s e s

section

variable {s t : Scene} {e : SceneEvent Document}

theorem moved_home {e' : HomeEvent} (is : homeEvent F e = some e')
    (kept : ¬ HomeViewController.IsSave e') (allowed : s.home.Allowed e')
    (handled : s.homeHandles F e' = some t) : Moved F s e t := by
  obtain ⟨home, stepped, same⟩ := Option.bind_eq_some_iff.mp handled
  obtain rfl := Option.some.inj same
  exact .home is kept allowed stepped

theorem moved_bookmarks {e' : BookmarkEvent} (opens : s.Opens e')
    (handled : s.bookmarksHandle e' = some t) : Moved F s e t := by
  obtain ⟨bookmarks, stepped, same⟩ := Option.bind_eq_some_iff.mp handled
  obtain rfl := Option.some.inj same
  exact .bookmarks opens stepped

/-- **What an event does**, in one of the parts. -/
theorem moved (allowed : s.Allowed e) (stepped : s.handle F e = some t) : Moved F s e t := by
  cases e with
  | willConnectTo =>
    obtain ⟨home, loaded, same⟩ := Option.bind_eq_some_iff.mp stepped
    obtain rfl := Option.some.inj same
    exact .connected loaded
  | didDisconnect =>
    obtain rfl := Option.some.inj stepped
    have cleared : s.downloader.handle .clearImageData = some s.downloader.clearImageData := rfl
    exact .downloader cleared
  | home e =>
    have kept : ¬ HomeViewController.IsSave e := by
      intro saves
      cases e with
      | saveSettingSubTabs screen => cases allowed.1
      | _ => cases saves
    exact moved_home rfl kept allowed.2 stepped
  | homeAnswered r data error =>
    simp only [handle] at stepped
    split at stepped
    · rename_i answer done
      have outstanding : s.home.Allowed (.respond r (APIManager.topHeadlines F r answer)) := allowed
      exact moved_home (by rw [homeEvent, done]; rfl) id outstanding stepped
    · obtain rfl := Option.some.inj stepped
      exact .same
  | settingSubTabsButtonItemTouchUpInside =>
    obtain rfl := Option.some.inj stepped
    exact .opened
  | checkButtonTouchUpInside row =>
    obtain ⟨screen, shown, stepped⟩ := Option.bind_eq_some_iff.mp stepped
    obtain ⟨screen', tapped, same⟩ := Option.bind_eq_some_iff.mp stepped
    obtain rfl := Option.some.inj same
    obtain ⟨_, here, bound⟩ := allowed
    obtain rfl := Option.mem_unique here shown
    exact .toggled shown bound tapped
  | saveSettingSubTabsTouchUpInside =>
    obtain ⟨screen, shown, stepped⟩ := Option.bind_eq_some_iff.mp stepped
    obtain ⟨home, saved, same⟩ := Option.bind_eq_some_iff.mp stepped
    obtain rfl := Option.some.inj same
    exact .saved shown saved
  | closeSettingSubTabs =>
    obtain rfl := Option.some.inj stepped
    exact .closed
  | search e =>
    obtain rfl := Option.some.inj stepped
    exact .search rfl allowed.2
  | searchAnswered task data error =>
    simp only [handle] at stepped
    split at stepped
    · rename_i answer done
      obtain rfl := Option.some.inj stepped
      exact .search (by rw [searchEvent, done]; rfl) allowed
    · obtain rfl := Option.some.inj stepped
      exact .same
  | didSelectRowAt position row =>
    obtain ⟨child, found, stepped⟩ := Option.bind_eq_some_iff.mp stepped
    obtain ⟨news, shown, stepped⟩ := Option.bind_eq_some_iff.mp stepped
    have opens : s.Opens (.openFromHome news) :=
      ⟨child, List.mem_of_getElem? found, List.mem_of_getElem? shown⟩
    exact moved_bookmarks opens stepped
  | didSelectItemAt row =>
    obtain ⟨news, shown, stepped⟩ := Option.bind_eq_some_iff.mp stepped
    have opens : s.Opens (.openFromSearch news) := List.mem_of_getElem? shown
    exact moved_bookmarks opens stepped
  | bookmarks e =>
    have opens : s.Opens e := by
      cases e with
      | openFromHome news | openFromSearch news => cases allowed.1
      | _ => exact allowed.2
    exact moved_bookmarks opens stepped
  | imageDownloaded urlString data =>
    obtain ⟨downloader, saved, same⟩ := Option.bind_eq_some_iff.mp stepped
    obtain rfl := Option.some.inj same
    have handled : s.downloader.handle (.configSaveImage urlString data) = some downloader := saved
    exact .downloader handled

/-! ## Settings -/

/-- A save stores what the screen makes of the settings. -/
theorem setting_of_save {isURL : String → Bool} {home home' : HomeViewController}
    {screen : SettingSubTabsViewModel} (permitted : screen.Permitted)
    (stepped : home.handle isURL (.saveSettingSubTabs screen) = some home') :
    home'.setting = (screen.saveSettingSubTabs home.setting).2.1 := by
  simp only [HomeViewController.handle, HomeViewController.saveSettingSubTabs] at stepped
  cases saved : screen.saveSettingSubTabs home.setting with
  | mk screen' rest =>
    obtain ⟨setting, posted⟩ := rest
    rw [saved] at stepped
    cases posted with
    | false =>
      obtain rfl := Option.some.inj stepped
      rfl
    | true =>
      obtain ⟨chosen, -⟩ := SettingSubTabsViewModel.saveSettingSubTabs_posted saved
      have nonempty : setting.categories ≠ [] := chosen ▸ permitted.selected_ne_nil
      obtain ⟨rebuilt, ran, same, -⟩ :=
        HomeViewController.fetchDataSetting_eq isURL { home with setting } nonempty
      obtain rfl : rebuilt = home' := Option.mem_unique ran stepped
      exact same.setting

/-- The settings screen that is open, with the settings it is open on. -/
def session (s : Scene) : Option SettingSession :=
  s.settingSubTabs.map fun screen => ⟨screen, s.home.setting⟩

/-- Two facts that rest on one another: Home is saved from a screen that has come about
by taps, and that screen is open on the settings of Home. -/
theorem home_and_session (h : (machine F).Reachable (Launched F) s) :
    (HomeViewController.machine F.isURL).Reachable (HomeViewController.Launched F.isURL) s.home ∧
    ∀ session ∈ s.session, SettingSession.machine.Reachable SettingSession.Opened session := by
  apply h.invariant (fun s =>
    (HomeViewController.machine F.isURL).Reachable (HomeViewController.Launched F.isURL) s.home ∧
    ∀ session ∈ s.session, SettingSession.machine.Reachable SettingSession.Opened session)
  · rintro s ⟨closed, -, launched, -, -⟩
    refine ⟨.start launched, ?_⟩
    simp [session, closed]
  · rintro s e t - ⟨home, screens⟩ allowed stepped
    cases moved allowed stepped with
    | connected loaded =>
      refine ⟨.start ⟨_, loaded⟩, ?_⟩
      rintro _ ⟨⟩
    | home is kept ok handled =>
      have setting := HomeViewController.handle_setting (HomeViewController.reachable_aligned home)
        ok kept handled
      refine ⟨home.next ok handled, ?_⟩
      simpa only [session, setting] using screens
    | saved shown saves =>
      have reached := screens _ (by rw [session, shown]; rfl)
      have permitted := SettingSession.reachable_permitted reached
      refine ⟨home.next (e := .saveSettingSubTabs _) permitted saves, ?_⟩
      rintro _ ⟨⟩
      refine reached.next (e := .saveSettingSubTabs) trivial ?_
      rw [setting_of_save permitted saves]
      rfl
    | opened =>
      refine ⟨home, ?_⟩
      rintro _ ⟨⟩
      exact .start ⟨_, rfl⟩
    | toggled shown bound tapped =>
      have reached := screens _ (by rw [session, shown]; rfl)
      refine ⟨home, ?_⟩
      rintro _ ⟨⟩
      refine reached.next (e := .checkButtonTouchUpInside _) bound ?_
      simp only [SettingSession.machine, SettingSession.handle, tapped]
      rfl
    | closed =>
      refine ⟨home, ?_⟩
      rintro _ ⟨⟩
    | search | bookmarks | downloader | same => exact ⟨home, screens⟩

/-! ## Articles -/

/-- A response that is read brings articles as they are decoded. -/
theorem decodes_searchEvent {e' : SearchEvent} (is : searchEvent F e = some e')
    (allowed : s.Allowed e) (search : SearchNewsViewController) :
    search.Decodes F.date e' := by
  cases e with
  | search own =>
    obtain rfl := Option.some.inj is
    cases own with
    | respond task result => cases allowed.1
    | _ => trivial
  | searchAnswered task data error =>
    obtain ⟨answer, -, rfl⟩ := Option.map_eq_some_iff.mp is
    cases read : APIManager.everything F task answer with
    | failure error => trivial
    | success response =>
      intro news mem
      exact APIManager.completion_decoded F.date F.parse F.localizedDescription read mem
  | _ => cases is

theorem search_reachable (h : (machine F).Reachable (Launched F) s) :
    ((SearchNewsViewController.machine F.isURL).given
      (SearchNewsViewController.Decodes F.date)).Reachable (· = {}) s.search := by
  apply h.component (fun s => some s.search) ?_ ?_ rfl
  · rintro s p ⟨-, empty, -⟩ ⟨⟩
    exact empty
  · rintro s e t q - allowed stepped ⟨⟩
    cases moved allowed stepped with
    | connected => exact Or.inl rfl
    | search is ok =>
      exact Or.inr ⟨_, rfl, Or.inr ⟨_, ⟨ok, decodes_searchEvent is allowed s.search⟩, rfl⟩⟩
    | home | saved | opened | toggled | closed | bookmarks | downloader | same =>
      exact Or.inr ⟨_, rfl, Or.inl rfl⟩

/-- Home tags the articles it shows, and Search does not. -/
theorem Opens.allowed (h : (machine F).Reachable (Launched F) s) {e' : BookmarkEvent}
    (opens : s.Opens e') : s.bookmarks.Allowed e' := by
  cases e' with
  | openFromHome news =>
    obtain ⟨child, mem, shown⟩ := opens
    exact Bookmarks.openFromHome_allowed (home_and_session h).1 mem shown s.bookmarks
  | openFromSearch news =>
    exact Bookmarks.openFromSearch_allowed (search_reachable h) opens s.bookmarks
  | _ => exact opens

theorem bookmarks_reachable (h : (machine F).Reachable (Launched F) s) :
    Bookmarks.machine.Reachable Bookmarks.Launched s.bookmarks := by
  apply h.invariant (fun s => Bookmarks.machine.Reachable Bookmarks.Launched s.bookmarks)
  · rintro s ⟨-, -, -, launched, -⟩
    exact .start launched
  · rintro s e t reached bookmarks allowed stepped
    cases moved allowed stepped with
    | connected => exact Bookmarks.reachable_closeAll bookmarks
    | bookmarks opens handled => exact bookmarks.next (opens.allowed reached) handled
    | home | saved | opened | toggled | closed | search | downloader | same => exact bookmarks

theorem downloader_reachable (h : (machine F).Reachable (Launched F) s) :
    Downloader.machine.Reachable Downloader.Configured s.downloader := by
  apply h.component (fun s => some s.downloader) ?_ ?_ rfl
  · rintro s p ⟨-, -, -, -, configured⟩ ⟨⟩
    exact configured
  · rintro s e t q - allowed stepped ⟨⟩
    cases moved allowed stepped with
    | connected => exact Or.inr ⟨_, rfl, Or.inr ⟨.configImageDataStorage, trivial, rfl⟩⟩
    | downloader handled => exact Or.inr ⟨_, rfl, Or.inr ⟨_, trivial, handled⟩⟩
    | home | saved | opened | toggled | closed | search | bookmarks | same =>
      exact Or.inr ⟨_, rfl, Or.inl rfl⟩

/-- **A run of the scene is a run of each of its parts**: of Home, of Search on responses as
they are decoded, of the bookmarks opened from both, of the image cache and of the
settings screen. -/
theorem scene_components (h : (machine F).Reachable (Launched F) s) :
    (HomeViewController.machine F.isURL).Reachable (HomeViewController.Launched F.isURL) s.home ∧
    ((SearchNewsViewController.machine F.isURL).given
      (SearchNewsViewController.Decodes F.date)).Reachable (· = {}) s.search ∧
    Bookmarks.machine.Reachable Bookmarks.Launched s.bookmarks ∧
    Downloader.machine.Reachable Downloader.Configured s.downloader ∧
    ∀ screen, s.settingSubTabs = some screen →
      SettingSession.machine.Reachable SettingSession.Opened ⟨screen, s.home.setting⟩ := by
  obtain ⟨home, screens⟩ := home_and_session h
  refine ⟨home, search_reachable h, bookmarks_reachable h, downloader_reachable h, ?_⟩
  intro screen shown
  exact screens _ (by rw [session, shown]; rfl)

end

/-! ## A run -/

/-- Documents that are JSON already, and no dates. -/
def plain : Foundation JSON where
  isURL := anyURL
  date _ := none
  parse := .ok
  localizedDescription _ := "The data isn't in the correct format."

def marsDocument : JSON :=
  .object [("status", .string "ok"), ("articles", .array [
    .object [("title", .string "Mars"), ("url", .string "https://a.example/mars")]])]

/-- The app with two categories stored, and no bookmarks. -/
def started : Scene :=
  { home := HomeViewController.launch { stored := some [0, 1] }
    bookmarks := Bookmarks.emptyStore
    downloader := Downloader.configImageDataStorage {} }

theorem started_launched : Launched plain started :=
  ⟨rfl, rfl, HomeViewController.launched { stored := some [0, 1] }, Bookmarks.emptyStore_launched,
    Downloader.configured⟩

/-- An article is fetched, opened on Home and bookmarked, and its category turned off. -/
def marsBookmarked : List (SceneEvent JSON) :=
  [.homeAnswered ⟨.fetchData, 0, .us, 1⟩ (some marsDocument) none, .didSelectRowAt 0 0,
    .bookmarks (.changeBookMark 0 .succeeds), .settingSubTabsButtonItemTouchUpInside,
    .checkButtonTouchUpInside 6, .saveSettingSubTabsTouchUpInside]

theorem marsBookmarked_reachable : (machine plain).Reachable (Launched plain)
    (((machine plain).run started marsBookmarked).getD started) :=
  Machine.reachable_getD _ started_launched (by decide)

theorem scene_components_bookmarked :
    ∃ s : Scene, s.bookmarks.manager.getObjects.length = 1 ∧ s.home.categories = [.us, .health] ∧
      Bookmarks.machine.Reachable Bookmarks.Launched s.bookmarks ∧
      (HomeViewController.machine anyURL).Reachable (HomeViewController.Launched anyURL) s.home := by
  obtain ⟨home, -, bookmarks, -, -⟩ := scene_components marsBookmarked_reachable
  exact ⟨_, by decide, by decide, bookmarks, home⟩

end Scene

end NewsReader
