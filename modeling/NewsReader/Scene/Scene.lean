import NewsReader.Bookmarks.Origins
import NewsReader.Decoding
import NewsReader.Downloader
import NewsReader.SettingSession

/-!
# The scene

The three tabs and what they share: the settings, the store, the image cache. The
screens are those of their own modules. Here they are opened from one another, and
what their data tasks end with is read the way the API layer reads it.
-/

namespace NewsReader

variable {Document : Type}

/-- What the program takes from Foundation. -/
structure Foundation (Document : Type) where
  isURL : String → Bool
  date : String → Option Date
  parse : Document → Except DecodingError JSON
  localizedDescription : DecodingError → String

/-- What the closure of a data task hands to the completion of `request`. Without data
and without an error it hands over nothing. -/
def API.dataTaskDone (data : Option Document) (error : Option String) :
    Option (Result (Option Document)) :=
  match error with
  | some localizedDescription => some (.failure (.error localizedDescription))
  | none => data.map fun data => .success (some data)

section Answers

variable (F : Foundation Document)

/-- What a data task of Home completes with. -/
def APIManager.topHeadlines (r : Request) (answer : Result (Option Document)) : APIResult News :=
  APIManager.completion F.date F.parse F.localizedDescription r.category.param answer

/-- What a data task of Search completes with. -/
def APIManager.everything (task : SearchTask) (answer : Result (Option Document)) :
    APIResult News :=
  APIManager.completion F.date F.parse F.localizedDescription
    ((addingPercentEncoding task.query).getD "") answer

end Answers

/-- `setting` is kept with Home. At most one settings screen is open: it covers the button
that opens it. -/
structure Scene where
  home : HomeViewController
  settingSubTabs : Option SettingSubTabsViewModel := none
  search : SearchNewsViewController := {}
  bookmarks : Bookmarks
  downloader : Downloader := {}
  deriving DecidableEq

/-- What happens to the scene from outside. `home`, `search` and `bookmarks` are what happens
to a screen alone; a data task ends with data or an error. -/
inductive SceneEvent (Document : Type)
  | willConnectTo
  | didDisconnect
  | home (e : HomeEvent)
  | homeAnswered (r : Request) (data : Option Document) (error : Option String)
  | settingSubTabsButtonItemTouchUpInside
  | checkButtonTouchUpInside (row : Nat)
  | saveSettingSubTabsTouchUpInside
  | closeSettingSubTabs
  | search (e : SearchEvent)
  | searchAnswered (task : SearchTask) (data : Option Document) (error : Option String)
  | didSelectRowAt (position row : Nat)
  | didSelectItemAt (row : Nat)
  | bookmarks (e : BookmarkEvent)
  | imageDownloaded (urlString : String) (data : Data)

/-- The events that bring nothing from another part of the scene. -/
def HomeEvent.isOwn : HomeEvent → Bool
  | .respond _ _ | .saveSettingSubTabs _ => false
  | _ => true

def SearchEvent.isOwn : SearchEvent → Bool
  | .respond _ _ => false
  | _ => true

def BookmarkEvent.isOwn : BookmarkEvent → Bool
  | .openFromHome _ | .openFromSearch _ => false
  | _ => true

namespace Scene

section Handlers

variable (F : Foundation Document) (s : Scene)

def homeHandles (e : HomeEvent) : Option Scene := do
  let home ← s.home.handle F.isURL e
  return { s with home }

def searchHandles (e : SearchEvent) : Scene := { s with search := s.search.handle F.isURL e }

def bookmarksHandle (e : BookmarkEvent) : Option Scene := do
  let bookmarks ← s.bookmarks.handle e
  return { s with bookmarks }

/-- `configTabBarController`: the screens are new, and Home sets up the image storage. What
is stored stays, as does a write that is open, and so does the queue of images. -/
def willConnectTo : Option Scene := do
  let home ← HomeViewController.viewDidLoad F.isURL s.home.setting
  return {
    home
    bookmarks := { manager := s.bookmarks.manager }
    downloader := s.downloader.configImageDataStorage }

def settingSubTabsButtonItemTouchUpInside : Scene :=
  { s with settingSubTabs := some (({} : SettingSubTabsViewModel).getAllCellViewModel s.home.setting) }

def checkButtonTouchUpInside (row : Nat) : Option Scene := do
  let screen ← s.settingSubTabs
  let screen ← screen.checkButtonTouchUpInside row
  return { s with settingSubTabs := some screen }

/-- Home observes the notification that a save posts. -/
def saveSettingSubTabsTouchUpInside : Option Scene := do
  let screen ← s.settingSubTabs
  let home ← s.home.handle F.isURL (.saveSettingSubTabs screen)
  return { s with home, settingSubTabs := some (screen.saveSettingSubTabs s.home.setting).1 }

/-- A row of a page of Home. -/
def didSelectRowAt (position row : Nat) : Option Scene := do
  let child ← s.home.viewControllers[position]?
  let news ← child.viewModel.articles[row]?
  s.bookmarksHandle (.openFromHome news)

/-- An item of Search. -/
def didSelectItemAt (row : Nat) : Option Scene := do
  let news ← s.search.viewModel.searchItems[row]?
  s.bookmarksHandle (.openFromSearch news)

def handle : SceneEvent Document → Option Scene
  | .willConnectTo => s.willConnectTo F
  | .didDisconnect => some { s with downloader := s.downloader.clearImageData }
  | .home e => s.homeHandles F e
  | .homeAnswered r data error =>
    match API.dataTaskDone data error with
    | some answer => s.homeHandles F (.respond r (APIManager.topHeadlines F r answer))
    | none => some s
  | .settingSubTabsButtonItemTouchUpInside => some s.settingSubTabsButtonItemTouchUpInside
  | .checkButtonTouchUpInside row => s.checkButtonTouchUpInside row
  | .saveSettingSubTabsTouchUpInside => s.saveSettingSubTabsTouchUpInside F
  | .closeSettingSubTabs => some { s with settingSubTabs := none }
  | .search e => some (s.searchHandles F e)
  | .searchAnswered task data error =>
    match API.dataTaskDone data error with
    | some answer => some (s.searchHandles F (.respond task (APIManager.everything F task answer)))
    | none => some s
  | .didSelectRowAt position row => s.didSelectRowAt position row
  | .didSelectItemAt row => s.didSelectItemAt row
  | .bookmarks e => s.bookmarksHandle e
  | .imageDownloaded urlString data => do
    let downloader ← s.downloader.configSaveImage urlString data
    return { s with downloader }

end Handlers

/-- Answers, saves and articles come by events of their own. -/
def Allowed (s : Scene) : SceneEvent Document → Prop
  | .home e => e.isOwn = true ∧ s.home.Allowed e
  | .homeAnswered r _ _ => r ∈ s.home.outstanding
  | .settingSubTabsButtonItemTouchUpInside => s.settingSubTabs = none
  | .checkButtonTouchUpInside row => ∃ screen ∈ s.settingSubTabs, row < screen.categories.length
  | .search e => e.isOwn = true ∧ s.search.Allowed e
  | .searchAnswered task _ _ => task ∈ s.search.dataTasks
  | .didSelectRowAt position _ => position < s.home.viewControllers.length
  | .bookmarks e => e.isOwn = true ∧ s.bookmarks.Allowed e
  | .saveSettingSubTabsTouchUpInside => s.settingSubTabs.isSome = true
  | .willConnectTo | .didDisconnect | .closeSettingSubTabs | .didSelectItemAt _
  | .imageDownloaded _ _ => True

instance (s : Scene) : (e : SceneEvent Document) → Decidable (s.Allowed e)
  | .home e => inferInstanceAs (Decidable (e.isOwn = true ∧ s.home.Allowed e))
  | .homeAnswered r _ _ => inferInstanceAs (Decidable (r ∈ s.home.outstanding))
  | .settingSubTabsButtonItemTouchUpInside => inferInstanceAs (Decidable (s.settingSubTabs = none))
  | .checkButtonTouchUpInside row =>
    inferInstanceAs (Decidable (∃ screen ∈ s.settingSubTabs, row < screen.categories.length))
  | .search e => inferInstanceAs (Decidable (e.isOwn = true ∧ s.search.Allowed e))
  | .searchAnswered task _ _ => inferInstanceAs (Decidable (task ∈ s.search.dataTasks))
  | .didSelectRowAt position _ =>
    inferInstanceAs (Decidable (position < s.home.viewControllers.length))
  | .bookmarks e => inferInstanceAs (Decidable (e.isOwn = true ∧ s.bookmarks.Allowed e))
  | .saveSettingSubTabsTouchUpInside =>
    inferInstanceAs (Decidable (s.settingSubTabs.isSome = true))
  | .willConnectTo | .didDisconnect | .closeSettingSubTabs | .didSelectItemAt _
  | .imageDownloaded _ _ => .isTrue trivial

def machine (F : Foundation Document) : Machine Scene (SceneEvent Document) where
  allowed := Allowed
  step := handle F

instance (F : Foundation Document) (s : Scene) (e : SceneEvent Document) :
    Decidable ((machine F).allowed s e) := inferInstanceAs (Decidable (s.Allowed e))

/-- The app as it starts, whatever settings, bookmarks and images an earlier process stored. -/
def Launched (F : Foundation Document) (s : Scene) : Prop :=
  s.settingSubTabs = none ∧ s.search = {} ∧ HomeViewController.Launched F.isURL s.home ∧
  Bookmarks.Launched s.bookmarks ∧ Downloader.Configured s.downloader

end Scene

end NewsReader
