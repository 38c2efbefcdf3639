import NewsReader.Scene.Deliveries

/-!
# The app on a device

A process may end in any state. The next one starts with the settings and the bookmarks
that the processes before it have left, and everything else anew. A write that is open as
its process ends is gone. So from a first launch on, whatever ends in between:

* each process is a run of the scene (`scene_reachable`);
* the categories of Home are chosen in its settings, in their order, us and health among
  them (`categories_chosen`);
* every bookmark is from a document that some process was answered with
  (`lifetime_bookmarks`).
-/

namespace NewsReader

variable {Document : Type}

/-- What is on disk after an event, where `stored` was before. A write that is open is not
there, and a process that could not open the bookmarks leaves them as they are. -/
def RealmManager.committed (m : RealmManager) (stored : Realm) : Realm :=
  match m.realm with
  | some realm => if realm.isInWriteTransaction then stored else realm
  | none => stored

/-- `stored` is what is on disk of the bookmarks. -/
structure App where
  scene : Scene
  stored : Realm
  deriving DecidableEq

/-- `launch` is the end of one process and the start of the next, with whether it opens the
file. -/
inductive AppEvent (Document : Type)
  | scene (e : SceneEvent Document)
  | launch (opens : Bool)

namespace App

section Handlers

variable (F : Foundation Document) (a : App)

/-- A process begins with no write open. -/
def launch (opens : Bool) : Option App := do
  let realm := { a.stored with isInWriteTransaction := false }
  let process : Scene := {
    home := { setting := a.scene.home.setting }
    bookmarks := { manager := ⟨if opens then some realm else none⟩ }
    downloader := { dataImages := a.scene.downloader.dataImages } }
  let scene ← process.willConnectTo F
  return { a with scene }

def handle : AppEvent Document → Option App
  | .scene e => do
    let scene ← a.scene.handle F e
    return { scene, stored := scene.bookmarks.manager.committed a.stored }
  | .launch opens => a.launch F opens

end Handlers

def Allowed (a : App) : AppEvent Document → Prop
  | .scene e => a.scene.Allowed e
  | .launch _ => True

instance (a : App) : (e : AppEvent Document) → Decidable (a.Allowed e)
  | .scene e => inferInstanceAs (Decidable (a.scene.Allowed e))
  | .launch _ => .isTrue trivial

def machine (F : Foundation Document) : Machine App (AppEvent Document) where
  allowed := Allowed
  step := handle F

instance (F : Foundation Document) (a : App) (e : AppEvent Document) :
    Decidable ((machine F).allowed a e) := inferInstanceAs (Decidable (a.Allowed e))

/-- Nothing is stored yet. -/
def blank : App := { scene := { home := {}, bookmarks := { manager := ⟨none⟩ } }, stored := {} }

/-- The first launch. -/
def Installed (F : Foundation Document) (a : App) : Prop :=
  ∃ opens, blank.launch F opens = some a

section

variable {F : Foundation Document} {a b : App} {e : AppEvent Document} {opens : Bool}

/-- What a launch leaves: a scene launched on what is stored. -/
theorem launch_scene (launched : a.launch F opens = some b) : Scene.Launched F b.scene ∧
    b.scene.home.setting = a.scene.home.setting ∧
    b.scene.bookmarks.manager =
      ⟨if opens then some { a.stored with isInWriteTransaction := false } else none⟩ ∧
    b.stored = a.stored := by
  obtain ⟨scene, connects, same⟩ := Option.bind_eq_some_iff.mp launched
  obtain rfl := Option.some.inj same
  obtain ⟨home, loaded, same⟩ := Option.bind_eq_some_iff.mp connects
  obtain rfl := Option.some.inj same
  obtain ⟨_, ran, rebuilt, -⟩ := HomeViewController.viewDidLoad_eq F.isURL a.scene.home.setting
  obtain rfl := Option.mem_unique loaded ran
  have configured : Downloader.Configured
      (Downloader.configImageDataStorage { dataImages := a.scene.downloader.dataImages }) :=
    ⟨{ dataImages := a.scene.downloader.dataImages }, rfl, rfl⟩
  refine ⟨⟨rfl, rfl, ⟨_, loaded⟩, ⟨rfl, rfl, ?_⟩, configured⟩, rebuilt.setting, rfl, rfl⟩
  cases opens with
  | true => rfl
  | false => rfl

/-- A launch never traps, whatever was stored. -/
theorem launches (F : Foundation Document) (a : App) (opens : Bool) :
    ∃ b, a.launch F opens = some b := by
  obtain ⟨home, loaded, -⟩ := HomeViewController.viewDidLoad_eq F.isURL a.scene.home.setting
  simp [launch, Scene.willConnectTo, loaded]

/-- Each process is a run of the scene. -/
theorem scene_reachable (h : (machine F).Reachable (Installed F) a) :
    (Scene.machine F).Reachable (Scene.Launched F) a.scene := by
  apply h.component (fun a => some a.scene) ?_ ?_ rfl
  · rintro a scene ⟨opens, launched⟩ ⟨⟩
    exact (launch_scene launched).1
  · rintro a e b scene - allowed stepped ⟨⟩
    cases e with
    | scene e =>
      obtain ⟨scene, handled, same⟩ := Option.bind_eq_some_iff.mp stepped
      obtain rfl := Option.some.inj same
      exact Or.inr ⟨_, rfl, Or.inr ⟨e, allowed, handled⟩⟩
    | launch opens => exact Or.inl (launch_scene stepped).1

/-! ## Settings -/

/-- Nothing has been saved yet, or what a settings screen was left with. -/
def Chosen (setting : SettingManager) : Prop :=
  setting.stored = none ∨ ∃ enabled : CategoryType → Bool, enabled .us = true ∧
    enabled .health = true ∧
    setting = SettingManager.setCategories (CategoryType.allCases.filter enabled)

/-- A save stores the categories that its screen shows as enabled. -/
theorem chosen_saved {session : SettingSession} (h : Chosen session.setting)
    (reached : SettingSession.machine.Reachable SettingSession.Opened session) :
    Chosen (session.screen.saveSettingSubTabs session.setting).2.1 := by
  obtain ⟨enabled, shows⟩ := SettingSession.reachable_shows reached
  cases saved : session.screen.saveSettingSubTabs session.setting with
  | mk screen rest =>
    obtain ⟨setting, posted⟩ := rest
    obtain ⟨-, -, ⟨-, -, rfl⟩ | ⟨-, -, rfl⟩⟩ := SettingSession.saveSettingSubTabs_cases saved
    · exact h
    · rw [shows.enabledCategories]
      exact Or.inr ⟨enabled, shows.us, shows.health, rfl⟩

theorem chosen_scene {s t : Scene} {e : SceneEvent Document}
    (reached : (Scene.machine F).Reachable (Scene.Launched F) s) (own : s.Allowed e)
    (stepped : s.handle F e = some t) (h : Chosen s.home.setting) : Chosen t.home.setting := by
  obtain ⟨home, screens⟩ := Scene.home_and_session reached
  cases Scene.moved own stepped with
  | connected loaded =>
    obtain ⟨_, ran, rebuilt, -⟩ := HomeViewController.viewDidLoad_eq F.isURL s.home.setting
    obtain rfl := Option.mem_unique loaded ran
    rw [rebuilt.setting]
    exact h
  | home is kept allowed handled =>
    have aligned := HomeViewController.reachable_aligned home
    rw [HomeViewController.handle_setting aligned allowed kept handled]
    exact h
  | saved shown saves =>
    have opened := screens _ (by rw [Scene.session, shown]; rfl)
    have permitted := SettingSession.reachable_permitted opened
    rw [Scene.setting_of_save permitted saves]
    exact chosen_saved h opened
  | opened | toggled | closed | search | bookmarks | downloader | same => exact h

theorem chosen_of_reachable (h : (machine F).Reachable (Installed F) a) :
    Chosen a.scene.home.setting := by
  apply h.invariant (fun a => Chosen a.scene.home.setting)
  · rintro a ⟨opens, launched⟩
    obtain ⟨-, setting, -⟩ := launch_scene launched
    rw [setting]
    exact Or.inl rfl
  · intro a e b reached chosen allowed stepped
    cases e with
    | scene e =>
      obtain ⟨scene, handled, same⟩ := Option.bind_eq_some_iff.mp stepped
      obtain rfl := Option.some.inj same
      exact chosen_scene (scene_reachable reached) allowed handled chosen
    | launch opens =>
      obtain ⟨-, setting, -⟩ := launch_scene stepped
      rw [setting]
      exact chosen

theorem Chosen.categories {setting : SettingManager} (h : Chosen setting) :
    ∃ enabled : CategoryType → Bool, enabled .us = true ∧ enabled .health = true ∧
      setting.categories = CategoryType.allCases.filter enabled := by
  obtain unset | ⟨enabled, us, health, rfl⟩ := h
  · refine ⟨fun _ => true, rfl, rfl, ?_⟩
    rw [SettingManager.categories, unset]
    rfl
  · exact ⟨enabled, us, health, SettingManager.categories_setCategories _⟩

/-- Home has one page a category, in their order. -/
theorem pages {home : HomeViewController} (aligned : home.Aligned) :
    home.viewControllers.map (·.viewModel.category) = home.categories := by
  apply List.ext_getElem?
  intro i
  rw [List.getElem?_map]
  cases page : home.viewControllers[i]? with
  | some child => exact (aligned.child i child page).2.1.symm
  | none =>
    have beyond := List.getElem?_eq_none_iff.mp page
    rw [aligned.viewControllers] at beyond
    exact (List.getElem?_eq_none beyond).symm

/-- **Home shows categories that a settings screen can choose**, in every process from the
first launch on: those that are enabled, in the order of `allCases`, us first and health
among them. Each has its page, and the next process shows them again. -/
theorem categories_chosen (h : (machine F).Reachable (Installed F) a) :
    (∃ enabled : CategoryType → Bool, enabled .us = true ∧ enabled .health = true ∧
      a.scene.home.categories = CategoryType.allCases.filter enabled) ∧
    a.scene.home.categories.head? = some .us ∧
    a.scene.home.viewControllers.map (·.viewModel.category) = a.scene.home.categories ∧
    ∀ opens, ∃ b, a.launch F opens = some b ∧
      b.scene.home.categories = a.scene.home.categories := by
  obtain ⟨enabled, us, health, categories⟩ := (chosen_of_reachable h).categories
  have aligned := HomeViewController.reachable_aligned
    (Scene.home_and_session (scene_reachable h)).1
  refine ⟨⟨enabled, us, health, categories⟩, ?_, pages aligned, ?_⟩
  · rw [HomeViewController.categories, categories]
    exact List.head?_eq_some_iff.mpr ⟨_, List.filter_cons_of_pos us⟩
  · intro opens
    obtain ⟨b, launched⟩ := launches F a opens
    refine ⟨b, launched, ?_⟩
    obtain ⟨-, setting, -⟩ := launch_scene launched
    rw [HomeViewController.categories, setting]
    rfl

/-! ## Bookmarks -/

/-- What the processes so far were answered with. -/
def deliver (a : App) :
    AppEvent Document → List (Delivery Document) → List (Delivery Document)
  | .scene e, deliveries => a.scene.deliver e deliveries
  | .launch _, deliveries => deliveries

/-- Every article on a screen is from one of the documents, and so is every bookmark, whether
this process can open them or not. -/
structure Sourced (F : Foundation Document) (deliveries : List (Delivery Document)) (a : App) :
    Prop where
  scene : Scene.Sourced F ⟨none⟩ deliveries a.scene
  stored : ∀ row ∈ a.stored.news.rows,
    ∃ news, Delivered F deliveries news ∧ row.record = news.record

variable {deliveries : List (Delivery Document)}

/-- What is committed was there already, or is read by the process. -/
theorem mem_committed {m : RealmManager} {stored : Realm} {row : NewsRow}
    (mem : row ∈ (m.committed stored).news.rows) : row ∈ stored.news.rows ∨ row ∈ m.storedNews := by
  obtain ⟨_ | realm⟩ := m
  · exact Or.inl mem
  · simp only [RealmManager.committed] at mem
    split at mem
    · exact Or.inl mem
    · exact Or.inr mem

/-- A process that began with no bookmarks reads those of the documents only. -/
theorem delivered_read {s : Scene} (h : Scene.Sourced F ⟨none⟩ deliveries s) {row : NewsRow}
    (read : row ∈ s.bookmarks.manager.storedNews) :
    ∃ news, Delivered F deliveries news ∧ row.record = news.record := by
  obtain none | delivered := h.stored row read
  · cases none
  · exact delivered

theorem Sourced.step {e : SceneEvent Document} {scene : Scene} (h : Sourced F deliveries a)
    (process : (Scene.machine F).Reachable (Scene.Launched F) a.scene)
    (own : a.scene.Allowed e) (moved : a.scene.handle F e = some scene) :
    Sourced F (a.scene.deliver e deliveries)
      { scene, stored := scene.bookmarks.manager.committed a.stored } := by
  have after := h.scene.step process own moved
  refine ⟨after, ?_⟩
  intro row mem
  obtain before | read := mem_committed mem
  · obtain ⟨news, delivered, same⟩ := h.stored row before
    exact ⟨news, Scene.delivered_later (s := a.scene) delivered, same⟩
  · exact delivered_read after read

/-- A launched scene shows no article yet. -/
theorem Sourced.launch (h : Sourced F deliveries a) (launched : a.launch F opens = some b) :
    Sourced F deliveries b := by
  obtain ⟨⟨-, search, home, ⟨details, -⟩, -⟩, -, manager, stored⟩ := launch_scene launched
  obtain ⟨setting, rebuilt, aligned⟩ := home.rebuilt
  refine ⟨⟨rebuilt.holds aligned, ?_, ?_, ?_, h.scene.asked⟩, ?_⟩
  · intro news mem
    rw [search] at mem
    cases mem
  · intro vm mem
    rw [details] at mem
    cases mem
  · intro row mem
    rw [manager] at mem
    cases opens with
    | true => exact Or.inr (h.stored row mem)
    | false => cases mem
  · intro row mem
    rw [stored] at mem
    exact h.stored row mem

theorem blank_sourced : Sourced F [] blank := by
  refine ⟨⟨?_, ?_, ?_, ?_, ?_⟩, ?_⟩
  · intro i σ there
    simp [blank, HomeViewController.slot] at there
  all_goals
    intro _ mem
    cases mem

theorem lifetime_sourced
    (h : ((machine F).observed deliver).Reachable (fun p => Installed F p.1 ∧ p.2 = [])
      (a, deliveries)) : Sourced F deliveries a := by
  apply h.invariant (fun p => Sourced F p.2 p.1)
  · rintro ⟨a, deliveries⟩ ⟨⟨opens, launched⟩, rfl⟩
    exact blank_sourced.launch launched
  · rintro ⟨a, deliveries⟩ e ⟨b, deliveries'⟩ reached before own stepped
    obtain ⟨handled, rfl⟩ := Machine.observed_step.mp stepped
    have process := scene_reachable (reached.mono fun p first => first.1).of_observed
    cases e with
    | scene e =>
      obtain ⟨scene, moved, same⟩ := Option.bind_eq_some_iff.mp handled
      obtain rfl := Option.some.inj same
      exact before.step process own moved
    | launch opens => exact before.launch handled

/-- **Every bookmark is from a document**, whatever processes have come and gone since the
first launch: it is an article of one that a data task ended with, decoded and tagged for
the category that was asked for, which is never health. A bookmark is on disk or, where its
commit has thrown, read by the process only. -/
theorem lifetime_bookmarks
    (h : ((machine F).observed deliver).Reachable (fun p => Installed F p.1 ∧ p.2 = [])
      (a, deliveries)) {row : NewsRow}
    (mem : row ∈ a.stored.news.rows ∨ row ∈ a.scene.bookmarks.manager.storedNews) :
    ∃ d ∈ deliveries, ∃ news, d.Brings F news ∧ row.record = news.record ∧
      row.record.categoryNews = d.category.map (·.param) ∧ d.category ≠ some .health := by
  have sourced := lifetime_sourced h
  obtain ⟨news, ⟨d, listed, brings⟩, same⟩ := mem.elim (sourced.stored row)
    (delivered_read sourced.scene)
  refine ⟨d, listed, news, brings, same, ?_, sourced.scene.asked d listed⟩
  obtain ⟨json, elements, element, -, -, -, rfl⟩ := brings
  rw [same]
  rfl

end

section

open Scene (plain)

/-- The first process, with its bookmarks open. -/
def installed : App := (blank.launch plain true).getD blank

theorem installed_installed : Installed plain installed := by
  obtain ⟨a, launched⟩ := launches plain blank true
  exact ⟨true, by simp [installed, launched]⟩

/-- An article of us is bookmarked, and business turned off. The next process cannot open the
bookmarks, and the one after it can. -/
def launchedThrice : List (AppEvent JSON) :=
  Scene.marsBookmarked.map .scene ++ [.launch false, .launch true]

def thirdProcess : App × List (Delivery JSON) :=
  (((machine plain).observed deliver).run (installed, []) launchedThrice).getD (installed, [])

theorem thirdProcess_reachable : ((machine plain).observed deliver).Reachable
    (fun p => Installed plain p.1 ∧ p.2 = []) thirdProcess :=
  Machine.reachable_getD _ ⟨installed_installed, rfl⟩ (by decide)

theorem categories_chosen_third : thirdProcess.1.scene.home.categories.length = 6 ∧
    thirdProcess.1.scene.home.categories.head? = some .us ∧
    thirdProcess.1.scene.home.viewControllers.map (·.viewModel.category) =
      thirdProcess.1.scene.home.categories := by
  have reached : (machine plain).Reachable (Installed plain) thirdProcess.1 :=
    (thirdProcess_reachable.mono fun p first => first.1).of_observed
  obtain ⟨-, first, pages, -⟩ := categories_chosen reached
  exact ⟨by decide, first, pages⟩

theorem lifetime_bookmarks_third : ∃ row ∈ thirdProcess.1.stored.news.rows,
    ∃ d ∈ thirdProcess.2, ∃ news, d.Brings plain news ∧ row.record = news.record ∧
      row.record.categoryNews = d.category.map (·.param) ∧ d.category ≠ some .health := by
  have stored : ⟨0, Scene.marsNews.record⟩ ∈ thirdProcess.1.stored.news.rows := by decide
  exact ⟨_, stored, lifetime_bookmarks thirdProcess_reachable (Or.inl stored)⟩

end

end App

end NewsReader
