import NewsReader.Bookmarks.Screens
import NewsReader.Home.Categories

/-!
# The table of one page

The table of a page learns its row count from `reloadData` and its first layout, and
may ask for any row below it afterwards. `fetchData` reloads the table only for two
articles or more, so the count stays right as long as no shorter list comes after one
of another length (`rows_counted`).
-/

namespace NewsReader

structure NewsTableViewCellViewModel where
  publishedAt : Date
  newsTitle : String
  nameSource : String
  urlImage : String
  urlNews : String
  row : Nat
  deriving DecidableEq, Repr

namespace HomeChildViewModel

variable (vm : HomeChildViewModel)

def getNewsCellViewModel (currentDate : Date) (row : Nat) : Option NewsTableViewCellViewModel := do
  let news ← vm.articles[row]?
  return {
    newsTitle := news.titleNews.getD ""
    nameSource := (news.source.bind (·.name)).getD ""
    publishedAt := news.publishedAt.getD currentDate
    urlImage := news.urlImage.getD ""
    urlNews := news.urlNews.getD ""
    row }

def getNewsDetailViewModel (m : RealmManager) (row : Nat) : Option NewsDetailViewModel := do
  let news ← vm.articles[row]?
  NewsReader.getNewsDetailViewModel m (.unmanaged news)

/-- The url whose image is looked up, and downloaded where it is not found. -/
def loadImage (row : Nat) : Option String := do
  let news ← vm.articles[row]?
  return news.urlImage.getD ""

end HomeChildViewModel

namespace HomeChildViewController

variable (vc : HomeChildViewController)

/-- Setting `view.tag` for the first time loads the view. -/
def loadView (index : Nat) : HomeChildViewController :=
  { vc.configLoadingView with isViewLoaded := true, tag := index }

/-- The cell of a row. It asks for its image to be loaded where none is cached. -/
def cellForRowAt (row : Nat) (currentDate : Date) (cached : String → Bool) :
    Option HomeChildViewController := do
  let cell ← vc.viewModel.getNewsCellViewModel currentDate row
  if cached cell.urlImage then return vc
  else do
    let _ ← vc.viewModel.loadImage row
    return vc

def didSelectRowAt (row : Nat) (m : RealmManager) : Option HomeChildViewController := do
  let _ ← vc.viewModel.getNewsDetailViewModel m row
  return vc

/-- `reloadRows` asks for the cell of the row again. The table must have the row. -/
def reloadRows (row : Nat) (currentDate : Date) (cached : String → Bool) :
    Option HomeChildViewController :=
  if row < vc.tableRows.getD 0 then vc.cellForRowAt row currentDate cached else none

/-- What `loadImage` runs when it is done, with whether there is an image. -/
def loadImageDone (row : Nat) (image : Bool) (currentDate : Date) (cached : String → Bool) :
    Option HomeChildViewController :=
  if row < vc.viewModel.articles.length then
    if image then vc.reloadRows row currentDate cached else some vc
  else some vc

end HomeChildViewController

/-- What happens to a page from outside: what Home does to it, and what its table asks. -/
inductive HomeChildEvent
  | setViewModel (viewModel : HomeChildViewModel)
  | loadView (index : Nat)
  | beginRefreshing
  | layout
  | cellForRowAt (row : Nat) (currentDate : Date) (cached : String → Bool)
  | didSelectRowAt (row : Nat) (m : RealmManager)
  | loadImageDone (row : Nat) (image : Bool) (currentDate : Date) (cached : String → Bool)

namespace HomeChildViewController

def handle (vc : HomeChildViewController) : HomeChildEvent → Option HomeChildViewController
  | .setViewModel viewModel => some (vc.setViewModel viewModel)
  | .loadView index => some (vc.loadView index)
  | .beginRefreshing => some { vc with refreshControlIsRefreshing := true }
  | .layout => some vc.reloadData
  | .cellForRowAt row currentDate cached => vc.cellForRowAt row currentDate cached
  | .didSelectRowAt row m => vc.didSelectRowAt row m
  | .loadImageDone row image currentDate cached => vc.loadImageDone row image currentDate cached

/-- The table asks below the count it was last given. An image arrives for a row the
table once had. -/
def Allowed (vc : HomeChildViewController) : HomeChildEvent → Prop
  | .setViewModel _ => True
  | .loadView _ => vc.isViewLoaded = false
  | .beginRefreshing => vc.isViewLoaded = true
  | .layout => vc.isViewLoaded = true ∧ vc.tableRows = none
  | .cellForRowAt row _ _ => row < vc.tableRows.getD 0
  | .didSelectRowAt row _ => row < vc.tableRows.getD 0
  | .loadImageDone .. => vc.tableRows.isSome = true

instance (vc : HomeChildViewController) : (e : HomeChildEvent) → Decidable (vc.Allowed e)
  | .setViewModel _ => .isTrue trivial
  | .loadView _ => inferInstanceAs (Decidable (vc.isViewLoaded = false))
  | .beginRefreshing => inferInstanceAs (Decidable (vc.isViewLoaded = true))
  | .layout => inferInstanceAs (Decidable (vc.isViewLoaded = true ∧ vc.tableRows = none))
  | .cellForRowAt row _ _ | .didSelectRowAt row _ =>
    inferInstanceAs (Decidable (row < vc.tableRows.getD 0))
  | .loadImageDone .. => inferInstanceAs (Decidable (vc.tableRows.isSome = true))

def machine : Machine HomeChildViewController HomeChildEvent where
  allowed := Allowed
  step := handle

instance (vc : HomeChildViewController) (e : HomeChildEvent) : Decidable (machine.allowed vc e) :=
  inferInstanceAs (Decidable (vc.Allowed e))

/-- `HomeChildViewController()`. -/
def Created (vc : HomeChildViewController) : Prop := vc = {}

/-! ## The row count -/

/-- The count the table was last given is that of the articles. -/
def Counted (vc : HomeChildViewController) : Prop :=
  ∀ rows, vc.tableRows = some rows → rows = vc.viewModel.articles.length

/-- A view model is assigned with two articles or more, to a table that has no count
yet, or with as many articles as the table has rows. -/
def Recounts (vc : HomeChildViewController) : HomeChildEvent → Prop
  | .setViewModel viewModel => viewModel.articles.length > 1 ∨ vc.tableRows = none ∨
    vc.tableRows = some viewModel.articles.length
  | _ => True

instance (vc : HomeChildViewController) : (e : HomeChildEvent) → Decidable (vc.Recounts e)
  | .setViewModel viewModel => inferInstanceAs (Decidable (viewModel.articles.length > 1 ∨
    vc.tableRows = none ∨ vc.tableRows = some viewModel.articles.length))
  | .loadView _ | .beginRefreshing | .layout | .cellForRowAt .. | .didSelectRowAt ..
  | .loadImageDone .. => .isTrue trivial

section

variable {vc t : HomeChildViewController} {e : HomeChildEvent}

theorem fetchData_tableRows (vc : HomeChildViewController) :
    vc.fetchData.tableRows =
      if vc.viewModel.articles.length > 1 then some vc.viewModel.articles.length
      else vc.tableRows := by
  unfold fetchData reloadData
  dsimp only
  split
  · rfl
  · rfl

theorem setViewModel_tableRows (vc : HomeChildViewController) (viewModel : HomeChildViewModel) :
    (vc.setViewModel viewModel).tableRows =
      if vc.isViewLoaded = true ∧ viewModel.articles.length > 1 then
        some viewModel.articles.length
      else vc.tableRows := by
  unfold setViewModel
  cases vc.isViewLoaded with
  | true => simp [fetchData_tableRows]
  | false => simp

theorem cellForRowAt_some {row : Nat} {currentDate : Date} {cached : String → Bool}
    (asked : vc.cellForRowAt row currentDate cached = some t) : t = vc := by
  obtain ⟨cell, -, asked⟩ := Option.bind_eq_some_iff.mp asked
  split at asked
  · exact (Option.some.inj asked).symm
  · obtain ⟨url, -, asked⟩ := Option.bind_eq_some_iff.mp asked
    exact (Option.some.inj asked).symm

theorem loadImageDone_some {row : Nat} {image : Bool} {currentDate : Date}
    {cached : String → Bool}
    (done : vc.loadImageDone row image currentDate cached = some t) : t = vc := by
  unfold loadImageDone at done
  split at done
  · split at done
    · unfold reloadRows at done
      split at done
      · exact cellForRowAt_some done
      · cases done
    · exact (Option.some.inj done).symm
  · exact (Option.some.inj done).symm

/-- **What an event does to the table**: it assigns the view model, gives the table its
first count, or leaves articles and count as they are. -/
theorem handle_cases (stepped : vc.handle e = some t) :
    (∃ viewModel, e = .setViewModel viewModel ∧ t = vc.setViewModel viewModel) ∨
    (e = .layout ∧ t = vc.reloadData) ∨
    (vc.Recounts e ∧ t.viewModel = vc.viewModel ∧ t.tableRows = vc.tableRows ∧
      (t.isViewLoaded = false → vc.isViewLoaded = false)) := by
  cases e with
  | setViewModel viewModel =>
    exact Or.inl ⟨viewModel, rfl, (Option.some.inj stepped).symm⟩
  | layout => exact Or.inr (Or.inl ⟨rfl, (Option.some.inj stepped).symm⟩)
  | loadView index =>
    obtain rfl := Option.some.inj stepped
    exact Or.inr (Or.inr ⟨trivial, rfl, rfl, fun unloaded => by cases unloaded⟩)
  | beginRefreshing =>
    obtain rfl := Option.some.inj stepped
    exact Or.inr (Or.inr ⟨trivial, rfl, rfl, id⟩)
  | cellForRowAt row currentDate cached =>
    obtain rfl := cellForRowAt_some stepped
    exact Or.inr (Or.inr ⟨trivial, rfl, rfl, id⟩)
  | didSelectRowAt row m =>
    obtain ⟨detail, -, selected⟩ := Option.bind_eq_some_iff.mp stepped
    obtain rfl := Option.some.inj selected
    exact Or.inr (Or.inr ⟨trivial, rfl, rfl, id⟩)
  | loadImageDone row image currentDate cached =>
    obtain rfl := loadImageDone_some stepped
    exact Or.inr (Or.inr ⟨trivial, rfl, rfl, id⟩)

/-- Before its view is loaded a page has no table. -/
def Tableless (vc : HomeChildViewController) : Prop :=
  vc.isViewLoaded = false → vc.tableRows = none

theorem tableless_step (h : vc.Tableless) (allowed : vc.Allowed e)
    (stepped : vc.handle e = some t) : t.Tableless := by
  intro unloaded
  obtain ⟨viewModel, rfl, rfl⟩ | ⟨rfl, rfl⟩ | ⟨-, -, rows, before⟩ := handle_cases stepped
  · rw [setViewModel_isViewLoaded] at unloaded
    rw [setViewModel_tableRows, if_neg (by simp [unloaded])]
    exact h unloaded
  · have loaded : vc.isViewLoaded = true := allowed.1
    cases loaded.symm.trans unloaded
  · rw [rows]
    exact h (before unloaded)

/-- An assignment keeps the count right exactly when it recounts, or need not. -/
theorem counted_setViewModel_iff (tableless : vc.Tableless) (viewModel : HomeChildViewModel) :
    (vc.setViewModel viewModel).Counted ↔ vc.Recounts (.setViewModel viewModel) := by
  simp only [Counted, Recounts, setViewModel_viewModel, setViewModel_tableRows]
  by_cases reloads : vc.isViewLoaded = true ∧ viewModel.articles.length > 1
  · rw [if_pos reloads]
    constructor
    · intro _
      exact Or.inl reloads.2
    · rintro - rows ⟨⟩
      rfl
  · rw [if_neg reloads]
    constructor
    · intro counted
      cases rows : vc.tableRows with
      | none => exact Or.inr (Or.inl rfl)
      | some n =>
        have same : n = viewModel.articles.length := counted n rows
        exact Or.inr (Or.inr (congrArg some same))
    · rintro (many | unknown | same) rows known
      · have unloaded : vc.isViewLoaded = false := by
          cases loaded : vc.isViewLoaded with
          | false => rfl
          | true => exact absurd ⟨loaded, many⟩ reloads
        cases known.symm.trans (tableless unloaded)
      · cases known.symm.trans unknown
      · exact Option.some.inj (known.symm.trans same)

theorem counted_step_iff (h : vc.Counted) (tableless : vc.Tableless)
    (stepped : vc.handle e = some t) : t.Counted ↔ vc.Recounts e := by
  obtain ⟨viewModel, rfl, rfl⟩ | ⟨rfl, rfl⟩ | ⟨recounts, articles, rows, -⟩ :=
    handle_cases stepped
  · exact counted_setViewModel_iff tableless viewModel
  · refine ⟨fun _ => trivial, fun _ => ?_⟩
    rintro rows ⟨⟩
    rfl
  · refine ⟨fun _ => recounts, fun _ => ?_⟩
    intro n known
    rw [articles]
    exact h n (rows ▸ known)

/-- With the right count, no row the table asks for is out of range. -/
theorem Counted.in_range (h : vc.Counted) {row : Nat} (asked : row < vc.tableRows.getD 0) :
    ∃ news, vc.viewModel.articles[row]? = some news := by
  cases known : vc.tableRows with
  | none =>
    rw [known] at asked
    exact absurd asked (Nat.not_lt_zero row)
  | some rows =>
    have count : rows = vc.viewModel.articles.length := h rows known
    rw [known, Option.getD_some, count] at asked
    exact ⟨_, List.getElem?_eq_getElem asked⟩

theorem cellForRowAt_isSome {row : Nat} {news : News}
    (found : vc.viewModel.articles[row]? = some news) (currentDate : Date)
    (cached : String → Bool) : (vc.cellForRowAt row currentDate cached).isSome = true := by
  simp only [cellForRowAt, HomeChildViewModel.getNewsCellViewModel, HomeChildViewModel.loadImage,
    found, Option.bind_eq_bind, Option.bind_some, Option.pure_def]
  split <;> rfl

theorem Counted.handle_isSome (h : vc.Counted) (allowed : vc.Allowed e) :
    (vc.handle e).isSome = true := by
  cases e with
  | setViewModel viewModel | loadView index | beginRefreshing | layout => rfl
  | cellForRowAt row currentDate cached =>
    obtain ⟨news, found⟩ := h.in_range allowed
    exact cellForRowAt_isSome found currentDate cached
  | didSelectRowAt row m =>
    obtain ⟨news, found⟩ := h.in_range allowed
    simp [handle, didSelectRowAt, HomeChildViewModel.getNewsDetailViewModel, found,
      NewsReader.getNewsDetailViewModel, NewsObject.urlNews]
  | loadImageDone row image currentDate cached =>
    simp only [handle, loadImageDone, reloadRows]
    split
    · rename_i bound
      obtain ⟨rows, known⟩ := Option.isSome_iff_exists.mp
        (show vc.tableRows.isSome = true from allowed)
      have count : rows = vc.viewModel.articles.length := h rows known
      have inside : row < vc.tableRows.getD 0 := by
        rw [known, Option.getD_some]
        omega
      split
      · exact cellForRowAt_isSome (List.getElem?_eq_getElem bound) currentDate cached
      · rfl
    · rfl

/-- **The table never indexes past its articles** in every run whose assignments all
recount, and an assignment that does not leaves it with the wrong count. -/
theorem rows_counted (h : (machine.given Recounts).Reachable Created vc) :
    vc.Counted ∧ (∀ e, vc.Allowed e → (vc.handle e).isSome = true) ∧
    ∀ e t, vc.Allowed e → vc.handle e = some t → (t.Counted ↔ vc.Recounts e) := by
  have kept : vc.Counted ∧ vc.Tableless := by
    apply h.invariant (fun vc => vc.Counted ∧ vc.Tableless)
    · rintro _ rfl
      exact ⟨nofun, fun _ => rfl⟩
    · rintro vc e t - ⟨counted, tableless⟩ allowed stepped
      exact ⟨(counted_step_iff counted tableless stepped).mpr allowed.2,
        tableless_step tableless allowed.1 stepped⟩
  obtain ⟨counted, tableless⟩ := kept
  refine ⟨counted, fun e allowed => counted.handle_isSome allowed, ?_⟩
  intro e t allowed stepped
  exact counted_step_iff counted tableless stepped

end

section

open HomeViewController (anArticle)

/-- A page laid out empty, which then shows two articles. -/
def shownTwo : HomeChildViewController :=
  ((machine.given Recounts).run {} [.loadView 0, .layout,
    .setViewModel { articles := [anArticle, anArticle] }, .cellForRowAt 1 0 fun _ => true]).getD {}

theorem shownTwo_reachable : (machine.given Recounts).Reachable Created shownTwo :=
  Machine.reachable_getD _ rfl (by decide)

theorem rows_counted_shownTwo : shownTwo.tableRows = some 2 ∧ shownTwo.Counted ∧
    (shownTwo.handle (.cellForRowAt 1 0 fun _ => false)).isSome = true := by
  obtain ⟨counted, safe, -⟩ := rows_counted shownTwo_reachable
  exact ⟨by decide, counted, safe _ (by decide)⟩

/-- The two articles are refreshed, and no article comes back. -/
def refreshedEmpty : HomeChildViewController :=
  (machine.run {} [.loadView 0, .layout, .setViewModel { articles := [anArticle, anArticle] },
    .setViewModel { articles := [] }]).getD {}

theorem refreshed_table_traps :
    ¬ ∀ vc, machine.Reachable Created vc →
      vc.Counted ∧ ∀ e, vc.Allowed e → (vc.handle e).isSome = true := by
  intro counted
  have reached : machine.Reachable Created refreshedEmpty :=
    Machine.reachable_getD _ rfl (by decide)
  have cell := (counted refreshedEmpty reached).2 (.cellForRowAt 1 0 fun _ => false) (by decide)
  revert cell
  decide

end

end HomeChildViewController

/-! ## The pages of Home -/

namespace HomeViewController

open HomeChildViewController (Created)

/-- What Home has made of a page is a run of the page. -/
def Evolved (child : HomeChildViewController) : Prop :=
  HomeChildViewController.machine.Reachable Created child ∧ child.isViewLoaded = true

section

variable {isURL : String → Bool} {s t : HomeViewController} {e : HomeEvent}
  {child : HomeChildViewController}

theorem Evolved.setArticles (h : Evolved child) (articles : List News) :
    Evolved (child.setArticles articles) := by
  refine ⟨.next (e := .setViewModel { child.viewModel with articles }) h.1 trivial rfl, ?_⟩
  rw [HomeChildViewController.setArticles_isViewLoaded]
  exact h.2

theorem Evolved.beginRefreshing (h : Evolved child) :
    Evolved { child with refreshControlIsRefreshing := true } :=
  ⟨.next (e := .beginRefreshing) h.1 h.2 rfl, h.2⟩

theorem evolved_newChild (i : Nat) (c : CategoryType) : Evolved (Feed.newChild i c) := by
  let viewModel := (Feed.newChild i c).viewModel
  let assigned := ({} : HomeChildViewController).setViewModel viewModel
  have assigns : HomeChildViewController.machine.allowed {} (.setViewModel viewModel) := trivial
  have reached : HomeChildViewController.machine.Reachable Created assigned :=
    .next (.start rfl) assigns rfl
  have loads : HomeChildViewController.machine.allowed assigned (.loadView i) :=
    (rfl : assigned.isViewLoaded = false)
  exact ⟨reached.next loads rfl, rfl⟩

theorem Evolved.answer {σ : Slot} (h : Evolved σ.child) (r : Request)
    (result : APIResult News) : Evolved (σ.answer r result).child := by
  obtain ⟨action, i, c, page⟩ := r
  cases result with
  | failure error => cases action <;> exact h
  | success response =>
    cases action with
    | fetchData =>
      simp only [Slot.answer, Slot.fecthDataResponse]
      split
      · exact h
      · exact h.setArticles _
    | pullToRefresh => exact h.setArticles _
    | loadMore =>
      simp only [Slot.answer, Slot.loadMoreApiResponse]
      split
      · exact h.setArticles _
      · exact h

theorem Evolved.send {f : Feed} (h : Evolved f.slot.child) (r : Request) :
    Evolved (f.send isURL r).slot.child := by
  obtain ⟨error, answered⟩ | started := f.send_cases isURL r
  · rw [answered]
    exact h.answer r (.failure error)
  · rw [started]
    exact h

theorem Evolved.step {i : Nat} {c : CategoryType} {f : Feed} (h : Evolved f.slot.child)
    (fe : FeedEvent) : Evolved (f.step isURL i c fe).slot.child := by
  cases fe with
  | refresh =>
    simp only [Feed.step, Feed.refresh]
    split
    · exact h.beginRefreshing
    · exact Evolved.send (f := { f with slot := { f.slot with
        child := { f.slot.child with refreshControlIsRefreshing := true } } }) h.beginRefreshing _
  | loadMore =>
    simp only [Feed.step, Feed.loadMore]
    split
    · exact h
    · split
      · exact Evolved.send (f := { f with slot := { f.slot with
          isLoading := true, currentPageParam := f.slot.currentPageParam + 1 } }) h _
      · exact h
  | respond r result => exact h.answer r result
  | clear => exact h.setArticles []

/-- **Every page of Home is a page of the machine above**: what fetches, refreshes,
load-mores and error alerts assign to it is a run of it. -/
theorem reachable_children (h : (machine isURL).Reachable (Launched isURL) s) :
    ∀ child ∈ s.viewControllers,
      HomeChildViewController.machine.Reachable Created child := by
  intro child mem
  obtain ⟨i, σ, slot, rfl⟩ := (reachable_aligned h).slot_of_child mem
  have evolved : Evolved σ.child := by
    refine slot_invariant (fun σ => Evolved σ.child) ?_ ?_ h slot
    · intro i c
      rw [Feed.opening_slot]
      exact evolved_newChild i c
    · intro i c f fe before
      exact before.step fe
  exact evolved.1

end

end HomeViewController

end NewsReader
