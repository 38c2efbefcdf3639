import NewsReader.Bookmarks.ListScreen

/-!
# Bookmarks lists whose articles stay stored

A list on screen keeps accessors of the articles it has fetched. As long as no other screen
deletes one of these they stay attached, whatever the screen itself deletes, and no event of
it traps as long as nothing is written once a commit has thrown (`list_never_traps`).
-/

namespace NewsReader

namespace FavoritesScreen

/-- Every listed article is stored. -/
def Listed (s : FavoritesScreen) : Prop :=
  ∀ a ∈ s.table.viewModel.articles, s.table.manager.getObjectForKey a.urlNews = some a

/-- No other screen deletes a listed article, a question is answered while the list still
has its row, and nothing writes inside a write. The key that articles without a url are
looked up under is that of none. -/
def Spares (s : FavoritesScreen) : FavoritesScreenEvent → Prop
  | .table (.ok alert _) => ¬ s.InWrite ∧ ∀ cell ∈ s.table.alerts[alert]?,
    cell.row < s.table.viewModel.articles.length
  | .table (.addObject _ _) => ¬ s.InWrite
  | .table (.deleteObject key _) => ¬ s.InWrite ∧
    ∀ a ∈ s.table.viewModel.articles, a.urlNews ≠ key
  | .table (.deleteObjects keys _) => ¬ s.InWrite ∧
    ∀ a ∈ s.table.viewModel.articles, a.urlNews ∉ keys
  | .ok .deleteNews _ => (s.selectedRows ≠ [] → ¬ s.InWrite) ∧
    ∀ a ∈ s.table.viewModel.articles, a.urlNews ≠ some "No url"
  | _ => True

instance (s : FavoritesScreen) (e : FavoritesScreenEvent) : Decidable (s.Spares e) := by
  unfold Spares
  split <;> infer_instance

section

variable {s t : FavoritesScreen} {row : Nat} {commit : Commit}

theorem Listed.stored (h : s.Listed) (bound : row < s.table.viewModel.articles.length) :
    s.Stored row :=
  ⟨_, List.getElem?_eq_getElem bound, h _ (List.getElem_mem bound)⟩

/-- Listed articles with one key are the same. -/
theorem Listed.unique (h : s.Listed) {a b : Accessor} (ha : a ∈ s.table.viewModel.articles)
    (hb : b ∈ s.table.viewModel.articles) (same : b.urlNews = a.urlNews) : b = a :=
  Option.some.inj ((h b hb).symm.trans (same ▸ h a ha))

theorem listed_fetched (m : RealmManager) (query : String) :
    ∀ a ∈ m.getNewsForCategoryInRealm query, m.getObjectForKey a.urlNews = some a := by
  intro a mem
  obtain ⟨row, stored, -, rfl⟩ := RealmManager.mem_getNewsForCategory.mp mem
  exact RealmManager.getObjectForKey_stored stored

/-- A fetch lists what is stored, or leaves the list. -/
theorem listed_fetchData {m : RealmManager} {vm : FavoritesDetailViewModel}
    (before : ∀ a ∈ vm.articles, m.getObjectForKey a.urlNews = some a) :
    ∀ a ∈ (vm.fetchData m).1.articles, m.getObjectForKey a.urlNews = some a := by
  unfold FavoritesDetailViewModel.fetchData
  dsimp only
  split
  · exact before
  · exact listed_fetched m _

theorem Listed.deleteNews (h : s.Listed) (inStep : s.InStep) {alert : Nat}
    (deleted : s.deleteNews alert commit = some t) : t.Listed := by
  obtain ⟨cell, pending, deleted'⟩ := Option.bind_eq_some_iff.mp deleted
  obtain ⟨table, answer, -⟩ := Option.bind_eq_some_iff.mp deleted'
  obtain ⟨a, found, attached, outside, -⟩ :=
    (FavoritesDetailViewController.ok_some_iff inStep.table.synced pending).mp answer
  obtain ⟨alerts, same⟩ := deleteNews_eq inStep pending found attached outside commit
  obtain rfl := Option.mem_unique same deleted
  intro b mem
  have left : b ∈ s.table.viewModel.articles.eraseIdx cell.row := mem
  rw [eraseIdx_eq_erase inStep.table.distinct found, inStep.table.distinct.mem_erase_iff] at left
  obtain ⟨other, listed⟩ := left
  have apart : b.urlNews ≠ a.urlNews :=
    fun same => other (h.unique (List.mem_of_getElem? found) listed same)
  have wrote := FavoritesDetailViewController.deleteObject_eq outside attached commit
  exact (RealmManager.getObjectForKey_deleteObject wrote _).trans
    ((if_neg apart).trans (h b listed))

/-- What is not selected is not deleted with the selected rows. -/
theorem Listed.withoutSelected (h : s.Listed) (inStep : s.InStep)
    (spares : s.Spares (.ok .deleteNews commit)) {manager : RealmManager}
    {completions : Completions}
    (wrote : s.table.manager.deleteObjects s.selectedKeys commit = some (manager, completions)) :
    (s.withoutSelected manager).Listed := by
  intro b mem
  have left : b ∈ withoutRows s.table.viewModel.articles s.selectedRows := mem
  rw [withoutRows_eq_filter inStep.table.distinct, List.mem_filter, decide_eq_true_eq] at left
  obtain ⟨listed, unselected⟩ := left
  have kept : b.urlNews ∉ s.selectedKeys := by
    intro deleted
    obtain ⟨a, selected, key⟩ := List.mem_map.mp deleted
    cases url : a.urlNews with
    | none =>
      rw [FavoritesDetailViewModel.bulkKey, url] at key
      exact spares.2 b listed key.symm
    | some u =>
      rw [FavoritesDetailViewModel.bulkKey, url] at key
      have same : b.urlNews = a.urlNews := key.symm.trans url.symm
      exact unselected (h.unique (mem_of_mem_select selected) listed same ▸ selected)
  exact (RealmManager.getObjectForKey_deleteObjects wrote _).trans
    ((if_neg kept).trans (h b listed))

theorem Listed.setTable (h : s.Listed) {e : FavoritesEvent} {c : FavoritesDetailViewController}
    (question : ∀ alert commit, e ≠ .ok alert commit) (spares : s.Spares (.table e))
    (stepped : s.table.handle e = some c) :
    ∀ a ∈ c.viewModel.articles, c.manager.getObjectForKey a.urlNews = some a := by
  cases e with
  | cellForRowAt row =>
    obtain ⟨news, -, -, rfl⟩ := FavoritesDetailViewController.cellForRowAt_some stepped
    exact h
  | deleteNewsButtonTouchUpInside row =>
    obtain ⟨cell, -, rfl⟩ := FavoritesDetailViewController.deleteButton_some stepped
    exact h
  | didEndDisplaying | cancel =>
    obtain rfl := Option.some.inj stepped
    exact h
  | ok alert commit => exact absurd rfl (question alert commit)
  | notify =>
    obtain rfl := Option.some.inj stepped
    exact listed_fetchData h
  | addObject object commit =>
    obtain ⟨m, _, wrote, rfl⟩ := FavoritesDetailViewController.written_some stepped
    exact fun a mem => FavoritesDetailViewController.attached_addObject (h a mem) wrote
  | deleteObject key commit =>
    obtain ⟨m, _, wrote, rfl⟩ := FavoritesDetailViewController.written_some stepped
    intro a mem
    exact (RealmManager.getObjectForKey_deleteObject wrote _).trans
      ((if_neg (spares.2 a mem)).trans (h a mem))
  | deleteObjects keys commit =>
    obtain ⟨m, _, wrote, rfl⟩ := FavoritesDetailViewController.written_some stepped
    intro a mem
    exact (RealmManager.getObjectForKey_deleteObjects wrote _).trans
      ((if_neg (spares.2 a mem)).trans (h a mem))

/-- **One event** that spares the listed articles leaves every listed article stored. -/
theorem Listed.handle (h : s.Listed) (inStep : s.InStep) {e : FavoritesScreenEvent}
    (allowed : s.Allowed e) (spares : s.Spares e) (stepped : s.handle e = some t) : t.Listed := by
  cases e with
  | table e =>
    have carried (question : ∀ alert commit, e ≠ .ok alert commit)
        (stepped : ((s.table.handle e).bind fun table => some { s with table }) = some t) :
        t.Listed := by
      obtain ⟨table, handled, same⟩ := Option.bind_eq_some_iff.mp stepped
      obtain rfl := Option.some.inj same
      exact h.setTable question spares handled
    cases e with
    | ok alert commit => exact h.deleteNews inStep stepped
    | notify =>
      obtain rfl := Option.some.inj stepped
      exact listed_fetchData h
    | cellForRowAt | didEndDisplaying | deleteNewsButtonTouchUpInside | cancel | addObject
    | deleteObject | deleteObjects => exact carried nofun stepped
  | tapRow row =>
    obtain ⟨selectedRows, rfl, -⟩ := tapRow_some inStep allowed.2 stepped
    exact h
  | ok alert commit =>
    cases alert with
    | deleteNews =>
      by_cases none : s.selectedRows = []
      · obtain rfl := Option.some.inj ((if_pos none).symm.trans stepped)
        exact h
      · have closed : InStep { s with alerts := s.alerts.erase .deleteNews } :=
          ⟨inStep.table, inStep.selected, inStep.inside, inStep.buttons⟩
        obtain ⟨manager, alerts, wrote, same⟩ := deleteSelected_eq closed none
          (fun row mem => h.stored (inStep.inside_articles row mem))
          (Bool.eq_false_iff.mpr (spares.1 none)) commit
        obtain rfl := Option.mem_unique same stepped
        exact h.withoutSelected inStep spares wrote
    | noArticles | notice =>
      obtain rfl := Option.some.inj stepped
      exact h
  | loadImageDone row isLoaded =>
    obtain ⟨cells, -, done⟩ := loadImageDone_some inStep row isLoaded
    obtain rfl := Option.mem_unique done stepped
    exact h
  | editButtonTouchUpInside | deleteNewsButtonTouchUpInside | cancel | observeError =>
    obtain rfl := Option.some.inj stepped
    exact h

end

end FavoritesScreen

end NewsReader
