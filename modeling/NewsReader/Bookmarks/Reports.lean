import NewsReader.Bookmarks.Screens

/-!
# What a write reports

A write calls its completion inside the transaction, before the commit that can
still throw, and does not run at all without a store; one that throws leaves the
transaction open, and the next write traps. So a report is made once, and is true,
exactly where the store is open, no write is, and the commit goes through
(`writes_truthful_iff`).
-/

namespace NewsReader

/-- A write that was to make `change` calls its completion once: with true only if the
change is in the store, and with false only if the store is as it was. -/
structure Truthful (m : RealmManager) (change : Realm → Realm)
    (outcome : RealmManager × Completions) : Prop where
  once : outcome.2.length = 1
  succeeded : ∀ message, (true, message) ∈ outcome.2 →
    ∃ realm, m.realm = some realm ∧ outcome.1 = ⟨some (change realm)⟩
  failed : ∀ message, (false, message) ∈ outcome.2 → outcome.1 = m

/-- The write is truthful, and a screen it reports false to is as it was. -/
structure TruthfulTo {ViewModel : Type} (vm : ViewModel) (m : RealmManager)
    (change : Realm → Realm) (outcome : RealmManager × ViewModel × Completions) : Prop where
  write : Truthful m change (outcome.1, outcome.2.2)
  unchanged : ∀ message, (false, message) ∈ outcome.2.2 → outcome.2.1 = vm

/-- The store is open, no write is left open, and the commit goes through. -/
def Commits (m : RealmManager) (commit : Commit) : Prop :=
  m.realm.isSome = true ∧ m.isInWriteTransaction = false ∧ commit = .succeeds

section Write

variable {m : RealmManager} {commit : Commit} {change : Realm → Realm}
  {body : Realm → Realm × Completions}

/-- The body of a write makes the change and reports true, or reports false and makes none. -/
def Reports (m : RealmManager) (change : Realm → Realm) (body : Realm → Realm × Completions) :
    Prop :=
  ∀ realm, m.realm = some realm → ∃ done message,
    body realm = (change realm, [(done, message)]) ∧ (done = false → change realm = realm) ∧
    (change realm).isInWriteTransaction = realm.isInWriteTransaction

/-- A write that commits calls back with what its body reports. -/
theorem Reports.write (reports : Reports m change body) (commits : Commits m commit) :
    ∃ realm done message, m.realm = some realm ∧
      m.write commit body = some (⟨some (change realm)⟩, [(done, message)]) ∧
      (done = false → change realm = realm) := by
  obtain ⟨opened, outside, rfl⟩ := commits
  obtain ⟨realm, opened⟩ := Option.isSome_iff_exists.mp opened
  obtain ⟨done, message, said, kept, transaction⟩ := reports realm opened
  have outside : realm.isInWriteTransaction = false := by
    simpa [RealmManager.isInWriteTransaction, opened] using outside
  refine ⟨realm, done, message, opened, ?_, kept⟩
  simp [RealmManager.write, opened, said, outside, Commit.completions,
    Realm.commitWrite_succeeds (transaction.trans outside)]

theorem Reports.truthful (reports : Reports m change body) (commits : Commits m commit) :
    ∃ outcome, m.write commit body = some outcome ∧ Truthful m change outcome := by
  obtain ⟨realm, done, message, opened, written, kept⟩ := reports.write commits
  refine ⟨_, written, rfl, ?_, ?_⟩
  · intro _ _
    exact ⟨realm, opened, rfl⟩
  · intro _ mem
    obtain ⟨rfl, -⟩ := Prod.mk.inj (List.mem_singleton.mp mem)
    obtain ⟨_⟩ := m
    rw [kept rfl]
    exact congrArg RealmManager.mk opened.symm

/-- Without a store nothing is called, and a commit that throws calls back twice. -/
theorem Reports.commits_of_once (reports : Reports m change body)
    {outcome : RealmManager × Completions} (wrote : m.write commit body = some outcome)
    (once : outcome.2.length = 1) : Commits m commit := by
  obtain ⟨outside, -⟩ := RealmManager.write_transaction wrote
  obtain ⟨-, -, called⟩ | ⟨realm, opened, -, -, called⟩ := RealmManager.write_some wrote
  · rw [called] at once
    cases once
  · obtain ⟨done, message, said, -⟩ := reports realm opened
    rw [called, said] at once
    cases commit with
    | succeeds => exact ⟨by rw [opened]; rfl, outside, rfl⟩
    | throws error => cases once

theorem Reports.truthful_iff (reports : Reports m change body) :
    (∃ outcome, m.write commit body = some outcome ∧ Truthful m change outcome) ↔
      Commits m commit := by
  constructor
  · rintro ⟨outcome, wrote, truthful⟩
    exact reports.commits_of_once wrote truthful.once
  · exact reports.truthful

/-- A screen that changes when it is told true is left alone when it is told false. -/
theorem Reports.truthfulTo_iff (reports : Reports m change body) {ViewModel : Type}
    (vm updated : ViewModel) :
    (∃ outcome, ((m.write commit body).map fun told =>
        (told.1, if told.2.any (·.1) then updated else vm, told.2)) = some outcome ∧
      TruthfulTo vm m change outcome) ↔ Commits m commit := by
  constructor
  · rintro ⟨_, ran, truthful⟩
    obtain ⟨outcome, wrote, rfl⟩ := Option.map_eq_some_iff.mp ran
    exact reports.commits_of_once wrote truthful.write.once
  · intro commits
    obtain ⟨realm, done, message, -, written, -⟩ := reports.write commits
    obtain ⟨outcome, wrote, truthful⟩ := reports.truthful commits
    obtain rfl := Option.some.inj (written.symm.trans wrote)
    refine ⟨_, by rw [wrote]; rfl, truthful, ?_⟩
    intro _ mem
    obtain ⟨rfl, -⟩ := Prod.mk.inj (List.mem_singleton.mp mem)
    rfl

end Write

/-! ## The three writes -/

section Reports

variable (m : RealmManager)

theorem reports_addObject (object : NewsObject) :
    Reports m (·.create object) fun realm => (realm.create object, [(true, "")]) := by
  intro realm _
  exact ⟨true, "", rfl, (by rintro ⟨⟩), realm.isInWriteTransaction_create object⟩

/-- `deleteObject` is a write whose body finds the object or says that there is none. -/
theorem deleteObject_eq_write (key : Option String) :
    ∃ body, (∀ commit, m.deleteObject key commit = m.write commit body) ∧
      Reports m (·.deleteKey key) body := by
  refine ⟨_, fun _ => rfl, ?_⟩
  intro realm opened
  have found : m.getObjectForKey key = realm.objectForPrimaryKey key := by
    simp [RealmManager.getObjectForKey, opened]
  simp only [found]
  cases there : realm.objectForPrimaryKey key with
  | none =>
    refine ⟨false, "No object in Realm", ?_, fun _ => ?_, ?_⟩
    · simp [Realm.deleteKey, there]
    · simp [Realm.deleteKey, there]
    · exact realm.isInWriteTransaction_deleteKey key
  | some obj =>
    refine ⟨true, "", ?_, (by rintro ⟨⟩), realm.isInWriteTransaction_deleteKey key⟩
    simp [Realm.deleteKey, there]

theorem deleteObjects_eq_write (keys : List (Option String)) :
    ∃ body, (∀ commit, m.deleteObjects keys commit = m.write commit body) ∧
      Reports m (·.deleteKeys keys) body := by
  refine ⟨fun realm =>
    ((keys.filterMap m.getObjectForKey).foldl Realm.delete realm, [(true, "")]), ?_, ?_⟩
  · intro commit
    simp only [RealmManager.deleteObjects]
  · intro realm opened
    refine ⟨true, "", ?_, (by rintro ⟨⟩), realm.isInWriteTransaction_deleteKeys keys⟩
    have found : m.getObjectForKey = realm.objectForPrimaryKey := by
      funext key
      simp [RealmManager.getObjectForKey, opened]
    simp only [found, Realm.deleteKeys]

/-- A screen that is told what `deleteObject` reports. -/
theorem truthfulTo_deleteObject_iff (key : Option String) (commit : Commit) {ViewModel : Type}
    (vm updated : ViewModel) :
    (∃ outcome, ((m.deleteObject key commit).map fun told =>
        (told.1, if told.2.any (·.1) then updated else vm, told.2)) = some outcome ∧
      TruthfulTo vm m (·.deleteKey key) outcome) ↔ Commits m commit := by
  obtain ⟨body, writes, reports⟩ := deleteObject_eq_write m key
  rw [writes]
  exact reports.truthfulTo_iff vm updated

end Reports

/-! ## The screens that write -/

section Screens

variable {m : RealmManager} {commit : Commit}

theorem addNewsInFavorites_eq (vm : NewsDetailViewModel) :
    vm.addNewsInFavorites m commit = (m.addObject vm.news commit).map fun told =>
      (told.1, if told.2.any (·.1) then { vm with isFavorited := true } else vm, told.2) := by
  rw [NewsDetailViewModel.addNewsInFavorites]
  cases m.addObject vm.news commit <;> rfl

theorem removeNewsInFavorites_eq {vm : NewsDetailViewModel} (readable : vm.news.Readable m) :
    vm.removeNewsInFavorites m commit = (m.deleteObject vm.news.key commit).map fun told =>
      (told.1, if told.2.any (·.1) then { vm with isFavorited := false } else vm, told.2) := by
  have read : vm.news.urlNews m = some vm.news.key :=
    NewsObject.urlNews_eq_some_iff.mpr ⟨rfl, readable⟩
  rw [NewsDetailViewModel.removeNewsInFavorites, read]
  cases wrote : m.deleteObject vm.news.key commit <;> simp [wrote]

theorem removeRow_eq {vm : FavoritesDetailViewModel} {row : Nat} {news : Accessor}
    (shown : vm.articles[row]? = some news) (readable : (NewsObject.managed news).Readable m) :
    vm.removeNewsInFavorites m row commit = (m.deleteObject news.urlNews commit).map fun told =>
      (told.1, if told.2.any (·.1) then { vm with articles := vm.articles.eraseIdx row } else vm,
        told.2) := by
  have read : (NewsObject.managed news).urlNews m = some news.urlNews :=
    NewsObject.urlNews_eq_some_iff.mpr ⟨rfl, readable⟩
  rw [FavoritesDetailViewModel.removeNewsInFavorites, shown]
  cases wrote : m.deleteObject news.urlNews commit <;> simp [read, wrote]

theorem mapM_urlNews {articles : List Accessor}
    (readable : ∀ news ∈ articles, (NewsObject.managed news).Readable m) :
    (articles.mapM fun news => (NewsObject.managed news).urlNews m) =
      some (articles.map (·.urlNews)) := by
  induction articles with
  | nil => rfl
  | cons news articles ih =>
    obtain ⟨here, rest⟩ := List.forall_mem_cons.mp readable
    have read : (NewsObject.managed news).urlNews m = some news.urlNews :=
      NewsObject.urlNews_eq_some_iff.mpr ⟨rfl, here⟩
    simp [List.mapM_cons, read, ih rest]

theorem removeArticles_eq {vm : FavoritesDetailViewModel} {articles : List Accessor}
    (readable : ∀ news ∈ articles, (NewsObject.managed news).Readable m)
    (some : articles ≠ []) :
    vm.removeArticlesInFavorites m articles commit =
      (m.deleteObjects (articles.map fun news => .some (news.urlNews.getD "No url")) commit).map
        fun told => (told.1, if told.2.any (·.1) then
          { vm with articles := articles.foldl List.erase vm.articles } else vm, told.2) := by
  obtain ⟨first, rest, rfl⟩ := List.exists_cons_of_ne_nil some
  rw [FavoritesDetailViewModel.removeArticlesInFavorites, mapM_urlNews readable]
  simp only [List.map_map, Function.comp_def, Option.bind_eq_bind, Option.bind_some,
    List.getElem?_cons_zero]
  cases m.deleteObjects ((first :: rest).map fun news => .some (news.urlNews.getD "No url"))
    commit <;> rfl

end Screens

/-- **Writes report once and truthfully**, and leave a screen alone that they report
false to, exactly where the store is open, no write is left open, and the commit goes
through. -/
theorem writes_truthful_iff (m : RealmManager) (commit : Commit) :
    (∀ object, (∃ outcome, m.addObject object commit = some outcome ∧
      Truthful m (·.create object) outcome) ↔ Commits m commit) ∧
    (∀ key, (∃ outcome, m.deleteObject key commit = some outcome ∧
      Truthful m (·.deleteKey key) outcome) ↔ Commits m commit) ∧
    (∀ keys, (∃ outcome, m.deleteObjects keys commit = some outcome ∧
      Truthful m (·.deleteKeys keys) outcome) ↔ Commits m commit) ∧
    (∀ vm : NewsDetailViewModel, (∃ outcome, vm.addNewsInFavorites m commit = some outcome ∧
      TruthfulTo vm m (·.create vm.news) outcome) ↔ Commits m commit) ∧
    (∀ vm : NewsDetailViewModel, vm.news.Readable m →
      ((∃ outcome, vm.removeNewsInFavorites m commit = some outcome ∧
        TruthfulTo vm m (·.deleteKey vm.news.key) outcome) ↔ Commits m commit)) ∧
    (∀ (vm : FavoritesDetailViewModel) row news, vm.articles[row]? = some news →
      (NewsObject.managed news).Readable m →
      ((∃ outcome, vm.removeNewsInFavorites m row commit = some outcome ∧
        TruthfulTo vm m (·.deleteKey news.urlNews) outcome) ↔ Commits m commit)) ∧
    (∀ (vm : FavoritesDetailViewModel) articles, articles ≠ [] →
      (∀ news ∈ articles, (NewsObject.managed news).Readable m) →
      ((∃ outcome, vm.removeArticlesInFavorites m articles commit = some outcome ∧
        TruthfulTo vm m
          (·.deleteKeys (articles.map fun news => some (news.urlNews.getD "No url"))) outcome) ↔
        Commits m commit)) := by
  refine ⟨?_, ?_, ?_, ?_, ?_, ?_, ?_⟩
  · intro object
    exact (reports_addObject m object).truthful_iff
  · intro key
    obtain ⟨body, writes, reports⟩ := deleteObject_eq_write m key
    rw [writes]
    exact reports.truthful_iff
  · intro keys
    obtain ⟨body, writes, reports⟩ := deleteObjects_eq_write m keys
    rw [writes]
    exact reports.truthful_iff
  · intro vm
    rw [addNewsInFavorites_eq]
    exact (reports_addObject m vm.news).truthfulTo_iff vm { vm with isFavorited := true }
  · intro vm readable
    rw [removeNewsInFavorites_eq readable]
    exact truthfulTo_deleteObject_iff m vm.news.key commit vm { vm with isFavorited := false }
  · intro vm row news shown readable
    rw [removeRow_eq shown readable]
    exact truthfulTo_deleteObject_iff m news.urlNews commit vm
      { vm with articles := vm.articles.eraseIdx row }
  · intro vm articles some readable
    rw [removeArticles_eq readable some]
    obtain ⟨body, writes, reports⟩ := deleteObjects_eq_write m
      (articles.map fun news => .some (news.urlNews.getD "No url"))
    rw [writes]
    exact reports.truthfulTo_iff vm { vm with articles := articles.foldl List.erase vm.articles }

theorem writes_truthful_emptyStore :
    ∃ outcome, NewsDetailViewModel.addNewsInFavorites Bookmarks.emptyStore.manager
        ⟨.unmanaged Bookmarks.homeArticle, false⟩ .succeeds = some outcome ∧
      TruthfulTo ⟨.unmanaged Bookmarks.homeArticle, false⟩ Bookmarks.emptyStore.manager
        (·.create (.unmanaged Bookmarks.homeArticle)) outcome := by
  obtain ⟨-, -, -, add, -⟩ := writes_truthful_iff Bookmarks.emptyStore.manager .succeeds
  exact (add ⟨.unmanaged Bookmarks.homeArticle, false⟩).mpr ⟨rfl, rfl, rfl⟩

/-- The commit of a bookmark throws: the screen is told true and then false. -/
theorem thrown_commit_reports_twice :
    ¬ ∀ (m : RealmManager) (vm : NewsDetailViewModel) (commit : Commit) outcome,
      vm.addNewsInFavorites m commit = some outcome →
      TruthfulTo vm m (·.create vm.news) outcome := by
  intro truthful
  let tapped : NewsDetailViewModel := ⟨.unmanaged Bookmarks.homeArticle, false⟩
  let error : Commit := .throws "No space left on device"
  let stored : Realm := ({} : Realm).create (.unmanaged Bookmarks.homeArticle)
  have ran : tapped.addNewsInFavorites Bookmarks.emptyStore.manager error =
      some (⟨some (stored.commitWrite error)⟩, ⟨.unmanaged Bookmarks.homeArticle, true⟩,
        (true, "") :: error.completions) := rfl
  have twice := (truthful Bookmarks.emptyStore.manager tapped error _ ran).write.once
  cases twice

end NewsReader
