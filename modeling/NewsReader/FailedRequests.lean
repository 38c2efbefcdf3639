import NewsReader.Home.FailedRequests
import NewsReader.Search.FailedRequests

/-!
# Failed requests

Home and Search count a page before they ask for it, and no failure takes it back. A
refresh and a search count their page when it arrives, so they can fail again and again
and the list goes on from the page that is missing (`failed_requests_asked_again`).
-/

namespace NewsReader

/-- **Failed requests.** No failure touches a list, nor whether it can grow. In orderly runs
a request that fails leaves its list free, with its first missing page asked for next,
exactly where it is a refresh that fails with the lock free, or a search. -/
theorem failed_requests_asked_again (isURL : String → Bool) :
    ((∀ i p q, (HomeViewController.pagedMachine isURL).Reachable
          (fun p => HomeViewController.Launched isURL p.1) p →
        ((HomeViewController.pagedMachine isURL).given
          fun _ e => ¬ HomeViewController.Brings i e).Reachable (· = p) q →
        q.1.viewModel.articlesArray[i]? = p.1.viewModel.articlesArray[i]? ∧
          q.1.viewModel.canLoadMore[i]? = p.1.viewModel.canLoadMore[i]?) ∧
      ∀ i p q (r : Request) error, ((HomeViewController.pagedMachine isURL).given
          fun p e => p.1.Orderly isURL i e).Reachable (HomeViewController.Starts isURL i) p →
        ((HomeViewController.pagedMachine isURL).given fun p e => p.1.Orderly isURL i e ∧
          ¬ HomeViewController.Brings i e).Reachable (· = p) q →
        r ∈ q.1.outstanding → r.index = i →
        ((∃ t, q.1.handle isURL (.respond r (.failure error)) = some t ∧
            HomeViewController.Retried isURL p.1 t i (q.2 i)) ↔
          r.action = .pullToRefresh ∧ q.1.viewModel.isLoading[i]? = some false)) ∧
    ((∀ p q, (SearchNewsViewController.session isURL).Reachable SearchNewsViewController.Opened p →
        ((SearchNewsViewController.session isURL).given
          fun _ e => ¬ SearchNewsViewController.Brings e).Reachable (· = p) q →
        q.1.viewModel.searchItems = p.1.viewModel.searchItems ∧
          q.1.viewModel.canLoadMore = p.1.viewModel.canLoadMore ∧
          q.1.viewModel.oldQueryString = p.1.viewModel.oldQueryString) ∧
      (SearchNewsViewModel.Reaches isURL → ∀ p q task error,
        ((SearchNewsViewController.session isURL).given
          SearchNewsViewController.Orderly).Reachable SearchNewsViewController.Opened p →
        ((SearchNewsViewController.session isURL).given fun p e =>
          SearchNewsViewController.Orderly p e ∧
            ¬ SearchNewsViewController.Brings e).Reachable (· = p) q →
        task ∈ q.1.dataTasks →
        (SearchNewsViewController.Retried isURL p.1
            (q.1.handle isURL (.respond task (.failure error))) q.2 ↔
          task.call = .searchNews))) := by
  refine ⟨⟨?_, ?_⟩, ?_, ?_⟩
  · intro i p q reached since
    have aligned := HomeViewController.reachable_aligned reached.of_observed
    exact (HomeViewController.list_kept aligned since).2
  · rintro i p q r error reached since mem rfl
    exact HomeViewController.retried_after reached since mem error
  · intro p q _ since
    exact SearchNewsViewController.list_kept since
  · intro reaches p q task error reached since mem
    exact SearchNewsViewController.retried_after reaches reached since mem error

theorem reaches_anyURL_iff {c : CategoryType} : Reaches anyURL c ↔ c ≠ .health := by
  constructor
  · rintro reaches rfl
    have refused := reaches 1
    rw [APIManager.getTopHeadlines, if_pos rfl] at refused
    cases refused
  · intro other page
    rw [APIManager.getTopHeadlines, if_neg]
    · rfl
    · cases c <;> first | decide | exact absurd rfl other

instance : DecidablePred (Reaches anyURL) := fun _ => decidable_of_iff _ reaches_anyURL_iff.symm

/-- The us page is fetched. -/
def usFetched : HomeViewController × (Nat → List Nat) :=
  (((HomeViewController.pagedMachine anyURL).given fun p e => p.1.Orderly anyURL 0 e).run
    (HomeViewController.launch {}, fun _ => [])
    [.respond ⟨.fetchData, 0, .us, 1⟩ HomeViewController.answered]).getD
      (HomeViewController.launch {}, fun _ => [])

theorem starts_launch :
    HomeViewController.Starts anyURL 0 (HomeViewController.launch {}, fun _ => []) := by
  refine ⟨HomeViewController.launched {}, ?_, rfl⟩
  intro c first
  have us : (HomeViewController.launch {}).categories[0]? = some .us := by decide
  obtain rfl := Option.mem_unique us first
  exact HomeViewController.reaches_anyURL

theorem usFetched_reachable :
    ((HomeViewController.pagedMachine anyURL).given fun p e => p.1.Orderly anyURL 0 e).Reachable
      (HomeViewController.Starts anyURL 0) usFetched :=
  Machine.reachable_getD _ starts_launch (by decide)

/-- Its refresh fails, and is asked for again. -/
def usFailing : HomeViewController × (Nat → List Nat) :=
  (((HomeViewController.pagedMachine anyURL).given fun p e =>
    p.1.Orderly anyURL 0 e ∧ ¬ HomeViewController.Brings 0 e).run usFetched
    [.refreshHomeChildVC 0, .respond ⟨.pullToRefresh, 0, .us, 1⟩ (.failure .errorNetwork),
      .refreshHomeChildVC 0]).getD usFetched

/-- A search for mars is found. -/
def marsListed : Session :=
  (((SearchNewsViewController.session anyURL).given SearchNewsViewController.Orderly).run ({}, [])
    (SearchNewsViewController.marsPages.take 3)).getD ({}, [])

/-- A search for venus is outstanding then. -/
def venusFailing : Session :=
  (((SearchNewsViewController.session anyURL).given fun p e =>
    SearchNewsViewController.Orderly p e ∧ ¬ SearchNewsViewController.Brings e).run marsListed
    [.updateSearchResults (some "venus"), .searchNews]).getD marsListed

theorem failed_requests_asked_again_refresh :
    (∃ t, usFailing.1.handle anyURL (.respond ⟨.pullToRefresh, 0, .us, 1⟩
        (.failure .errorNetwork)) = some t ∧
      HomeViewController.Retried anyURL usFetched.1 t 0 [1]) ∧
    SearchNewsViewController.Retried anyURL marsListed.1
      (venusFailing.1.handle anyURL (.respond ⟨1, .searchNews, "venus", 1⟩
        (.failure .errorNetwork))) marsListed.2 := by
  obtain ⟨⟨-, home⟩, -, search⟩ := failed_requests_asked_again anyURL
  constructor
  · have again := home 0 usFetched usFailing ⟨.pullToRefresh, 0, .us, 1⟩ .errorNetwork
      usFetched_reachable (Machine.reachable_getD _ rfl (by decide)) (by decide) rfl
    have pages : usFailing.2 0 = [1] := by decide
    rw [pages] at again
    exact again.mpr ⟨rfl, by decide⟩
  · have again := search SearchNewsViewController.reaches_anyURL marsListed venusFailing
      ⟨1, .searchNews, "venus", 1⟩ .errorNetwork (Machine.reachable_getD _ rfl (by decide))
      (Machine.reachable_getD _ rfl (by decide)) (by decide)
    have answers : venusFailing.2 = marsListed.2 := by decide
    rw [answers] at again
    exact again.mpr rfl

/-- A load-more of page 2 is outstanding. -/
def usLoading : HomeViewController × (Nat → List Nat) :=
  ((HomeViewController.pagedMachine anyURL).run (HomeViewController.launch {}, fun _ => [])
    [.respond ⟨.fetchData, 0, .us, 1⟩ HomeViewController.answered, .loadMore 0]).getD
      (HomeViewController.launch {}, fun _ => [])

/-- It fails. -/
def usFailed : HomeViewController :=
  (usLoading.1.handle anyURL (.respond ⟨.loadMore, 0, .us, 2⟩ (.failure .errorNetwork))).getD
    usLoading.1

theorem failed_page_skipped :
    ¬ ∀ p, (HomeViewController.pagedMachine anyURL).Reachable
        (HomeViewController.Starts anyURL 0) p →
      ∀ r ∈ p.1.outstanding, r.index = 0 → ∀ error,
        ∃ t, p.1.handle anyURL (.respond r (.failure error)) = some t ∧
          HomeViewController.Retried anyURL p.1 t 0 (p.2 0) := by
  intro retried
  obtain ⟨t, stepped, -, -, -, next⟩ := retried usLoading
    (Machine.reachable_getD _ starts_launch (by decide)) ⟨.loadMore, 0, .us, 2⟩ (by decide) rfl
    .errorNetwork
  obtain rfl : usFailed = t := congrArg (·.getD usLoading.1) stepped
  have asks : (usFailed.handle anyURL (.loadMore 0)).map (·.requestsFor 0) =
      some (usFailed.requestsFor 0 ++ [⟨.loadMore, 0, .us, 3⟩]) := by decide
  obtain ⟨u, ran, asked⟩ := Option.map_eq_some_iff.mp asks
  -- page 3 goes out, and page 2 is nowhere
  have second := (next u _ ran asked).before 2 (by decide) (by decide)
  revert second
  decide

end NewsReader
