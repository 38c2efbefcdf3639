import NewsReader.PagedList
import NewsReader.Search.Answers

/-!
# The pages Search accepts

The list of Search is one that comes in pages, as a list of Home is. A search begins it
anew without looking at the query or the page that a load-more was for, and does not forget
that it was at its end: only Cancel does (`items_accepted`).
-/

namespace NewsReader

/-- What the answer to a data task is to the list. -/
def SearchTask.pageEvent (task : SearchTask) : APIResult News → Option (PageEvent News)
  | .failure _ => none
  | .success response =>
    match task.call with
    | .searchNews => some (.first response.articles)
    | .loadMoreSearchNews =>
      if response.articles.isEmpty then some .last else some (.more response.articles)

def SearchEvent.pageEvent : SearchEvent → Option (PageEvent News)
  | .respond task result => task.pageEvent result
  | .searchBarCancelButtonClicked => some (.restart [])
  | .updateSearchResults _ | .searchNews | .scrollViewDidScroll => none

namespace SearchNewsViewController

def pagedList (s : SearchNewsViewController) : PagedList News :=
  ⟨s.viewModel.searchItems, s.viewModel.canLoadMore⟩

section

variable {isURL : String → Bool} {s t : SearchNewsViewController} {es : List SearchEvent}

theorem pagedList_respond (task : SearchTask) (result : APIResult News) :
    (s.respond task result).pagedList = s.pagedList.after (task.pageEvent result) := by
  cases result with
  | failure error =>
    rw [pagedList, respond, answered_failure]
    rfl
  | success response =>
    cases call : task.call with
    | searchNews =>
      simp [pagedList, respond, answered_search s call, SearchTask.pageEvent, call,
        PagedList.after, PagedList.step]
    | loadMoreSearchNews =>
      cases articles : response.articles <;>
        simp [pagedList, respond, answered_more s call, SearchTask.pageEvent, call, articles,
          PagedList.after, PagedList.step]

theorem pagedList_handle (s : SearchNewsViewController) (e : SearchEvent) :
    (s.handle isURL e).pagedList = s.pagedList.after e.pageEvent := by
  cases e with
  | updateSearchResults text => cases text <;> rfl
  | searchNews =>
    obtain ⟨-, fired⟩ | ⟨-, -, fired⟩ | ⟨-, -, fired⟩ := searchNews_cases isURL
      { s with searchIsScheduled := false }
    · rw [handle, fired]
      rfl
    · rw [handle, fired]
      rfl
    · rw [handle, fired]
      rfl
  | scrollViewDidScroll =>
    obtain ⟨-, scrolled⟩ | ⟨-, page, -, scrolled⟩ | ⟨-, -, scrolled⟩ :=
      scrollViewDidScroll_cases isURL s
    · rw [handle, scrolled]
      rfl
    · rw [handle, scrolled]
      rfl
    · rw [handle, scrolled]
      rfl
  | searchBarCancelButtonClicked => rfl
  | respond task result => exact pagedList_respond task result

/-- What the events of a run from the opening of the screen are to its list, in their order. -/
def accepted (isURL : String → Bool) (es : List SearchEvent) : List (PageEvent News) :=
  (machine isURL).project (fun _ e => e.pageEvent) {} es

/-- **Search shows the pages it accepted.** After any run, the items are those of the search
that answered last, or none since Cancel, and the further pages since, each once and in the
order of their answers. No more are asked for once an answer since the last Cancel had none. -/
theorem items_accepted (ran : (machine isURL).run {} es = some t) :
    t.viewModel.searchItems = PagedList.begun (accepted isURL es) ++
      PagedList.pagesSince (accepted isURL es) ∧
    t.viewModel.canLoadMore = ! PagedList.atEnd (accepted isURL es) := by
  have folded : t.pagedList = (accepted isURL es).foldl PagedList.step {} := by
    refine PagedList.run_foldl pagedList (fun _ => True) (fun _ _ _ _ _ _ => trivial) ?_
      trivial ran
    rintro s e t - - ⟨⟩
    exact pagedList_handle s e
  rw [← PagedList.items_foldl, ← PagedList.canLoadMore_foldl, ← folded]
  exact ⟨rfl, rfl⟩

end

section

/-- Two pages of mars and the end after them, then venus. -/
def marsThenVenus : List SearchEvent :=
  let found (n : Nat) (call : SearchCall) (query : String) (page : Nat) (articles : List News) :
      SearchEvent := .respond ⟨n, call, query, page⟩ (.success ⟨"ok", articles⟩)
  [.updateSearchResults (some "mars"), .searchNews, found 0 .searchNews "mars" 1 [{}],
    .scrollViewDidScroll, found 1 .loadMoreSearchNews "mars" 2 [{}, {}],
    .scrollViewDidScroll, found 2 .loadMoreSearchNews "mars" 3 [],
    .updateSearchResults (some "venus"), .searchNews, found 3 .searchNews "venus" 1 [{}]]

theorem items_accepted_marsThenVenus : ∃ t,
    (machine fun _ => true).run {} marsThenVenus = some t ∧
    t.viewModel.searchItems.length = 1 ∧ t.viewModel.canLoadMore = false ∧
    t.viewModel.canLoadMore = ! PagedList.atEnd (accepted (fun _ => true) marsThenVenus) := by
  have end_of_run : ((machine fun _ => true).run {} marsThenVenus).map (fun t =>
      (t.viewModel.searchItems.length, t.viewModel.canLoadMore)) = some (1, false) := by decide
  obtain ⟨t, ran, shown⟩ := Option.map_eq_some_iff.mp end_of_run
  obtain ⟨length, more⟩ := Prod.mk.inj shown
  exact ⟨t, ran, length, more, (items_accepted ran).2⟩

end

end SearchNewsViewController

end NewsReader
