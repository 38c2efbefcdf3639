import NewsReader.Home.Articles
import NewsReader.Search.Answers
import NewsReader.Bookmarks.Screens

/-!
# Where bookmarks come from

The articles that Home and Search can open are the articles that Bookmarks takes
them to open: tagged with a category from the one, with none from the other.
-/

namespace NewsReader.Bookmarks

variable {isURL : String → Bool}

theorem openFromHome_allowed {home : HomeViewController}
    (h : (HomeViewController.machine isURL).Reachable (HomeViewController.Launched isURL) home)
    {child : HomeChildViewController} (mem : child ∈ home.viewControllers) {news : News}
    (shown : news ∈ child.viewModel.articles) (s : Bookmarks) :
    s.Allowed (.openFromHome news) := by
  obtain ⟨c, tagged⟩ := HomeViewController.home_articles_tagged h mem shown
  exact ⟨c, c.mem_allCases, tagged⟩

theorem openFromSearch_allowed {search : SearchNewsViewController} {date : String → Option Date}
    (h : ((SearchNewsViewController.machine isURL).given
      (SearchNewsViewController.Decodes date)).Reachable (· = {}) search) {news : News}
    (shown : news ∈ search.viewModel.searchItems) (s : Bookmarks) :
    s.Allowed (.openFromSearch news) :=
  (SearchNewsViewController.items_decoded h news shown).categoryNews

end NewsReader.Bookmarks
