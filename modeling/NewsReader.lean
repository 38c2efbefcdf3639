import NewsReader.Machine
import NewsReader.Subscript
import NewsReader.Pages
import NewsReader.News
import NewsReader.API
import NewsReader.Setting
import NewsReader.SettingSession
import NewsReader.Home.HomeViewController
import NewsReader.Home.Opening
import NewsReader.Home.Runs
import NewsReader.Home.IndexSafety
import NewsReader.Home.Configuration
import NewsReader.Home.Categories
import NewsReader.Home.Articles
import NewsReader.Home.Requests
import NewsReader.Home.Paging
import NewsReader.Home.Mirror
import NewsReader.Home.Independence
import NewsReader.Search.Query
import NewsReader.Search.SearchNewsViewModel
import NewsReader.Search.Answers
import NewsReader.Search.Paging
import NewsReader.Search.Homogeneity
import NewsReader.Search.TypedQueries
import NewsReader.Search.Cancellation
import NewsReader.Table
import NewsReader.Downloader
import NewsReader.Realm
import NewsReader.Bookmarks.Screens
import NewsReader.Bookmarks.Origins
import NewsReader.Home.ChildTable
import NewsReader.Bookmarks.Listing
import NewsReader.Bookmarks.Flags
import NewsReader.Bookmarks.Reports
import NewsReader.Bookmarks.Undo
import NewsReader.Bookmarks.Following
import NewsReader.RelativeDate
import NewsReader.Home.Presentation
import NewsReader.Home.Loading
import NewsReader.Bookmarks.Sharing
import NewsReader.Selection
import NewsReader.Bookmarks.BulkDelete
import NewsReader.QueryItems
import NewsReader.Search.SearchURL
import NewsReader.JSON
import NewsReader.Decoding
import NewsReader.ImageLookup
import NewsReader.Bookmarks.DisplayedCells
import NewsReader.Home.FailedRequests
import NewsReader.Search.FailedRequests
import NewsReader.FailedRequests
import NewsReader.Bookmarks.SelectedRows
import NewsReader.Cells
import NewsReader.PagedList
import NewsReader.SettingScreen
import NewsReader.Home.RequestURL
import NewsReader.Home.Screen
import NewsReader.Home.Accepted
import NewsReader.Search.Screen
import NewsReader.Search.Message
import NewsReader.Search.Accepted
import NewsReader.UserDefaults
import NewsReader.Scene.Scene
import NewsReader.Scene.Components
import NewsReader.Scene.Deliveries
import NewsReader.Scene.Lifetime
import NewsReader.Scene.Traps
import NewsReader.Bookmarks.ListScreen
import NewsReader.Bookmarks.Spared
import NewsReader.Bookmarks.Tab
import NewsReader.Bookmarks.DetailScreen
import NewsReader.Replay
import NewsReader.Bookmarks.Writes
import NewsReader.Scene.Writes
