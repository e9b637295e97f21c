import ResourceCatalog.Browser.Location
import ResourceCatalog.Catalog.Hue
import ResourceCatalog.Catalog.Resource
import ResourceCatalog.Catalog.ResourceType
import ResourceCatalog.Charset.Alphabet
import ResourceCatalog.Charset.Chinese.Big5
import ResourceCatalog.Charset.Chinese.Gb18030
import ResourceCatalog.Charset.Chinese.Gb2312
import ResourceCatalog.Charset.Chinese.HongKong
import ResourceCatalog.Charset.Chinese.Taiwan
import ResourceCatalog.Charset.Decode
import ResourceCatalog.Charset.Grid
import ResourceCatalog.Charset.Japanese.EucJp
import ResourceCatalog.Charset.Japanese.Iso2022Jp
import ResourceCatalog.Charset.Japanese.JisX0208
import ResourceCatalog.Charset.Japanese.JisX0212
import ResourceCatalog.Charset.Japanese.NarrowKana
import ResourceCatalog.Charset.Japanese.ShiftJis
import ResourceCatalog.Charset.Korean.EucKr
import ResourceCatalog.Charset.Korean.KsX1001
import ResourceCatalog.Charset.Label
import ResourceCatalog.Charset.Reader
import ResourceCatalog.Charset.Utf16
import ResourceCatalog.Chat.Format
import ResourceCatalog.Chat.Transcript
import ResourceCatalog.Filter.Query
import ResourceCatalog.Filter.State
import ResourceCatalog.Http.Exchange
import ResourceCatalog.Http.MediaType
import ResourceCatalog.Json.Decode
import ResourceCatalog.Json.Number
import ResourceCatalog.Json.Reader
import ResourceCatalog.Json.Tree
import ResourceCatalog.OrderedSet
import ResourceCatalog.Page.Chat
import ResourceCatalog.Page.Errand
import ResourceCatalog.Page.Listing
import ResourceCatalog.Page.Route
import ResourceCatalog.Service.Client
import ResourceCatalog.Service.Config
import ResourceCatalog.Session.Scene
import ResourceCatalog.Session.Session
import ResourceCatalog.Session.Settled
import ResourceCatalog.Sync.Channel
import ResourceCatalog.Sync.Notice
import ResourceCatalog.Sync.Run
import ResourceCatalog.Sync.Script
import ResourceCatalog.Sync.Synchronizer
import ResourceCatalog.Text.Digit
import ResourceCatalog.Text.Form
import ResourceCatalog.Text.Glyphless
import ResourceCatalog.Text.Literal
import ResourceCatalog.Text.Order
import ResourceCatalog.Text.Pieces
import ResourceCatalog.Text.Space
import ResourceCatalog.Text.Utf8
import ResourceCatalog.Timer.BrowserClock
import ResourceCatalog.Timer.Program
import ResourceCatalog.Timer.Scheduler
import ResourceCatalog.Timer.VirtualClock
import ResourceCatalog.Unicode.CombiningClass
import ResourceCatalog.Unicode.Composed
import ResourceCatalog.Unicode.Composites
import ResourceCatalog.Unicode.Direction
import ResourceCatalog.Unicode.Joining
import ResourceCatalog.Unicode.Marks
import ResourceCatalog.Unicode.Ranges
import ResourceCatalog.Unicode.Unassigned
import ResourceCatalog.Url.Address
import ResourceCatalog.Url.Folding
import ResourceCatalog.Url.Host
import ResourceCatalog.Url.Label
import ResourceCatalog.Url.Punycode
import ResourceCatalog.View.Card
import ResourceCatalog.View.Chat
import ResourceCatalog.View.Control
import ResourceCatalog.View.ErrorPanel
import ResourceCatalog.View.Frame
import ResourceCatalog.View.Listing
import ResourceCatalog.View.Message
import ResourceCatalog.View.Node
import ResourceCatalog.Wire.Catalog
import ResourceCatalog.Wire.Chat
import ResourceCatalog.Wire.Filter
import ResourceCatalog.Proofs.Sync.Tickets
import ResourceCatalog.Proofs.Sync.Ending
import ResourceCatalog.Proofs.Sync.Recording
import ResourceCatalog.Proofs.Sync.Debounce
import ResourceCatalog.Proofs.Filter.QueryRoundTrip
import ResourceCatalog.Proofs.Sync.AddressBar
import ResourceCatalog.Proofs.Sync.Reload
import ResourceCatalog.Proofs.Filter.QuestionMark
import ResourceCatalog.Proofs.Sync.ForeignParameters
import ResourceCatalog.Proofs.Sync.OwnTimer
import ResourceCatalog.Proofs.Timer.Timeouts
import ResourceCatalog.Proofs.Page.OneTimer
import ResourceCatalog.Proofs.Page.Display
import ResourceCatalog.Proofs.Sync.Rest
import ResourceCatalog.Proofs.Timer.Accounting
import ResourceCatalog.Proofs.Timer.Lockstep
import ResourceCatalog.Proofs.Wire.RoundTrip
import ResourceCatalog.Proofs.Service.Replies
import ResourceCatalog.Proofs.Sync.Ignored
import ResourceCatalog.Proofs.Sync.EmptyResults
import ResourceCatalog.Proofs.Service.Listing
import ResourceCatalog.Proofs.Page.Conversation
import ResourceCatalog.Proofs.Sync.Handles
import ResourceCatalog.Proofs.Timer.Termination
import ResourceCatalog.Proofs.Chat.Blocks
import ResourceCatalog.Proofs.Filter.FirstParameters
import ResourceCatalog.Proofs.Sync.Hydration
import ResourceCatalog.Proofs.Wire.Leniency
import ResourceCatalog.Proofs.Filter.Edits
import ResourceCatalog.Proofs.Browser.QueryReplacement
import ResourceCatalog.Proofs.Timer.RunningTimers
import ResourceCatalog.Proofs.Sync.Suggestions
import ResourceCatalog.Proofs.Service.Environment
