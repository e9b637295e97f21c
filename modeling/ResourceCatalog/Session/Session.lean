/-
  ResourceCatalog/Session/Session.lean
  ====================================
  **The application in a browser window.**

  A session shows one page at a time.  It opens the page that the address bar
  leads to, sees to what the page asks for, keeps every request that went out,
  and hands replies to the page that made the request, as long as that page is
  still on display.  A page that is left is gone with its timers; when the user
  comes back, a new one is opened from the address bar.

  Each operation leaves the session settled: all that can happen without a
  timeout or a reply has happened.
-/
import ResourceCatalog.Browser.Location
import ResourceCatalog.Page.Chat
import ResourceCatalog.Page.Listing
import ResourceCatalog.View.Chat
import ResourceCatalog.View.Listing

namespace ResourceCatalog

open Browser (Window)

/-- What is put into the head of the document. -/
inductive HeadElement where
  | title (text : String)
  | link (rel href : String)
deriving DecidableEq, Repr

/-- What every session puts into the head: where fonts come from, and the styles. -/
def HeadElement.common : List HeadElement :=
  [.link "preconnect" "https://fonts.googleapis.com",
   .link "preconnect" "https://fonts.gstatic.com",
   .link "stylesheet"
     ("https://fonts.googleapis.com/css2?family=Roboto:ital,wght@0,100..900;1,100..900"
       ++ "&display=swap"),
   .link "stylesheet" "main.css"]

/-- What is on display; it is `lost` when the address bar led to no page. -/
inductive Screen where
  | listing (page : ListingPage)
  | chat (page : ChatPage)
  | lost (cause : Route.Unknown)
deriving Repr

namespace Screen

def route? : Screen → Option Route
  | listing _ => some .listing
  | chat _ => some .chat
  | lost _ => none

/-- How many timeouts are pending. -/
def timeouts : Screen → Nat
  | listing page => page.clock.timeouts.length
  | _ => 0

def view : Screen → List View.Node
  | listing page => [View.frame .listing (View.listingPage page)]
  | chat page => [View.frame .chat (View.chatPage page)]
  | lost cause => [View.globalPanel "App" (.unknownRoute cause)]

/-- Hand an outcome to the page that waits for it. -/
def deliver (outcome : Outcome) : Screen → Screen
  | listing page =>
    .listing (match outcome with
      | .listing ticket result => page.listingArrived ticket result
      | .tags result => page.tagsArrived result
      | .chat _ => page)
  | chat page =>
    .chat (match outcome with
      | .chat result => page.answered result
      | _ => page)
  | lost cause => .lost cause

/-- Act on all calls that wait for the page. -/
def drain : Screen → Screen × List Demand
  | listing page =>
    let (page, demands) := page.drain
    (.listing page, demands)
  | screen => (screen, [])

/-- What an event at a control does to the page, what the page asks for, and
    whether the event goes no further. -/
def operate (control : View.Control) (event : View.Event) (screen : Screen) :
    Screen × List Demand × Bool :=
  match screen, control, event with
  | .listing page, .searchBox, .input text => (.listing (page.editSearch text), [], false)
  | .listing page, .tagChip tag, .click _ _ => (.listing (page.toggleTag tag), [], false)
  | .listing page, .typeChip type, .click _ _ => (.listing (page.toggleType type), [], false)
  | .listing page, .close toast, .click _ _ => (.listing (page.dismiss toast), [], false)
  | .chat page, .draft, .input text => (.chat (page.edit text), [], false)
  | .chat page, .draft, .keydown key shift _ =>
    if key = "Enter" ∧ shift = false then
      let (page, message) := page.send
      (.chat page, (message.map (fun m => .run (.chat m))).toList, true)
    else (screen, [], false)
  | .chat page, .send, .click _ _ =>
    let (page, message) := page.send
    (.chat page, (message.map (fun m => .run (.chat m))).toList, false)
  | _, _, _ => (screen, [], false)

end Screen

/-- A request that went out, made by the page of a visit. -/
structure Dispatch where
  request : Http.Request
  errand : Errand
  visit : Nat
  answered : Bool := false
deriving DecidableEq, Repr

/-- The application in a browser window: how many pages have been opened, what was
    put into the head of the document and the requests that went out, both in
    order. -/
structure Session where
  config : Config
  window : Window
  screen : Screen
  visits : Nat := 0
  head : List HeadElement := HeadElement.common
  requests : List Dispatch := []
deriving Repr

namespace Session

/-- See to what the page asks for. -/
def attend (s : Session) (demand : Demand) : Session :=
  match demand with
  | .replaceQuery query => { s with window := s.window.replaceQuery query }
  | .run errand =>
    match errand.request s.config with
    | .ok request =>
      { s with requests := s.requests ++ [{ request, errand, visit := s.visits }] }
    | .error _ => { s with screen := s.screen.deliver (errand.outcome s.config .closed) }

/-- Have the page act on the calls that wait for it, and see to what it asks for. -/
def round (s : Session) : Session :=
  let (screen, demands) := s.screen.drain
  demands.foldl attend { s with screen }

/-- Let all happen that can.  An errand that failed at once leaves calls behind,
    which ask for nothing more; so two rounds are enough. -/
def settle (s : Session) : Session := s.round.round

/-! ### Pages -/

/-- Open a new page. -/
def enter (route : Route) (s : Session) : Session :=
  settle
    { s with
        visits := s.visits + 1
        head := s.head ++ [.title route.title]
        screen := match route with
          | .listing => .listing (.load s.window.currentQuery)
          | .chat => .chat {} }

/-- Open the page that the address bar leads to.  A path that is not the page's
    own is replaced by it; one that leads to no page is replaced by the start,
    whose title is set, but only the cause is shown. -/
def start (config : Config) (window : Window) : Session :=
  match Route.ofPath window.location.path with
  | .ok route =>
    let window := if window.location.path = route.path then window else window.go route.path
    enter route { config, window, screen := .chat {} }
  | .error cause =>
    { config, window := window.go Route.listing.path, screen := .lost cause
      head := HeadElement.common ++ [.title Route.listing.title] }

/-- Follow a link.  The page on display stays when the link leads to it. -/
def follow (route : Route) (s : Session) : Session :=
  let s := { s with window := s.window.go route.path }
  if s.screen.route? = some route then s else s.enter route

/-! ### What happens to a session -/

/-- The user does something at a control; the second component says whether the
    event goes no further.  A link is followed when no key is held down. -/
def operate (control : View.Control) (event : View.Event) (s : Session) : Session × Bool :=
  match control, event with
  | .link route, .click shift ctrl =>
    if shift || ctrl then (s, false) else (s.follow route, true)
  | _, _ =>
    let (screen, demands, stopped) := s.screen.operate control event
    ((demands.foldl attend { s with screen }).settle, stopped)

/-- Run the timeouts that are due by a time, as many as that at most, and let the
    session settle after each. -/
def runTimeouts (target : Nat) : Nat → Session → Session
  | 0, s => s
  | n + 1, s =>
    match s.screen with
    | .listing page =>
      match page.runTimeout? target with
      | some page => runTimeouts target n { s with screen := .listing page }.settle
      | none => s
    | _ => s

/-- Time passes.  A timeout that runs sets no other, so none is due that is not
    pending now. -/
def pass (duration : Nat) (s : Session) : Session :=
  match s.screen with
  | .listing page =>
    let target := page.clock.now + duration
    let s := runTimeouts target s.screen.timeouts s
    match s.screen with
    | .listing page => { s with screen := .listing { page with clock := page.clock.arrive target } }
    | _ => s
  | _ => s

/-- A reply to the n-th request; none if there is no such or it has been answered.
    A page that is gone hears nothing of it. -/
def reply? (n : Nat) (reply : Http.Reply) (s : Session) : Option Session :=
  match s.requests[n]? with
  | some d =>
    if d.answered then none
    else
      let s := { s with requests := s.requests.set n { d with answered := true } }
      some (if d.visit = s.visits then
          { s with screen := s.screen.deliver (d.errand.outcome s.config reply) }.settle
        else s)
  | none => none

def setMode (mode : Browser.Mode) (s : Session) : Session :=
  { s with window := { s.window with mode } }

def view (s : Session) : List View.Node := s.screen.view

end Session

end ResourceCatalog
