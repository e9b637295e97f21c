/-
  ResourceCatalog/Page/Listing.lean
  =================================
  **The page that lists resources.**

  The page keeps a synchronizer on a clock of its own, and a channel into which
  the synchronizer's calls go.  It acts on one call at a time.  What is on
  display follows the calls it has acted on; only the filters and the text in
  the search box are taken from the synchronizer, right after each edit.

  All that can happen to the page is a `Step`: the user edits, a timeout runs,
  the next call is taken out of the channel, an errand has an outcome.
-/
import ResourceCatalog.Page.Errand
import ResourceCatalog.Sync.Channel
import ResourceCatalog.Timer.BrowserClock

namespace ResourceCatalog

open Timer (BrowserClock)

/-- A notice on display, with a number of its own. -/
structure Toast where
  id : Nat
  notice : Notice
deriving DecidableEq, Repr

/-- The state of the page.  The channel has the calls of the synchronizer that the
    page has not acted on yet; what the page has made of the others is on display.
    There have been `nextToast` toasts, and `summary` is what an empty listing had
    been asked for. -/
structure ListingPage where
  sync : Sync.Synchronizer := {}
  clock : BrowserClock Unit := {}
  channel : Sync.Channel := {}
  filters : FilterState := {}
  searchInput : String := ""
  suggestions : List String := []
  loading : Bool := false
  toasts : List Toast := []
  nextToast : Nat := 0
  summary : Option EmptySummary := none
  rows : List Resource := []
deriving DecidableEq, Repr

namespace ListingPage

/-- Have the synchronizer do something; its calls go into the channel. -/
def act (transition : Sync.Synchronizer → Sync.Transition) (p : ListingPage) : ListingPage :=
  match (transition p.sync).carryOut () p.clock with
  | (sync, clock, calls) => { p with sync, clock, channel := p.channel.sendAll (calls.getD []) }

/-- Show the filters as the synchronizer has them. -/
def showFilters (p : ListingPage) : ListingPage := { p with filters := p.sync.filters }

/-- A new page for the query in the address bar. -/
def load (query : String) : ListingPage :=
  let p := (act (·.hydrate query) {}).showFilters
  { p with searchInput := p.filters.searchText }

/-! ### What the user does -/

def editSearch (text : String) (p : ListingPage) : ListingPage :=
  (act (·.setSearchText text) { p with searchInput := text }).showFilters

def toggleTag (tag : String) (p : ListingPage) : ListingPage :=
  (p.act (·.toggleTag tag)).showFilters

def toggleType (type : ResourceType) (p : ListingPage) : ListingPage :=
  (p.act (·.toggleType type)).showFilters

def dismiss (toast : Nat) (p : ListingPage) : ListingPage :=
  { p with toasts := p.toasts.filter (fun t => t.id ≠ toast) }

/-! ### Calls of the synchronizer -/

/-- Act on a call. -/
def handle (call : Sync.Call) (p : ListingPage) : ListingPage × Option Demand :=
  match call with
  | .replaceQuery query => (p, some (.replaceQuery query))
  | .notify notice =>
    ({ p with toasts := p.toasts ++ [⟨p.nextToast, notice⟩], nextToast := p.nextToast + 1 }, none)
  | .setLoading on => ({ p with loading := on }, none)
  | .requestResources ticket request => (p, some (.run (.listing ticket request)))
  | .requestTags => (p, some (.run .tags))
  | .setResources rows => ({ p with summary := none, rows }, none)
  | .showEmptyResult summary => ({ p with summary := some summary }, none)
  | .setSuggestions tags => ({ p with suggestions := tags }, none)

/-- Take one call out of the channel and act on it. -/
def receive (p : ListingPage) : ListingPage × Option Demand :=
  match p.channel.receive? with
  | some (call, channel) => handle call { p with channel }
  | none => (p, none)

/-- Take out as many calls as that, and act on them. -/
def receiveMany : Nat → ListingPage → ListingPage × List Demand
  | 0, p => (p, [])
  | n + 1, p =>
    let (p, demand) := p.receive
    let (p, demands) := receiveMany n p
    (p, demand.toList ++ demands)

/-- Act on all calls that are in the channel. -/
def drain (p : ListingPage) : ListingPage × List Demand := p.receiveMany p.channel.queue.length

/-! ### Timeouts and outcomes -/

/-- Run the next timeout that is due by a time; none if there is no such. -/
def runTimeout? (target : Nat) (p : ListingPage) : Option ListingPage :=
  match p.clock.popDue target with
  | some (w, clock) =>
    let p := act Sync.Synchronizer.fire { p with clock }
    some { p with clock := p.clock.finish w.handle }
  | none => none

def listingArrived (ticket : Sync.Ticket) (result : Except String (List Resource))
    (p : ListingPage) : ListingPage :=
  p.act (·.complete ticket result)

def tagsArrived (result : Except String (List Tag)) (p : ListingPage) : ListingPage :=
  p.act (·.acceptTags result)

/-! ### Steps -/

/-- Something that happens to the page.  With `timeout` the next timeout runs,
    should one be due by a time, and with `receive` the page acts on the next call
    in its channel. -/
inductive Step where
  | editSearch (text : String)
  | toggleTag (tag : String)
  | toggleType (type : ResourceType)
  | dismiss (toast : Nat)
  | timeout (target : Nat)
  | receive
  | listing (ticket : Sync.Ticket) (result : Except String (List Resource))
  | tags (result : Except String (List Tag))
deriving Repr

/-- The page after a step, with what it asks for. -/
def step (s : Step) (p : ListingPage) : ListingPage × Option Demand :=
  match s with
  | .editSearch text => (p.editSearch text, none)
  | .toggleTag tag => (p.toggleTag tag, none)
  | .toggleType type => (p.toggleType type, none)
  | .dismiss toast => (p.dismiss toast, none)
  | .timeout target => ((p.runTimeout? target).getD p, none)
  | .receive => p.receive
  | .listing ticket result => (p.listingArrived ticket result, none)
  | .tags result => (p.tagsArrived result, none)

end ListingPage

end ResourceCatalog
