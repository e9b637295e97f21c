/-
  ResourceCatalog/Sync/Synchronizer.lean
  ======================================
  **Filters, query and listing kept in step.**

  A synchronizer owns the filters of a page.  It reads them once from the query
  of the page address, and from then on every effective edit starts a quiet
  period anew; when one has passed without another edit, the query is written
  and the listing is asked for.  Selections reach the query at once, the search
  text only when it has settled.

  Listing requests carry tickets, numbered from one.  Only the latest ticket is
  waited for: an answer to an older one, or a second answer, changes nothing.

  Each operation is a function to a `Transition`: the state after it, the quiet
  period that it starts, and the calls on the host that it wants made, in order.
  Scheduling the quiet period and making the calls is left to whoever runs it.
-/
import ResourceCatalog.Filter.Query
import ResourceCatalog.Sync.Notice
import ResourceCatalog.Timer.Scheduler

namespace ResourceCatalog.Sync

/-- The number of a listing request. -/
abbrev Ticket := Nat

/-- The quiet period after a selection, and after the filters were first read. -/
def selectionDelay : Nat := Timer.milliseconds 200

/-- The quiet period after an edit of the search text. -/
def searchTextDelay : Nat := Timer.milliseconds 400

/-- What a synchronizer asks of the page around it.  The outcome of a listing
    request is to be reported under its ticket, and an empty result is shown of
    the listing that was just set. -/
inductive Call where
  | replaceQuery (query : String)
  | notify (notice : Notice)
  | setLoading (on : Bool)
  | requestResources (ticket : Ticket) (request : ListRequest)
  | requestTags
  | setResources (rows : List Resource)
  | showEmptyResult (summary : EmptySummary)
  | setSuggestions (tags : List String)
deriving DecidableEq, Repr

/-- The state of a synchronizer.  The filters were read from `baseQuery`, whose
    foreign parameters are kept.  Query and search text are there as last read or
    written; a later edit of the text has not settled yet.  The timer is that of
    the quiet period under way, and the ticket that is waited for stands with the
    filters that it was issued for. -/
structure Synchronizer where
  filters : FilterState := {}
  hydrated : Bool := false
  baseQuery : String := ""
  lastWritten : String := ""
  settledText : String := ""
  timer : Option Timer.Handle := none
  lastTicket : Ticket := 0
  outstanding : Option (Ticket × FilterState) := none
deriving DecidableEq, Repr

/-- What a synchronizer is doing.  It is `debouncing` while a quiet period is
    under way, and `fetching` when none is and the latest listing request has not
    been answered. -/
inductive Phase where
  | idle
  | debouncing
  | fetching
deriving DecidableEq, Repr

/-- What an operation comes to: the state after it, the quiet period that is
    started anew, and the calls on the host, in order. -/
structure Transition where
  after : Synchronizer
  restart : Option Nat := none
  calls : List Call := []
deriving DecidableEq, Repr

namespace Synchronizer

def isLoading (s : Synchronizer) : Bool := s.outstanding.isSome

def phase (s : Synchronizer) : Phase :=
  if s.timer.isSome then .debouncing
  else if s.isLoading then .fetching
  else .idle

/-- An operation that has no effect. -/
def unchanged (s : Synchronizer) : Transition := { after := s }

/-! ### Edits -/

/-- Read the filters from the query of the page address; only the first time counts. -/
def hydrate (query : String) (s : Synchronizer) : Transition :=
  if s.hydrated then s.unchanged
  else
    let read := FilterQuery.parse query
    let base := FilterQuery.withoutMark query
    { after :=
        { s with
            filters := read.state
            hydrated := true
            baseQuery := base
            lastWritten := base
            settledText := read.state.searchText }
      restart := some selectionDelay
      calls := read.invalidTypes.map (fun t => .notify (.invalidType t)) ++ [.requestTags] }

/-- Change the search text; it reaches query and listing when it has settled. -/
def setSearchText (text : String) (s : Synchronizer) : Transition :=
  if s.hydrated = false ∨ s.filters.searchText = text then s.unchanged
  else
    { after := { s with filters := s.filters.withSearchText text }
      restart := some searchTextDelay }

/-- Write the query of some filters, unless it is there already. -/
def writeQuery (filters : FilterState) (s : Synchronizer) : Synchronizer × List Call :=
  let query := FilterQuery.merge s.baseQuery filters
  if query = s.lastWritten then (s, [])
  else ({ s with lastWritten := query }, [.replaceQuery query])

/-- Change the selection.  The query is written at once, with the settled text. -/
def select (next : FilterState) (s : Synchronizer) : Transition :=
  if s.hydrated = false ∨ next = s.filters then s.unchanged
  else
    let (s, calls) := writeQuery (next.withSearchText s.settledText) { s with filters := next }
    { after := s, restart := some selectionDelay, calls }

def toggleTag (tag : String) (s : Synchronizer) : Transition :=
  s.select (s.filters.toggleTag tag)

def toggleType (type : ResourceType) (s : Synchronizer) : Transition :=
  s.select (s.filters.toggleType type)

/-! ### Requests and answers -/

/-- The quiet period is over: write the query and ask for the listing. -/
def fire (s : Synchronizer) : Transition :=
  let (s, written) :=
    writeQuery s.filters { s with timer := none, settledText := s.filters.searchText }
  let ticket := s.lastTicket + 1
  { after := { s with lastTicket := ticket, outstanding := some (ticket, s.filters) }
    calls := written ++ (if s.isLoading then [] else [.setLoading true])
      ++ [.requestResources ticket s.filters.listRequest] }

/-- The calls for the outcome of a listing request made for some filters. -/
def outcomeCalls (filters : FilterState) : Except String (List Resource) → List Call
  | .ok rows =>
    .setResources rows :: (if rows.isEmpty then [.showEmptyResult filters.emptySummary] else [])
  | .error detail => [.notify (.fetchFailed detail)]

/-- The outcome of a listing request.  It counts only for the ticket waited for. -/
def complete (ticket : Ticket) (result : Except String (List Resource)) (s : Synchronizer) :
    Transition :=
  match s.outstanding with
  | some (latest, filters) =>
    if latest = ticket then
      { after := { s with outstanding := none }
        calls := .setLoading false :: outcomeCalls filters result }
    else s.unchanged
  | none => s.unchanged

/-- Tag values in ascending order, each once, without the empty one. -/
def suggestionsOf (tags : List Tag) : List String :=
  (OrderedSet.ofList ((tags.map Tag.value).filter (fun v => v ≠ ""))).toList

/-- The outcome of a request for the tags.  A failure leaves the suggestions alone. -/
def acceptTags (result : Except String (List Tag)) (s : Synchronizer) : Transition :=
  match result with
  | .ok tags => { after := s, calls := [.setSuggestions (suggestionsOf tags)] }
  | .error _ => s.unchanged

end Synchronizer

/-! ### Operations as data -/

/-- An operation on a synchronizer. -/
inductive Action where
  | hydrate (query : String)
  | setSearchText (text : String)
  | toggleTag (tag : String)
  | toggleType (type : ResourceType)
  | complete (ticket : Ticket) (result : Except String (List Resource))
  | acceptTags (result : Except String (List Tag))
deriving Repr

def Action.apply : Action → Synchronizer → Transition
  | hydrate query, s => s.hydrate query
  | setSearchText text, s => s.setSearchText text
  | toggleTag tag, s => s.toggleTag tag
  | toggleType type, s => s.toggleType type
  | complete ticket result, s => s.complete ticket result
  | acceptTags result, s => s.acceptTags result

/-! ### The timer of the quiet period -/

/-- Carry a transition out on a scheduler: a quiet period that is started anew
    takes the place of the one under way.  When that would end past the end of
    time there is no timer any more, and the calls are not made. -/
def Transition.carryOut {S : Type → Type} [Timer.Scheduler S] {α : Type} (t : Transition)
    (payload : α) (clock : S α) : Synchronizer × S α × Option (List Call) :=
  match t.restart with
  | none => (t.after, clock, some t.calls)
  | some delay =>
    let cleared := match t.after.timer with
      | some h => Timer.Scheduler.cancel h clock
      | none => clock
    match Timer.Scheduler.schedule delay payload cleared with
    | (clock, some h) => ({ t.after with timer := some h }, clock, some t.calls)
    | (clock, none) => ({ t.after with timer := none }, clock, none)

end ResourceCatalog.Sync
