/-
  ResourceCatalog/Proofs/Sync/Reload.lean
  =======================================
  **A page that is reloaded asks for the same listing.**

  When a listing is asked for, the address bar holds all the filters that it is
  asked for with: the quiet period has just ended, so no text is left that has
  not settled.  A new synchronizer that reads them from there finds nothing to
  write and asks for the same listing when its first quiet period ends.

  The host is one that only records; then no operation comes between the end of
  a quiet period and its request.  A tag that has a comma in it would be read back
  as two, and is left out.
-/
import ResourceCatalog.Proofs.Sync.AddressBar
import ResourceCatalog.Proofs.Sync.Recording

namespace ResourceCatalog.Sync

open FilterQuery (withoutMark merge parse)
open Timer (VirtualClock)

/-! ### Tags that survive a query -/

/-- The deed toggles no tag with a comma in it. -/
def Deed.togglesPlain (d : Deed) : Bool :=
  match d.cause with
  | .action (.toggleTag tag) => !tag.toList.contains ','
  | _ => true

theorem Deed.hasPlainTags_after {d : Deed} (before : d.before.filters.HasPlainTags)
    (plain : d.togglesPlain = true) : d.after.filters.HasPlainTags := by
  rw [Deed.after, outcome]
  rw [togglesPlain] at plain
  cases cause : d.cause with
  | timer =>
    rw [Cause.apply, Synchronizer.fire_eq]
    exact before
  | action a =>
    rw [Cause.apply]
    rw [cause] at plain
    cases a.effect d.before with
    | nothing _ h =>
      rw [h]
      exact before
    | reads query _ _ first h =>
      rw [h, Synchronizer.hydrate_eq first]
      exact FilterQuery.hasPlainTags_parse query
    | types text _ _ _ h =>
      rw [h]
      exact before
    | selects next _ ha changes h =>
      rw [h, Synchronizer.select_eq changes]
      cases a with
      | toggleTag tag =>
        cases ha
        exact FilterState.hasPlainTags_toggleTag before (by simpa using plain)
      | toggleType type =>
        cases ha
        exact before
      | _ => cases ha
    | resolves _ _ _ _ _ _ h =>
      rw [h]
      exact before
    | suggests _ _ _ h =>
      rw [h]
      exact before

/-! ### Requests under way -/

/-- The call that the next step makes. -/
def Run.nextCall? {σ : Type} (r : Run σ) : Option Call :=
  match r.stack with
  | .calls (call :: _) :: _ => some call
  | _ => none

theorem Run.stack_of_nextCall? {σ : Type} {r : Run σ} {call : Call} (h : r.nextCall? = some call) :
    ∃ cs rest, r.stack = .calls (call :: cs) :: rest := by
  rw [nextCall?] at h
  split at h
  · rename_i found cs rest stack
    cases h
    exact ⟨cs, rest, stack⟩
  · cases h

/-- With a host that only records, a request still to be made is for the filters there are,
    and their text has settled. -/
structure Fetching {σ : Type} (past : List Deed) (r : Run σ) : Prop where
  coherent : Coherent past r
  settling : Settling (fun stack => pendingOn stack = []) r.stack
  plain : r.sync.filters.HasPlainTags
  current : ∀ request ∈ requestsIn r.pendingCalls.flatten,
    touched past = true ∧ settledText past = r.sync.filters.searchText ∧
      request = r.sync.filters.listRequest

namespace Fetching

variable {σ : Type} {past : List Deed} {r r' : Run σ}

theorem start (host : σ) (ops : List Op) : Fetching [] (Run.start host ops) where
  coherent := Coherent.start host ops
  settling := .between rfl
  plain := fun _ htag => absurd htag OrderedSet.not_mem_empty
  current := fun _ hrequest => absurd hrequest List.not_mem_nil

/-- A deed is done when nothing is under way, so its calls are the only ones. -/
theorem deed (f : Fetching past r) {d : Deed} {below : List Frame}
    (before : d.before = r.sync) (toggles : d.togglesPlain = true)
    (idle : pendingOn below = [])
    (coherent : Coherent (d :: past) r')
    (sync : r'.sync = { d.after with timer := r'.sync.timer })
    (stack : r'.stack = .calls d.outcome.calls :: below) : Fetching (d :: past) r' := by
  have filters : r'.sync.filters = d.after.filters := by rw [sync]
  have plain := f.plain
  rw [← before] at plain
  refine ⟨coherent, ?_, ?_, ?_⟩
  · rw [stack]
    exact .calling _ idle
  · rw [filters]
    exact Deed.hasPlainTags_after plain toggles
  · rw [filters, Run.pendingCalls, stack, pendingOn_calls, idle]
    intro request hrequest
    rw [List.flatten_cons, List.flatten_nil, List.append_nil, Deed.outcome] at hrequest
    cases cause : d.cause with
    | action a =>
      rw [cause, Cause.apply, (a.apply_noFetch d.before).2] at hrequest
      cases hrequest
    | timer =>
      have firing : d.isFiring = true := by rw [Deed.isFiring, cause]
      have noReading : d.hydration? = none := by rw [Deed.hydration?, cause]
      have same : d.after.filters = d.before.filters := by
        rw [Deed.after, Deed.outcome, cause, Cause.apply, Synchronizer.fire_eq]
      rw [cause, Cause.apply, Synchronizer.requestsIn_fire, List.mem_singleton] at hrequest
      refine ⟨by simp [touched, noReading, firing], ?_, by rw [hrequest, same]⟩
      rw [settledText, if_pos firing, same]

theorem step {h : Host σ} (records : h.Records) (f : Fetching past r)
    (guard : ∀ d, r.deed? = some d → d.inTime = true ∧ d.togglesPlain = true)
    (hs : r.step h = some r') : Fetching (r.deed?.toList ++ past) r' := by
  have coherent := f.coherent.step (fun d deed => (guard d deed).1) hs
  rcases f.settling.step records hs with idle | ⟨settling, calling⟩
  · cases Run.step_move hs with
    | act d below deed top sync stack rest calls =>
      obtain ⟨inTime, toggles⟩ := guard d deed
      rw [if_pos inTime] at stack
      rw [deed] at coherent ⊢
      exact f.deed (Run.deed?_before deed).1 toggles (rest.trans idle) coherent sync stack
    | call call cs rest deed stack after sync calls =>
      rw [stack] at idle
      cases idle
    | done rest deed stack after sync calls =>
      rw [stack] at idle
      cases idle
    | still deed top pending sync calls =>
      rw [deed] at coherent ⊢
      refine ⟨coherent, .between (pending.trans idle), by rw [sync]; exact f.plain, ?_⟩
      rw [Run.pendingCalls, pending, idle]
      exact fun request hrequest => absurd hrequest List.not_mem_nil
  · rw [calling.deed] at coherent ⊢
    obtain ⟨calls, -, pending⟩ := calling.made
    refine ⟨coherent, settling, by rw [calling.sync]; exact f.plain, ?_⟩
    rw [calling.sync]
    intro request hrequest
    refine f.current request ?_
    rw [pending, requestsIn_append]
    exact List.mem_append_right _ hrequest

theorem of_run {h : Host σ} (records : h.Records) (host : σ) (ops : List Op) (n : Nat)
    (guard : ∀ d ∈ (Run.start host ops).trail h n, d.inTime = true ∧ d.togglesPlain = true) :
    Fetching ((Run.start host ops).trail h n) ((Run.start host ops).runFor h n) :=
  Run.trail_induction (start host ops) (fun _ _ _ f guard hs => f.step records guard hs) n guard

/-- **At the moment of a request** the address bar holds the filters it is made for. -/
theorem at_request (f : Fetching past r) {ticket : Ticket} {request : ListRequest}
    (asks : r.nextCall? = some (.requestResources ticket request)) :
    request = r.sync.filters.listRequest ∧
      addressBar past r = merge (startQuery past) r.sync.filters := by
  obtain ⟨cs, rest, stack⟩ := Run.stack_of_nextCall? asks
  have due : request ∈ requestsIn r.pendingCalls.flatten := by
    rw [Run.pendingCalls, stack]
    exact List.mem_cons_self
  obtain ⟨touches, settled, same⟩ := f.current request due
  refine ⟨same, ?_⟩
  have merged := f.coherent.merged touches
  rw [settled] at merged
  rcases f.coherent.addressed with ⟨-, address⟩ | ⟨cs', rest', stack', -⟩
  · rw [← address, merged]
    rfl
  · rw [stack] at stack'
    cases stack'

end Fetching

/-! ### The page is loaded again -/

def reloading (query : String) : List Op :=
  [.act none (.hydrate query), .advance (Timer.milliseconds 200)]

variable {σ : Type} {h : Host σ}

/-- A query with nothing invalid in it is read by a new synchronizer. -/
theorem hydrate_valid {query : String} {filters : FilterState}
    (read : parse query = { state := filters, invalidTypes := [] }) :
    ({} : Synchronizer).hydrate query =
      { after :=
          { filters := filters
            hydrated := true
            baseQuery := withoutMark query
            lastWritten := withoutMark query
            settledText := filters.searchText }
        restart := some selectionDelay
        calls := [.requestTags] } := by
  rw [Synchronizer.hydrate_eq rfl, read]
  rfl

theorem fire_there {s : Synchronizer} (idle : s.outstanding = none)
    (there : merge s.baseQuery s.filters = s.lastWritten) :
    s.fire.calls =
      [.setLoading true, .requestResources (s.lastTicket + 1) s.filters.listRequest] := by
  rw [Synchronizer.fire_eq, Synchronizer.writeCalls_of_eq there, Synchronizer.isLoading, idle]
  rfl

theorem leads_wait (records : h.Records) {r : Run σ} {x : Timer.Handle} {duration : Nat}
    {ops : List Op} {below : List Frame}
    (stack : r.stack = .script (.advance duration :: ops) :: below)
    (waiting : r.clock.waiting = [⟨x, r.clock.now + duration, .quiet⟩])
    (inTime : r.clock.now + duration ≤ Timer.endOfTime) (live : r.handles.any id = true) :
    ∃ r', Run.Leads h r r' ∧ r'.stack = .script ops :: below ∧ r'.sync = r.sync.fire.after ∧
      r'.calls = r.calls ++ r.sync.fire.calls := by
  -- the advance begins
  obtain ⟨r₁, begins, stack₁, sync₁, clock₁, handles₁, calls₁⟩ : ∃ r₁, r.step h = some r₁ ∧
      r₁.stack = .advancing (r.clock.now + duration) :: .script ops :: below ∧
      r₁.sync = r.sync ∧ r₁.clock = r.clock ∧ r₁.handles = r.handles ∧ r₁.calls = r.calls := by
    refine ⟨{ r with stack := .advancing (r.clock.now + duration) :: .script ops :: below },
      ?_, rfl, rfl, rfl, rfl, Run.calls_of_journal rfl⟩
    simp only [Run.step, stack, Run.perform, VirtualClock.horizon?, Timer.inTime?, if_pos inTime]
  -- the timer fires
  have hpop : r₁.clock.popDue (r.clock.now + duration) =
      some (⟨x, r.clock.now + duration, .quiet⟩,
        { r.clock with now := r.clock.now + duration, waiting := [] }) := by
    simp [VirtualClock.popDue, clock₁, waiting, Timer.firstDue?]
  have alive : r₁.alive = true := by
    rw [Run.alive, handles₁, live, Bool.true_or]
  have fires := Run.step_timer h stack₁ hpop alive
  rw [sync₁] at fires
  generalize r.sync.fire = fired at fires ⊢
  obtain ⟨r₂, calling, stack₂, sync₂, clock₂, -, calls₂⟩ := Run.Leads.flush records
    (r := { r₁ with
      sync := fired.after
      clock := { r.clock with now := r.clock.now + duration, waiting := [] }
      stack := .calls fired.calls :: r₁.stack }) rfl
  -- nothing more is due
  have none : r₂.clock.popDue (r.clock.now + duration) = none := by
    rw [clock₂]
    rfl
  have arrives : r₂.step h = some { r₂ with
      clock := r₂.clock.arrive (r.clock.now + duration), stack := .script ops :: below } := by
    simp only [Run.step, stack₂, stack₁, none]
  refine ⟨_, (Run.Leads.of_step begins).trans ((Run.Leads.of_step fires).trans
    (calling.trans (.of_step arrives))), rfl, sync₂, ?_⟩
  rw [← calls₁]
  exact (Run.calls_of_journal rfl).trans calls₂

/-- Filters that are all there in a query are read from it, and asked for, without more ado. -/
theorem leads_reload (records : h.Records) (host : σ) {query : String} {filters : FilterState}
    (read : parse query = { state := filters, invalidTypes := [] })
    (there : merge (withoutMark query) filters = withoutMark query) :
    ∃ r, Run.Leads h (Run.start host (reloading query)) r ∧ r.stack = [] ∧
      r.sync.filters = filters ∧
      r.calls = [.requestTags, .setLoading true, .requestResources 1 filters.listRequest] := by
  have inTime : (0 : Nat) + selectionDelay ≤ Timer.endOfTime := by decide
  -- the query is read, and the quiet period begins
  have reads := Run.step_action h (r := Run.start host (reloading query)) rfl rfl
  have hydrated := hydrate_valid read
  rw [Action.apply, show (Run.start host (reloading query)).sync = {} from rfl, hydrated,
    Run.carryOut_restart rfl, show (Run.start host (reloading query)).clock = {} from rfl,
    if_pos inTime] at reads
  obtain ⟨r₁, tagging, stack₁, sync₁, clock₁, handles₁, calls₁⟩ := Run.Leads.flush records
    (r := { Run.start host (reloading query) with
      sync :=
        { filters := filters
          hydrated := true
          baseQuery := withoutMark query
          lastWritten := withoutMark query
          settledText := filters.searchText
          timer := some 1 }
      clock := { now := 0, issued := 1, waiting := [⟨1, 0 + selectionDelay, .quiet⟩] }
      stack := [.calls [.requestTags], .script [.advance (Timer.milliseconds 200)]] }) rfl
  -- it ends, and the listing is asked for
  obtain ⟨r₂, waiting, stack₂, sync₂, calls₂⟩ := leads_wait records stack₁
    (by rw [clock₁]; rfl) (by rw [clock₁]; exact inTime) (by rw [handles₁]; rfl)
  have fetches := fire_there (s := r₁.sync) (by rw [sync₁]) (by rw [sync₁]; exact there)
  have ends : r₂.step h = some { r₂ with stack := [] } := by rw [Run.step, stack₂]
  refine ⟨_, (Run.Leads.of_step reads).trans (tagging.trans (waiting.trans (.of_step ends))),
    rfl, ?_, ?_⟩
  · simp only [sync₂, Synchronizer.fire_eq, sync₁]
  · have counted : ({ r₂ with stack := [] } : Run σ).calls = r₂.calls := Run.calls_of_journal rfl
    rw [counted, calls₂, fetches, calls₁, sync₁]
    rfl

/-- **The reload law.**  At the moment of any listing request, a new synchronizer that reads
    the query from the address bar, with a question mark in front or without one, and is then
    left alone for 200 ms has the same filters.  It raises no notice, writes no query, and
    asks for the same listing. -/
theorem reload_law (records : h.Records) (host : σ) (ops : List Op) (n : Nat)
    (inTime : ∀ d ∈ (Run.start host ops).trail h n, d.inTime = true)
    (plain : ∀ d ∈ (Run.start host ops).trail h n, d.togglesPlain = true)
    {ticket : Ticket} {request : ListRequest}
    (asks : ((Run.start host ops).runFor h n).nextCall? = some (.requestResources ticket request))
    {τ : Type} {h' : Host τ} (records' : h'.Records) (host' : τ) {query : String}
    (reloaded :
      query = addressBar ((Run.start host ops).trail h n) ((Run.start host ops).runFor h n) ∨
      query = "?" ++
        addressBar ((Run.start host ops).trail h n) ((Run.start host ops).runFor h n)) :
    ∃ r, Run.Leads h' (Run.start host' (reloading query)) r ∧ r.stack = [] ∧
      r.sync.filters = ((Run.start host ops).runFor h n).sync.filters ∧
      r.calls = [.requestTags, .setLoading true, .requestResources 1 request] := by
  have f := Fetching.of_run records host ops n (fun d hd => ⟨inTime d hd, plain d hd⟩)
  generalize (Run.start host ops).trail h n = past at f reloaded
  generalize (Run.start host ops).runFor h n = r at f reloaded asks ⊢
  obtain ⟨rfl, address⟩ := f.at_request asks
  have bare : withoutMark query = addressBar past r := by
    rcases reloaded with rfl | rfl
    · rw [address, FilterQuery.withoutMark_merge]
    · exact FilterQuery.withoutMark_mark _
  have read : parse query = { state := r.sync.filters, invalidTypes := [] } := by
    rw [FilterQuery.parse_of_withoutMark (bare.trans address)]
    exact FilterQuery.parse_merge_of_plain f.plain _
  refine leads_reload records' host' read ?_
  rw [bare, address, FilterQuery.merge_merge]

/-- A selection that is left alone until it is asked for. -/
def selectOnce : List Op :=
  [.act none (.hydrate "?n=1&tags=a"), .act none (.toggleTag "b"),
    .advance (Timer.milliseconds 200)]

theorem reload_law_selected :
    Host.silent.Records ∧ (∀ d ∈ (Run.start () selectOnce).trail .silent 12, d.inTime = true) ∧
      (∀ d ∈ (Run.start () selectOnce).trail .silent 12, d.togglesPlain = true) ∧
      ((Run.start () selectOnce).runFor .silent 12).nextCall? =
        some (.requestResources 1 ⟨[], ["a", "b"], "", 0, 100⟩) ∧
      ∃ r, Run.Leads .silent (Run.start () (reloading ("?" ++
          addressBar ((Run.start () selectOnce).trail .silent 12)
            ((Run.start () selectOnce).runFor .silent 12)))) r ∧ r.stack = [] ∧
        r.sync.filters = ((Run.start () selectOnce).runFor .silent 12).sync.filters ∧
        r.calls = [.requestTags, .setLoading true,
          .requestResources 1 ⟨[], ["a", "b"], "", 0, 100⟩] := by
  have inTime : ∀ d ∈ (Run.start () selectOnce).trail .silent 12, d.inTime = true := by
    decide +kernel
  have plain : ∀ d ∈ (Run.start () selectOnce).trail .silent 12, d.togglesPlain = true := by
    decide +kernel
  have asks : ((Run.start () selectOnce).runFor .silent 12).nextCall? =
      some (.requestResources 1 ⟨[], ["a", "b"], "", 0, 100⟩) := by
    decide +kernel
  exact ⟨Host.silent_records, inTime, plain, asks,
    reload_law Host.silent_records () selectOnce 12 inTime plain asks Host.silent_records ()
      (Or.inr rfl)⟩

end ResourceCatalog.Sync
