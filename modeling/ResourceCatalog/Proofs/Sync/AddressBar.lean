/-
  ResourceCatalog/Proofs/Sync/AddressBar.lean
  ===========================================
  **The address bar holds the selection and the settled text.**

  Whatever the host does when it is called, the query in the address bar is the
  first query merged with the filters there are, but for the search text, which
  is the one that has settled last.  A query is written only when it differs from
  the one that is there.

  An operation that writes a query calls for that first of all.  So the last query
  written and the address bar differ only while that call is next, and by then
  neither host nor outside has got control.
-/
import Mathlib.Data.List.Chain
import ResourceCatalog.Proofs.Filter.QueryRoundTrip
import ResourceCatalog.Proofs.Sync.Trail
import ResourceCatalog.Sync.Script

namespace ResourceCatalog.Sync

open FilterQuery (withoutMark merge)

/-! ### The address bar as a trail tells it -/

namespace Deed

/-- The query that is read, if it is read for the first time. -/
def hydration? (d : Deed) : Option String :=
  match d.cause with
  | .action (.hydrate query) => if d.isEffective then some query else none
  | _ => none

/-- The deed changes the selected tags or kinds. -/
def selects (d : Deed) : Bool :=
  match d.cause with
  | .action a => (a.selection? d.before).isSome && d.isEffective
  | .timer => false

end Deed

/-- The query that was read first, without its question mark. -/
def startQuery : List Deed → String
  | [] => ""
  | d :: past =>
    match d.hydration? with
    | some query => withoutMark query
    | none => startQuery past

/-- The search text when a quiet period last ended, or else when the query was read. -/
def settledText : List Deed → String
  | [] => ""
  | d :: past =>
    if d.isFiring then d.before.filters.searchText
    else if d.hydration?.isSome then d.after.filters.searchText
    else settledText past

/-- Since the query was read, the selection has been changed or a quiet period has ended. -/
def touched : List Deed → Bool
  | [] => false
  | d :: past => d.hydration?.isNone && (d.isFiring || d.selects || touched past)

/-- The query in the address bar. -/
def addressBar {σ : Type} (past : List Deed) (r : Run σ) : String :=
  (queriesIn r.calls).getLast?.getD (startQuery past)

/-! ### What a deed does to the query -/

@[simp] theorem queriesIn_nil : queriesIn [] = [] := rfl

/-- What any deed does to the query, the first reading of it left aside.  The query is written
    first of all, unless it is there already. -/
structure Deed.Rewrites (d : Deed) : Prop where
  base : d.after.baseQuery = d.before.baseQuery
  hydrated : d.after.hydrated = d.before.hydrated
  first : ∃ others, d.outcome.calls = d.before.writeCalls d.after.lastWritten ++ others ∧
    queriesIn others = []
  settled : d.after.settledText =
    if d.isFiring then d.before.filters.searchText else d.before.settledText
  merged : (d.isFiring || d.selects) = true → d.after.lastWritten =
    merge d.before.baseQuery (d.after.filters.withSearchText d.after.settledText)
  kept : (d.isFiring || d.selects) = false → d.after.lastWritten = d.before.lastWritten ∧
    ∀ text, d.after.filters.withSearchText text = d.before.filters.withSearchText text
  unread : d.before.hydrated = false → d.selects = false ∧ d.after.filters = d.before.filters

theorem Synchronizer.writeCalls_of_eq {query : String} {s : Synchronizer}
    (h : query = s.lastWritten) : s.writeCalls query = [] := if_pos h

theorem Deed.rewrites_timer {d : Deed} (hd : d.cause = .timer) : d.Rewrites := by
  have firing : d.isFiring = true := by rw [isFiring, hd]
  have outcome : d.outcome = d.before.fire := by rw [Deed.outcome, hd, Cause.apply]
  have hafter : d.after = d.before.fire.after := by rw [Deed.after, outcome]
  have noSelection : d.selects = false := by rw [selects, hd]
  rw [Synchronizer.fire_eq] at hafter
  refine ⟨by rw [hafter], by rw [hafter], ?_, by rw [hafter, firing]; rfl, ?_, ?_, ?_⟩
  · refine ⟨(if d.before.isLoading then [] else [.setLoading true])
      ++ [.requestResources (d.before.lastTicket + 1) d.before.filters.listRequest], ?_, ?_⟩
    · rw [outcome, hafter, Synchronizer.fire_eq, List.append_assoc]
    · split <;> rfl
  · intro _
    rw [hafter]
    rfl
  · rw [firing]
    intro kept
    cases kept
  · intro _
    rw [hafter]
    exact ⟨noSelection, rfl⟩

/-- An operation that writes nothing, and changes the search text at most. -/
theorem Deed.rewrites_kept {d : Deed} {a : Action} (hd : d.cause = .action a)
    (noSelection : d.selects = false) {filters : FilterState}
    {outstanding : Option (Ticket × FilterState)}
    (hafter : d.after = { d.before with filters, outstanding })
    (noQuery : queriesIn d.outcome.calls = [])
    (sameText : ∀ text, filters.withSearchText text = d.before.filters.withSearchText text)
    (unread : d.before.hydrated = false → filters = d.before.filters) : d.Rewrites := by
  have quiet : d.isFiring = false := by rw [isFiring, hd]
  refine ⟨by rw [hafter], by rw [hafter], ?_, by rw [hafter, quiet]; rfl, ?_, ?_, ?_⟩
  · refine ⟨d.outcome.calls, ?_, noQuery⟩
    rw [Synchronizer.writeCalls_of_eq (by rw [hafter]), List.nil_append]
  · rw [quiet, noSelection]
    intro touches
    cases touches
  · intro _
    rw [hafter]
    exact ⟨rfl, sameText⟩
  · intro unhydrated
    rw [hafter]
    exact ⟨noSelection, unread unhydrated⟩

theorem Deed.rewrites_selection {d : Deed} {a : Action} (hd : d.cause = .action a)
    {next : FilterState} (selects : d.selects = true)
    (changes : d.before.hydrated = true ∧ next ≠ d.before.filters)
    (outcome : d.outcome = d.before.select next) : d.Rewrites := by
  have quiet : d.isFiring = false := by rw [isFiring, hd]
  have hafter : d.after = (d.before.select next).after := by rw [Deed.after, outcome]
  rw [Synchronizer.select_eq changes] at outcome hafter
  refine ⟨by rw [hafter], by rw [hafter], ?_, by rw [hafter, quiet]; rfl, ?_, ?_, ?_⟩
  · refine ⟨[], ?_, rfl⟩
    rw [outcome, hafter, List.append_nil]
  · intro _
    rw [hafter]
  · rw [selects, Bool.or_true]
    intro kept
    cases kept
  · intro unread
    rw [changes.1] at unread
    cases unread

/-- **What a deed does to the query**, unless it reads it for the first time. -/
theorem Deed.rewrites {d : Deed} (other : d.hydration? = none) : d.Rewrites := by
  cases cause : d.cause with
  | timer => exact rewrites_timer cause
  | action a =>
    have outcome : d.outcome = a.apply d.before := by rw [Deed.outcome, cause, Cause.apply]
    have effective : d.isEffective = a.isEffective d.before := by rw [Deed.isEffective, cause]
    have hselects : d.selects = ((a.selection? d.before).isSome && a.isEffective d.before) := by
      rw [selects, cause, effective]
    cases edit : a.isEffective d.before with
    | false =>
      obtain ⟨⟨outstanding, same⟩, -, noQuery⟩ := Action.apply_of_not_effective edit
      rw [← outcome] at same noQuery
      exact rewrites_kept cause (by rw [hselects, edit, Bool.and_false]) same noQuery
        (fun _ => rfl) (fun _ => rfl)
    | true =>
      cases a.effect d.before with
      | reads query _ ha first h =>
        rw [hydration?, effective, cause, ha] at other
        simp [Action.isEffective, first] at other
      | types text _ ha hydrated h =>
        rw [h] at outcome
        have same : d.after = { d.before with filters := d.before.filters.withSearchText text } := by
          rw [Deed.after, outcome]
        refine rewrites_kept cause (by rw [hselects, ha]; rfl) same (by rw [outcome]; rfl)
          (fun _ => rfl) (fun unread => ?_)
        rw [hydrated] at unread
        cases unread
      | selects next _ ha changes h =>
        exact rewrites_selection cause (by rw [hselects, ha, edit]; rfl) changes (outcome.trans h)
      | nothing ineffective | resolves _ _ _ ineffective | suggests _ ineffective =>
        rw [edit] at ineffective
        cases ineffective

theorem Deed.reads {d : Deed} {query : String} (h : d.hydration? = some query) :
    d.before.hydrated = false ∧ d.isFiring = false ∧ d.selects = false ∧
      d.outcome = d.before.hydrate query := by
  rw [hydration?] at h
  split at h
  · rename_i found cause
    by_cases effective : d.isEffective = true
    · rw [if_pos effective] at h
      cases h
      refine ⟨?_, ?_, ?_, ?_⟩
      · rw [Deed.isEffective, cause] at effective
        simpa [Action.isEffective] using effective
      · rw [isFiring, cause]
      · rw [selects, cause]
        rfl
      · rw [outcome, cause, Cause.apply, Action.apply]
    · rw [if_neg effective] at h
      cases h
  · cases h

/-! ### The address bar of a run -/

/-- The query in the address bar is the last one written, unless to write it is the very next
    call, and no other query is still to be written. -/
def Addressed {σ : Type} (past : List Deed) (r : Run σ) : Prop :=
  (queriesIn r.pendingCalls.flatten = [] ∧ r.sync.lastWritten = addressBar past r) ∨
    ∃ cs rest, r.stack = .calls (.replaceQuery r.sync.lastWritten :: cs) :: rest ∧
      queriesIn (cs ++ (pendingOn rest).flatten) = [] ∧ addressBar past r ≠ r.sync.lastWritten

/-- The query of a run agrees with its trail.  Before it has been read, all is as it was at the
    start. -/
structure Coherent {σ : Type} (past : List Deed) (r : Run σ) : Prop where
  base : r.sync.baseQuery = startQuery past
  settled : r.sync.settledText = settledText past
  unread : r.sync.hydrated = false →
    r.sync.filters = {} ∧ startQuery past = "" ∧ settledText past = "" ∧
      r.sync.lastWritten = "" ∧ queriesIn r.calls = []
  merged : touched past = true →
    r.sync.lastWritten = merge (startQuery past) (r.sync.filters.withSearchText (settledText past))
  addressed : Addressed past r
  changes : (startQuery past :: queriesIn r.calls).IsChain (· ≠ ·)

namespace Coherent

variable {σ : Type} {past : List Deed} {r r' : Run σ}

theorem start (host : σ) (ops : List Op) : Coherent [] (Run.start host ops) where
  base := rfl
  settled := rfl
  unread := fun _ => ⟨rfl, rfl, rfl, rfl, rfl⟩
  merged := by
    intro touches
    cases touches
  addressed := Or.inl ⟨rfl, rfl⟩
  changes := List.IsChain.singleton ""

/-- Between the calls of an operation the address bar holds the last query written. -/
theorem address_eq (c : Coherent past r) (top : r.dispatching = false) :
    queriesIn r.pendingCalls.flatten = [] ∧ r.sync.lastWritten = addressBar past r := by
  rcases c.addressed with written | ⟨cs, rest, stack, -⟩
  · exact written
  · rw [Run.dispatching, stack] at top
    cases top

theorem read (c : Coherent past r) {d : Deed} {query : String}
    (reading : d.hydration? = some query) (before : d.before = r.sync)
    (top : r.dispatching = false) (sync : r'.sync = { d.after with timer := r'.sync.timer })
    (pending : r'.pendingCalls = d.outcome.calls :: r.pendingCalls)
    (calls : r'.calls = r.calls) : Coherent (d :: past) r' := by
  obtain ⟨unhydrated, quiet, -, outcome⟩ := Deed.reads reading
  obtain ⟨-, -, -, -, noQuery⟩ := c.unread (by rw [← before, unhydrated])
  have hstart : startQuery (d :: past) = withoutMark query := by rw [startQuery, reading]
  have hsettled : settledText (d :: past) = d.after.filters.searchText := by
    simp [settledText, reading, quiet]
  have untouched : touched (d :: past) = false := by simp [touched, reading]
  rw [Synchronizer.hydrate_eq unhydrated] at outcome
  have hafter := congrArg Transition.after outcome
  have hcalls := congrArg Transition.calls outcome
  simp only at hafter hcalls
  rw [← Deed.after] at hafter
  have notices : queriesIn d.outcome.calls = [] := by
    rw [hcalls]
    simp [queriesIn, Call.query?, List.filterMap_map]
  refine ⟨by rw [sync, hafter, hstart], by rw [sync, hsettled, hafter], ?_, ?_, Or.inl ⟨?_, ?_⟩, ?_⟩
  · intro unread
    rw [sync, hafter] at unread
    cases unread
  · rw [untouched]
    intro touches
    cases touches
  · rw [pending, List.flatten_cons, queriesIn_append, notices, (c.address_eq top).1]
    rfl
  · rw [addressBar, calls, noQuery, sync, hafter, hstart]
    rfl
  · rw [calls, noQuery]
    exact List.IsChain.singleton _

theorem deed (c : Coherent past r) {d : Deed} {below : List Frame} (other : d.hydration? = none)
    (before : d.before = r.sync) (top : r.dispatching = false)
    (sync : r'.sync = { d.after with timer := r'.sync.timer })
    (stack : r'.stack = .calls d.outcome.calls :: below)
    (rest : pendingOn below = pendingOn r.stack)
    (calls : r'.calls = r.calls) : Coherent (d :: past) r' := by
  obtain ⟨base, hydrated, ⟨others, first, noOther⟩, settled, merged, kept, unread⟩ :=
    Deed.rewrites other
  obtain ⟨nonePending, address⟩ := c.address_eq top
  rw [before] at base hydrated first settled merged kept unread
  have hstart : startQuery (d :: past) = startQuery past := by rw [startQuery, other]
  have hsettled : settledText (d :: past) = d.after.settledText := by
    rw [settledText, settled, c.settled, other, before]
    rfl
  have hbar : addressBar (d :: past) r' = r.sync.lastWritten := by
    rw [addressBar, calls, hstart, address, addressBar]
  have hwritten : r'.sync.lastWritten = d.after.lastWritten := by rw [sync]
  have hfilters : r'.sync.filters = d.after.filters := by rw [sync]
  have hmerged : touched (d :: past) = true → d.after.lastWritten =
      merge (startQuery past) (d.after.filters.withSearchText d.after.settledText) := by
    intro touches
    cases writes : d.isFiring || d.selects with
    | true => rw [merged writes, c.base]
    | false =>
      obtain ⟨same, sameFilters⟩ := kept writes
      have before : touched past = true := by
        rw [Bool.or_eq_false_iff] at writes
        simpa [touched, other, writes.1, writes.2] using touches
      have quiet := (Bool.or_eq_false_iff.mp writes).1
      rw [same, c.merged before, sameFilters, settled, c.settled, quiet]
      rfl
  refine ⟨by rw [sync, base, c.base, hstart], by rw [sync, hsettled], ?_, ?_, ?_, ?_⟩
  · intro unhydrated
    rw [sync, hydrated] at unhydrated
    obtain ⟨initial, noStart, noText, noneWritten, noQuery⟩ := c.unread unhydrated
    obtain ⟨noSelection, sameFilters⟩ := unread unhydrated
    -- that no timer fires before the query is read need not be shown: it would write nothing
    have noSettled : d.after.settledText = "" := by
      rw [settled, c.settled, noText, initial]
      split <;> rfl
    refine ⟨by rw [hfilters, sameFilters, initial], by rw [hstart, noStart],
      by rw [hsettled, noSettled], ?_, by rw [calls, noQuery]⟩
    rw [hwritten]
    cases firing : d.isFiring with
    | true =>
      rw [merged (by rw [firing]; rfl), sameFilters, initial, c.base, noStart, noSettled]
      decide +kernel
    | false => rw [(kept (by rw [firing, noSelection]; rfl)).1, noneWritten]
  · intro touches
    rw [hwritten, hfilters, hstart, hsettled]
    exact hmerged touches
  · -- the query comes first, so that no other call is made while it is out of date
    rw [Synchronizer.writeCalls] at first
    split at first
    · rename_i there
      refine Or.inl ⟨?_, by rw [hwritten, hbar, there]⟩
      rw [Run.pendingCalls, stack, pendingOn_calls, rest, first, List.nil_append,
        List.flatten_cons, queriesIn_append, noOther]
      exact nonePending
    · rename_i new
      refine Or.inr ⟨others, below, ?_, ?_, ?_⟩
      · rw [stack, first, hwritten]
        rfl
      · rw [queriesIn_append, noOther, rest]
        exact nonePending
      · rw [hbar, hwritten]
        exact fun same => new same.symm
  · rw [hstart, calls]
    exact c.changes

/-- Making a call puts the query in the address bar, if that is what the call does. -/
theorem call (c : Coherent past r) {call : Call} {cs : List Call} {rest : List Frame}
    {ops : List Op} (stack : r.stack = .calls (call :: cs) :: rest)
    (after : r'.stack = .script ops :: .calls cs :: rest) (sync : r'.sync = r.sync)
    (calls : r'.calls = r.calls ++ [call]) : Coherent past r' := by
  have due : r.pendingCalls.flatten = call :: (cs ++ (pendingOn rest).flatten) := by
    rw [Run.pendingCalls, stack]
    rfl
  have due' : r'.pendingCalls.flatten = cs ++ (pendingOn rest).flatten := by
    rw [Run.pendingCalls, after]
    rfl
  rcases c.addressed with ⟨none, address⟩ | ⟨cs', rest', stack', none, new⟩
  · -- no query is to be written, so this call writes none
    rw [due, ← List.singleton_append, queriesIn_append, List.append_eq_nil_iff] at none
    obtain ⟨other, none⟩ := none
    have same : queriesIn r'.calls = queriesIn r.calls := by
      rw [calls, queriesIn_append, other, List.append_nil]
    refine ⟨by rw [sync, c.base], by rw [sync, c.settled], ?_, by rw [sync]; exact c.merged,
      Or.inl ⟨by rw [due', none], ?_⟩, by rw [same]; exact c.changes⟩
    · rw [sync, same]
      exact c.unread
    · rw [sync, address, addressBar, addressBar, same]
  · -- this is the call that writes the query, which is in the address bar from now on
    rw [stack] at stack'
    cases stack'
    have written : queriesIn r'.calls = queriesIn r.calls ++ [r.sync.lastWritten] := by
      rw [calls, queriesIn_append]
      rfl
    refine ⟨by rw [sync, c.base], by rw [sync, c.settled], ?_, by rw [sync]; exact c.merged,
      Or.inl ⟨by rw [due', none], ?_⟩, ?_⟩
    · intro unhydrated
      rw [sync] at unhydrated
      obtain ⟨-, noStart, -, noneWritten, noQuery⟩ := c.unread unhydrated
      rw [addressBar, noQuery, noneWritten, noStart] at new
      exact absurd rfl new
    · rw [sync, addressBar, written, List.getLast?_concat]
      rfl
    · rw [written, ← List.cons_append, List.isChain_append]
      refine ⟨c.changes, List.IsChain.singleton _, ?_⟩
      intro last hlast next hnext
      cases hnext
      rw [List.getLast?_cons, ← addressBar] at hlast
      cases hlast
      exact new

theorem still (c : Coherent past r) (top : r.dispatching = false ∨ ∃ rest, r.stack = .calls [] :: rest)
    (pending : r'.pendingCalls.flatten = r.pendingCalls.flatten) (sync : r'.sync = r.sync)
    (calls : r'.calls = r.calls) : Coherent past r' := by
  refine ⟨by rw [sync, c.base], by rw [sync, c.settled], by rw [sync, calls]; exact c.unread,
    by rw [sync]; exact c.merged, ?_, by rw [calls]; exact c.changes⟩
  rcases c.addressed with ⟨none, address⟩ | ⟨cs, rest, stack, -⟩
  · refine Or.inl ⟨by rw [pending, none], ?_⟩
    rw [sync, address, addressBar, addressBar, calls]
  · rcases top with top | ⟨rest', stack'⟩
    · rw [Run.dispatching, stack] at top
      cases top
    · rw [stack] at stack'
      cases stack'

/-- **The query stays coherent at every step**, as long as no quiet period would end past the
    end of time. -/
theorem step {h : Host σ} (c : Coherent past r)
    (inTime : ∀ d, r.deed? = some d → d.inTime = true) (hs : r.step h = some r') :
    Coherent (r.deed?.toList ++ past) r' := by
  cases Run.step_move hs with
  | act d below deed top sync stack rest calls =>
    rw [if_pos (inTime d deed)] at stack
    rw [deed]
    obtain ⟨before, -⟩ := Run.deed?_before deed
    cases reading : d.hydration? with
    | none => exact c.deed reading before top sync stack rest calls
    | some query =>
      refine c.read reading before top sync ?_ calls
      rw [Run.pendingCalls, stack, pendingOn_calls, rest, Run.pendingCalls]
  | call call cs rest deed stack after sync calls =>
    rw [deed]
    exact c.call stack after sync calls
  | done rest deed stack after sync calls =>
    rw [deed]
    refine c.still (Or.inr ⟨rest, stack⟩) ?_ sync calls
    rw [Run.pendingCalls, Run.pendingCalls, stack, after]
    rfl
  | still deed top pending sync calls =>
    rw [deed]
    exact c.still (Or.inl top) (congrArg List.flatten pending) sync calls

theorem of_run (h : Host σ) (host : σ) (ops : List Op) (n : Nat)
    (inTime : ∀ d ∈ (Run.start host ops).trail h n, d.inTime = true) :
    Coherent ((Run.start host ops).trail h n) ((Run.start host ops).runFor h n) :=
  Run.trail_induction (start host ops) (fun _ _ _ c inTime hs => c.step inTime hs) n inTime

end Coherent

/-! ### Coherence of the address bar -/

/-- What the address bar of a run promises at one of its moments.  No query is written that is
    there already, neither the first one nor one after it.  Whenever host or outside have control,
    and the selection has been changed or a quiet period has ended since the query was read, the
    address bar holds the filters with the text that has settled.  A selection about to be made
    writes no text that has not settled. -/
structure CoherentAddress {σ : Type} (past : List Deed) (r : Run σ) : Prop where
  changes : (startQuery past :: queriesIn r.calls).IsChain (· ≠ ·)
  address : r.inControl = true → touched past = true →
    addressBar past r =
      merge (startQuery past) (r.sync.filters.withSearchText (settledText past))
  selection : ∀ d, r.deed? = some d → d.selects = true → ∀ query ∈ queriesIn d.outcome.calls,
    (FilterQuery.parse query).state.searchText = settledText past

/-- **The address bar is coherent**, whatever the host does when it is called. -/
theorem coherent_address {σ : Type} (h : Host σ) (host : σ) (ops : List Op) (n : Nat)
    (inTime : ∀ d ∈ (Run.start host ops).trail h n, d.inTime = true) :
    CoherentAddress ((Run.start host ops).trail h n) ((Run.start host ops).runFor h n) := by
  have c := Coherent.of_run h host ops n inTime
  generalize (Run.start host ops).trail h n = past at c
  generalize (Run.start host ops).runFor h n = r at c
  refine ⟨c.changes, ?_, ?_⟩
  · intro control touches
    have top : r.dispatching = false := by
      rw [Run.inControl] at control
      rw [Run.dispatching]
      split at control <;> simp_all
    rw [← (c.address_eq top).2]
    exact c.merged touches
  · intro d deed selection query hquery
    have other : d.hydration? = none := by
      cases reading : d.hydration? with
      | none => rfl
      | some read =>
        rw [(Deed.reads reading).2.2.1] at selection
        cases selection
    have quiet : d.isFiring = false := by
      rw [Deed.selects] at selection
      rw [Deed.isFiring]
      split at selection
      · rename_i cause
        rw [cause]
      · cases selection
    obtain ⟨-, -, ⟨others, first, noOther⟩, settled, merged, -, -⟩ := Deed.rewrites other
    have written : query = d.after.lastWritten := by
      rw [first, queriesIn_append, noOther, List.append_nil, Synchronizer.writeCalls] at hquery
      split at hquery
      · cases hquery
      · exact List.mem_singleton.mp hquery
    rw [written, merged (by rw [selection, Bool.or_true]), FilterQuery.parse_merge]
    simp only [FilterState.withSearchText]
    rw [settled, quiet, (Run.deed?_before deed).1, ← c.settled]
    rfl

/-- A host that edits the text, selects and lets the quiet period end when it is handed a
    query, and selects once more when it is told that a listing is loading. -/
def meddlingReactions : List Reaction :=
  [{ on := .query
     ops := [.act none (.setSearchText "s"), .act none (.toggleTag "b"),
       .advance searchTextDelay] },
    { on := .loading, ops := [.act none (.toggleType .model)] }]

def meddledSelections : List Op :=
  [.act none (.hydrate "?n=1"), .act none (.toggleTag "a"), .act none (.setSearchText "t"),
    .act none (.toggleTag "a")]

/-- The text that has settled is in the address bar, the one typed last is not. -/
theorem coherent_address_meddled :
    (∀ d ∈ (Run.start meddlingReactions meddledSelections).trail .scripted 39,
      d.inTime = true) ∧
      ((Run.start meddlingReactions meddledSelections).runFor .scripted 39).inControl = true ∧
      addressBar ((Run.start meddlingReactions meddledSelections).trail .scripted 39)
          ((Run.start meddlingReactions meddledSelections).runFor .scripted 39)
        = "n=1&tags=b&resourceTypes=MODEL&searchText=s" ∧
      CoherentAddress ((Run.start meddlingReactions meddledSelections).trail .scripted 39)
        ((Run.start meddlingReactions meddledSelections).runFor .scripted 39) :=
  ⟨by decide +kernel, by decide +kernel, by decide +kernel,
    coherent_address _ _ _ _ (by decide +kernel)⟩

end ResourceCatalog.Sync
