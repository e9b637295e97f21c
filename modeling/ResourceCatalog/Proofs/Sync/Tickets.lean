/-
  ResourceCatalog/Proofs/Sync/Tickets.lean
  ========================================
  **Last issued wins.**

  Every end of a quiet period issues a ticket, and outcomes of listing requests
  are reported under tickets, in any order and any number of times, also from
  within the host's calls.  Only one report under a ticket counts: the first one
  made while the ticket is the latest.

  The proof keeps a ledger of a run: the ticket that is waited for as the trail
  tells it, and the tickets and rows of all calls, those still to be made
  included.  Since timers do not fire within a call, nothing is pending when a
  ticket is issued, and no rows are pending while one is waited for.
-/
import ResourceCatalog.Proofs.Sync.Trail
import ResourceCatalog.Sync.Script

namespace ResourceCatalog.Sync

/-! ### Tickets as a trail tells them -/

namespace Deed

def completes (ticket : Ticket) (d : Deed) : Bool :=
  match d.cause with
  | .action (.complete reported _) => reported = ticket
  | _ => false

/-- The deed changes something or calls the host. -/
def HasEffect (d : Deed) : Prop := d.outcome ≠ d.before.unchanged

instance (d : Deed) : Decidable d.HasEffect := inferInstanceAs (Decidable (_ ≠ _))

/-- The ticket and the outcome of a report that counts. -/
def applied? (d : Deed) : Option (Ticket × Except String (List Resource)) :=
  match d.cause with
  | .action (.complete ticket result) => if d.HasEffect then some (ticket, result) else none
  | _ => none

/-- A report has an effect exactly when its ticket is waited for. -/
theorem hasEffect_iff_of_complete {d : Deed} {ticket : Ticket}
    {result : Except String (List Resource)} (cause : d.cause = .action (.complete ticket result)) :
    d.HasEffect ↔ ∃ filters, d.before.outstanding = some (ticket, filters) := by
  rw [HasEffect, outcome, cause, Cause.apply, Action.apply]
  constructor
  · intro effect
    refine Classical.byContradiction (fun superseded => effect ?_)
    exact Synchronizer.complete_superseded (not_exists.mp superseded) result
  · rintro ⟨filters, awaited⟩ same
    rw [Synchronizer.complete_awaited awaited] at same
    cases congrArg Transition.calls same

theorem applied?_eq_some_iff {d : Deed} {ticket : Ticket} {result : Except String (List Resource)} :
    d.applied? = some (ticket, result) ↔
      d.cause = .action (.complete ticket result) ∧ d.HasEffect := by
  rw [applied?]
  split
  · rename_i reported outcome cause
    by_cases effect : d.HasEffect <;> simp [cause, effect]
  · rename_i other
    simp only [reduceCtorEq, false_iff, not_and]
    exact fun cause => absurd cause (other ticket result)

end Deed

def issued (past : List Deed) : Nat := past.countP Deed.isFiring

/-- The ticket is the latest one issued, and no outcome has been reported under it since. -/
def Awaited (past : List Deed) (ticket : Ticket) : Prop :=
  0 < ticket ∧ ticket = issued past ∧
    ∀ later d earlier, past = later ++ d :: earlier → d.completes ticket = true →
      issued earlier < ticket

/-- The reports that counted, in order. -/
def applied (past : List Deed) : List (Ticket × Except String (List Resource)) :=
  (past.filterMap Deed.applied?).reverse

def rowsOf (outcomes : List (Ticket × Except String (List Resource))) : List (List Resource) :=
  outcomes.filterMap (fun p => p.2.toOption)

/-- Timers fire between the calls on the host and never within one, as in an event loop. -/
def FiresBetweenCalls (past : List Deed) : Prop :=
  ∀ d ∈ past, d.isFiring = true → d.duringCall = false

instance (past : List Deed) : Decidable (FiresBetweenCalls past) :=
  inferInstanceAs (Decidable (∀ d ∈ past, _))

theorem issued_cons (d : Deed) (past : List Deed) :
    issued (d :: past) = issued past + if d.isFiring then 1 else 0 := by
  rw [issued, List.countP_cons]
  rfl

theorem issued_le_of_split {past later earlier : List Deed} {d : Deed}
    (h : past = later ++ d :: earlier) : issued earlier ≤ issued past := by
  rw [h, issued, issued, List.countP_append, List.countP_cons]
  omega

theorem rowsOf_append (as bs : List (Ticket × Except String (List Resource))) :
    rowsOf (as ++ bs) = rowsOf as ++ rowsOf bs := List.filterMap_append

theorem ticketsIn_cons_setLoading (on : Bool) (calls : List Call) :
    ticketsIn (.setLoading on :: calls) = ticketsIn calls := rfl

theorem rowsIn_cons_setLoading (on : Bool) (calls : List Call) :
    rowsIn (.setLoading on :: calls) = rowsIn calls := rfl

theorem applied_cons (d : Deed) (past : List Deed) :
    applied (d :: past) = applied past ++ d.applied?.toList := by
  rw [applied, applied, List.filterMap_cons]
  cases d.applied? <;> simp

/-- A firing issues the ticket that is waited for from then on. -/
theorem awaited_cons_firing {d : Deed} (hd : d.cause = .timer) (past : List Deed)
    (ticket : Ticket) : Awaited (d :: past) ticket ↔ ticket = issued past + 1 := by
  have firing : d.isFiring = true := by rw [Deed.isFiring, hd]
  have silent : d.completes ticket = false := by rw [Deed.completes, hd]
  rw [Awaited, issued_cons, if_pos firing, forall_split_cons]
  constructor
  · rintro ⟨-, latest, -⟩
    exact latest
  · rintro rfl
    refine ⟨Nat.succ_pos _, rfl, fun completes => ?_, ?_⟩
    · rw [silent] at completes
      cases completes
    · intro later e earlier hsplit completes
      exact Nat.lt_succ_of_le (issued_le_of_split hsplit)

/-- After any other deed a ticket is waited for if it was before, unless an outcome has
    been reported under it. -/
theorem awaited_cons_action {d : Deed} {action : Action} (hd : d.cause = .action action)
    (past : List Deed) (ticket : Ticket) :
    Awaited (d :: past) ticket ↔ Awaited past ticket ∧ d.completes ticket = false := by
  have quiet : d.isFiring = false := by rw [Deed.isFiring, hd]
  rw [Awaited, issued_cons, quiet, forall_split_cons]
  constructor
  · rintro ⟨positive, latest, here, before⟩
    refine ⟨⟨positive, latest, before⟩, ?_⟩
    by_cases completes : d.completes ticket = true
    · have reported := here completes
      rw [latest] at reported
      exact absurd reported (Nat.lt_irrefl _)
    · exact Bool.eq_false_iff.mpr completes
  · rintro ⟨⟨positive, latest, before⟩, silent⟩
    refine ⟨positive, latest, fun completes => ?_, before⟩
    rw [silent] at completes
    cases completes

theorem Awaited.unique {past : List Deed} {ticket other : Ticket} (h : Awaited past ticket)
    (h' : Awaited past other) : other = ticket := by
  rw [h.2.1, h'.2.1]

/-! ### The ledger of a run -/

/-- The books of a run agree with its trail.  While a ticket is waited for, no rows are still to be
    set.  A ticket under which a report counted was issued, and is not waited for any more. -/
structure Ledger {σ : Type} (past : List Deed) (r : Run σ) : Prop where
  lastTicket : r.sync.lastTicket = issued past
  outstanding : ∀ ticket, (∃ filters, r.sync.outstanding = some (ticket, filters)) ↔
    Awaited past ticket
  tickets : ticketsIn (r.calls ++ r.pendingCalls.flatten) = List.range' 1 (issued past)
  rows : rowsIn (r.calls ++ r.pendingCalls.flatten) = rowsOf (applied past)
  nonePending : ∀ ticket, Awaited past ticket → rowsIn r.pendingCalls.flatten = []
  increasing : ((applied past).map Prod.fst).Pairwise (· < ·)
  spent : ∀ p ∈ applied past, p.1 ≤ issued past ∧ ¬ Awaited past p.1

namespace Ledger

variable {σ : Type} {past : List Deed} {r r' : Run σ}

theorem start (host : σ) (ops : List Op) : Ledger [] (Run.start host ops) where
  lastTicket := rfl
  outstanding := by
    intro ticket
    constructor
    · rintro ⟨filters, ho⟩
      cases ho
    · rintro ⟨positive, latest, -⟩
      rw [latest] at positive
      exact absurd positive (Nat.lt_irrefl _)
  tickets := rfl
  rows := rfl
  nonePending := fun _ _ => rfl
  increasing := List.Pairwise.nil
  spent := fun p hp => absurd hp List.not_mem_nil

/-- Making calls that are due leaves the books as they are. -/
theorem made (l : Ledger past r) {calls : List Call} (sync : r'.sync = r.sync)
    (hcalls : r'.calls = r.calls ++ calls)
    (pending : r.pendingCalls.flatten = calls ++ r'.pendingCalls.flatten) : Ledger past r' := by
  have due : r'.calls ++ r'.pendingCalls.flatten = r.calls ++ r.pendingCalls.flatten := by
    rw [hcalls, pending, List.append_assoc]
  refine ⟨by rw [sync, l.lastTicket], by rw [sync]; exact l.outstanding,
    by rw [due, l.tickets], by rw [due, l.rows], ?_, l.increasing, l.spent⟩
  intro ticket awaited
  have none := l.nonePending ticket awaited
  rw [pending, rowsIn_append] at none
  exact (List.append_eq_nil_iff.mp none).2

/-- A deed that concerns neither tickets nor rows leaves the books as they are. -/
theorem unconcerned (l : Ledger past r) {d : Deed} (calls : List Call)
    (lastTicket : r'.sync.lastTicket = r.sync.lastTicket)
    (outstanding : r'.sync.outstanding = r.sync.outstanding)
    (made : r'.calls = r.calls)
    (pending : r'.pendingCalls.flatten = calls ++ r.pendingCalls.flatten)
    (noTicket : ticketsIn calls = []) (noRows : rowsIn calls = [])
    (hissued : issued (d :: past) = issued past)
    (hawaited : ∀ ticket, Awaited (d :: past) ticket ↔ Awaited past ticket)
    (happlied : applied (d :: past) = applied past) : Ledger (d :: past) r' := by
  refine ⟨by rw [lastTicket, l.lastTicket, hissued], ?_, ?_, ?_, ?_, by
    rw [happlied]; exact l.increasing, ?_⟩
  · intro ticket
    rw [outstanding, hawaited]
    exact l.outstanding ticket
  · rw [made, pending, hissued, ← l.tickets]
    simp only [ticketsIn_append, noTicket, List.nil_append]
  · rw [made, pending, happlied, ← l.rows]
    simp only [rowsIn_append, noRows, List.nil_append]
  · intro ticket awaited
    rw [pending, rowsIn_append, noRows]
    exact l.nonePending ticket ((hawaited ticket).mp awaited)
  · intro p hp
    rw [happlied] at hp
    rw [hissued, hawaited]
    exact l.spent p hp

/-- A firing issues the next ticket.  No call is under way. -/
theorem fired (l : Ledger past r) {d : Deed} (cause : d.cause = .timer)
    (lastTicket : r'.sync.lastTicket = r.sync.fire.after.lastTicket)
    (outstanding : r'.sync.outstanding = r.sync.fire.after.outstanding)
    (made : r'.calls = r.calls) (idle : r.pendingCalls = [])
    (pending : r'.pendingCalls = [r.sync.fire.calls]) : Ledger (d :: past) r' := by
  have firing : d.isFiring = true := by rw [Deed.isFiring, cause]
  have hissued : issued (d :: past) = issued past + 1 := by rw [issued_cons, firing]; rfl
  have happlied : applied (d :: past) = applied past := by
    rw [applied_cons, Deed.applied?, cause]
    exact List.append_nil _
  have fireTickets : ticketsIn r.sync.fire.calls = [issued past + 1] := by
    rw [Synchronizer.fire_eq, ← l.lastTicket]
    simp only [ticketsIn_append, Synchronizer.ticketsIn_writeCalls]
    split <;> rfl
  have fireRows : rowsIn r.sync.fire.calls = [] := by
    rw [Synchronizer.fire_eq]
    simp only [rowsIn_append, Synchronizer.rowsIn_writeCalls]
    split <;> rfl
  have due : r'.calls ++ r'.pendingCalls.flatten
      = (r.calls ++ r.pendingCalls.flatten) ++ r.sync.fire.calls := by
    rw [made, pending, idle]
    simp
  refine ⟨?_, ?_, ?_, ?_, ?_, by rw [happlied]; exact l.increasing, ?_⟩
  · rw [lastTicket, Synchronizer.fire_eq, hissued, ← l.lastTicket]
  · intro ticket
    rw [outstanding, Synchronizer.fire_eq, awaited_cons_firing cause, ← l.lastTicket]
    constructor
    · rintro ⟨filters, ho⟩
      cases ho
      rfl
    · rintro rfl
      exact ⟨r.sync.filters, rfl⟩
  · rw [due, ticketsIn_append, l.tickets, fireTickets, hissued, List.range'_1_concat,
      Nat.add_comm 1]
  · rw [due, rowsIn_append, l.rows, fireRows, List.append_nil, happlied]
  · intro ticket awaited
    rw [pending]
    simpa using fireRows
  · intro p hp
    rw [happlied] at hp
    have old := (l.spent p hp).1
    rw [hissued, awaited_cons_firing cause]
    -- the new ticket is higher than any under which a report counted
    refine ⟨Nat.le_succ_of_le old, fun latest => ?_⟩
    rw [latest] at old
    exact absurd old (Nat.not_succ_le_self _)

/-- The outcome of the request that is waited for counts. -/
theorem resolved (l : Ledger past r) {d : Deed} {ticket : Ticket} {filters : FilterState}
    {result : Except String (List Resource)}
    (cause : d.cause = .action (.complete ticket result)) (before : d.before = r.sync)
    (awaited : r.sync.outstanding = some (ticket, filters))
    (lastTicket : r'.sync.lastTicket = r.sync.lastTicket)
    (outstanding : r'.sync.outstanding = none) (made : r'.calls = r.calls)
    (pending : r'.pendingCalls.flatten =
      (.setLoading false :: Synchronizer.outcomeCalls filters result) ++ r.pendingCalls.flatten) :
    Ledger (d :: past) r' := by
  have latest : Awaited past ticket := (l.outstanding ticket).mp ⟨filters, awaited⟩
  have hissued : issued (d :: past) = issued past := by
    rw [issued_cons, Deed.isFiring, cause]
    rfl
  have nothing : ∀ other, ¬ Awaited (d :: past) other := by
    intro other hother
    obtain ⟨still, silent⟩ := (awaited_cons_action cause past other).mp hother
    rw [latest.unique still, Deed.completes, cause] at silent
    simp at silent
  have effect : d.HasEffect :=
    (Deed.hasEffect_iff_of_complete cause).mpr ⟨filters, by rw [before, awaited]⟩
  have happlied : applied (d :: past) = applied past ++ [(ticket, result)] := by
    rw [applied_cons, Deed.applied?_eq_some_iff.mpr ⟨cause, effect⟩, Option.toList_some]
  have callTickets : ticketsIn (Synchronizer.outcomeCalls filters result) = [] := by
    rcases result with detail | _ | ⟨row, rows⟩ <;> rfl
  have callRows : rowsIn (Synchronizer.outcomeCalls filters result) = rowsOf [(ticket, result)] := by
    rcases result with detail | _ | ⟨row, rows⟩ <;> rfl
  refine ⟨by rw [lastTicket, l.lastTicket, hissued], ?_, ?_, ?_, ?_, ?_, ?_⟩
  · intro other
    rw [outstanding]
    constructor
    · rintro ⟨filters, ho⟩
      cases ho
    · exact fun hother => absurd hother (nothing other)
  · rw [made, pending, hissued, ← l.tickets]
    simp only [ticketsIn_append]
    rw [ticketsIn_cons_setLoading, callTickets, List.nil_append]
  · -- no other rows are pending, so these are the last ones
    have settled := l.rows
    rw [rowsIn_append, l.nonePending ticket latest, List.append_nil] at settled
    rw [made, pending, happlied]
    simp only [rowsIn_append]
    rw [rowsIn_cons_setLoading, callRows, l.nonePending ticket latest, settled, rowsOf_append,
      List.append_nil]
  · exact fun other hother => absurd hother (nothing other)
  · rw [happlied, List.map_append, List.pairwise_append]
    refine ⟨l.increasing, List.pairwise_singleton _ _, ?_⟩
    intro earlier hearlier later hlater
    obtain ⟨p, hp, rfl⟩ := List.mem_map.mp hearlier
    rw [List.map_singleton, List.mem_singleton] at hlater
    obtain ⟨old, spent⟩ := l.spent p hp
    rw [hlater]
    -- no higher than the latest, and not the latest, since that is still waited for
    refine Nat.lt_of_le_of_ne (latest.2.1 ▸ old) (fun same => spent ?_)
    rw [same]
    exact latest
  · intro p hp
    refine ⟨?_, nothing p.1⟩
    rw [hissued]
    rw [happlied, List.mem_append, List.mem_singleton] at hp
    rcases hp with hp | rfl
    · exact (l.spent p hp).1
    · exact Nat.le_of_eq latest.2.1

/-- An outcome that is not waited for does not count. -/
theorem ignored (l : Ledger past r) {d : Deed} {ticket : Ticket}
    {result : Except String (List Resource)}
    (cause : d.cause = .action (.complete ticket result)) (before : d.before = r.sync)
    (superseded : ¬ ∃ filters, r.sync.outstanding = some (ticket, filters))
    (lastTicket : r'.sync.lastTicket = r.sync.lastTicket)
    (outstanding : r'.sync.outstanding = r.sync.outstanding) (made : r'.calls = r.calls)
    (pending : r'.pendingCalls.flatten = r.pendingCalls.flatten) : Ledger (d :: past) r' := by
  have noEffect : ¬ d.HasEffect := by rwa [Deed.hasEffect_iff_of_complete cause, before]
  refine l.unconcerned [] lastTicket outstanding made pending rfl rfl ?_ ?_ ?_
  · rw [issued_cons, Deed.isFiring, cause]
    rfl
  · intro other
    rw [awaited_cons_action cause]
    refine ⟨And.left, fun awaited => ⟨awaited, ?_⟩⟩
    rw [Deed.completes, cause]
    refine decide_eq_false (fun same => superseded ?_)
    rw [same]
    exact (l.outstanding other).mpr awaited
  · rw [applied_cons, Deed.applied?, cause]
    simp only [if_neg noEffect, Option.toList_none, List.append_nil]

/-- Operations other than reports of outcomes concern neither tickets nor rows. -/
theorem edited (l : Ledger past r) {d : Deed} {action : Action} (calls : List Call)
    (cause : d.cause = .action action) (edit : action.isCompletion = false)
    (lastTicket : r'.sync.lastTicket = (action.apply r.sync).after.lastTicket)
    (outstanding : r'.sync.outstanding = (action.apply r.sync).after.outstanding)
    (made : r'.calls = r.calls)
    (pending : r'.pendingCalls.flatten = calls ++ r.pendingCalls.flatten)
    (hcalls : calls = (action.apply r.sync).calls ∨ calls = []) : Ledger (d :: past) r' := by
  obtain ⟨sameTicket, sameOutstanding, noTicket, noRows⟩ := Action.apply_frame edit r.sync
  refine l.unconcerned calls (lastTicket.trans sameTicket) (outstanding.trans sameOutstanding) made
    pending ?_ ?_ ?_ ?_ ?_
  · rcases hcalls with rfl | rfl
    · exact noTicket
    · rfl
  · rcases hcalls with rfl | rfl
    · exact noRows
    · rfl
  · rw [issued_cons, Deed.isFiring, cause]
    rfl
  · intro ticket
    rw [awaited_cons_action cause]
    refine ⟨And.left, fun awaited => ⟨awaited, ?_⟩⟩
    rw [Deed.completes, cause]
    cases action <;> first | rfl | cases edit
  · rw [applied_cons, Deed.applied?, cause]
    cases action <;> first | exact List.append_nil _ | cases edit

/-- **The books stay in order** at every step that fires no timer within a call. -/
theorem step {h : Host σ} (l : Ledger past r)
    (loop : ∀ d, r.deed? = some d → d.isFiring = true → d.duringCall = false)
    (hs : r.step h = some r') : Ledger (r.deed?.toList ++ past) r' := by
  rcases Run.step_deed_or_calls hs with
    ⟨d, deed, sync, calls, pending⟩ | ⟨deed, sync, made, calls, pending⟩
  · rw [deed]
    obtain ⟨before, during⟩ := Run.deed?_before deed
    have lastTicket : r'.sync.lastTicket = d.after.lastTicket := by rw [sync]
    have outstanding : r'.sync.outstanding = d.after.outstanding := by rw [sync]
    rw [Deed.after, Deed.outcome, before] at lastTicket outstanding
    rw [Deed.inTime, Deed.outcome, before] at pending
    cases cause : d.cause with
    | timer =>
      rw [cause, Cause.apply] at lastTicket outstanding pending
      -- otherwise the ticket would be issued ahead of rows still to be set
      have idle : r.pendingCalls = [] := by
        rw [Run.pendingCalls, ← any_isCalls_eq_false_iff, ← during]
        exact loop d deed (by rw [Deed.isFiring, cause])
      rw [if_pos (Transition.inTime_of_restart_none r.sync.restart_fire _), idle] at pending
      exact l.fired cause lastTicket outstanding calls idle pending
    | action action =>
      rw [cause, Cause.apply] at lastTicket outstanding pending
      cases edit : action.isCompletion with
      | false =>
        by_cases ht : (action.apply r.sync).inTime d.time = true
        · rw [if_pos ht] at pending
          exact l.edited _ cause edit lastTicket outstanding calls
            (by rw [pending, List.flatten_cons]) (Or.inl rfl)
        · rw [if_neg ht] at pending
          exact l.edited [] cause edit lastTicket outstanding calls
            (by rw [pending, List.nil_append]) (Or.inr rfl)
      | true =>
        cases action with
        | complete ticket result =>
          by_cases awaited : ∃ filters, r.sync.outstanding = some (ticket, filters)
          · obtain ⟨filters, awaited⟩ := awaited
            rw [Action.apply, Synchronizer.complete_awaited awaited] at lastTicket outstanding pending
            exact l.resolved cause before awaited lastTicket outstanding calls
              (by rw [pending]; rfl)
          · rw [Action.apply, Synchronizer.complete_superseded (not_exists.mp awaited)]
              at lastTicket outstanding pending
            exact l.ignored cause before awaited lastTicket outstanding calls
              (by rw [pending]; rfl)
        | _ => cases edit
  · rw [deed]
    exact l.made sync calls pending

/-- The books are in order at every moment of a run. -/
theorem of_run (h : Host σ) (host : σ) (ops : List Op) (n : Nat)
    (loop : FiresBetweenCalls ((Run.start host ops).trail h n)) :
    Ledger ((Run.start host ops).trail h n) ((Run.start host ops).runFor h n) :=
  Run.trail_induction (start host ops) (fun _ _ _ l loop hs => l.step loop hs) n loop

end Ledger

/-! ### Last issued wins -/

variable {σ : Type}

/-- A report of an outcome starts no quiet period, so it is carried out at once. -/
theorem step_completion (h : Host σ) {r : Run σ} {d : Deed} {ticket : Ticket}
    {result : Except String (List Resource)} (deed : r.deed? = some d)
    (cause : d.cause = .action (.complete ticket result)) :
    ∃ r', r.step h = some r' ∧ r'.sync = (r.sync.complete ticket result).after ∧
      r'.clock = r.clock ∧ r'.calls = r.calls ∧
      r'.pendingCalls = (r.sync.complete ticket result).calls :: r.pendingCalls := by
  obtain ⟨via, ops, rest, stack, reached⟩ := Run.deed?_action deed cause
  have noRestart : (r.sync.complete ticket result).restart = none := by
    by_cases awaited : ∃ filters, r.sync.outstanding = some (ticket, filters)
    · obtain ⟨filters, awaited⟩ := awaited
      rw [Synchronizer.complete_awaited awaited]
    · rw [Synchronizer.complete_superseded (not_exists.mp awaited)]
      rfl
  refine ⟨_, Run.step_action h stack reached, ?_⟩
  rw [Action.apply, Run.carryOut_of_restart_none noRestart, Run.pendingCalls, Run.pendingCalls, stack]
  exact ⟨rfl, rfl, Run.calls_of_journal rfl, rfl⟩

/-- What the tickets of a run promise at one of its moments.  The host is handed the tickets 1, 2,
    3, … in that order, and between calls every firing has led to its request.  A report has an
    effect exactly when its ticket is waited for; any other makes no call and leaves the
    synchronizer and its timer alone.  A listing that counts ends the wait, and its rows are to be
    set; a failure that counts ends it and neither sets rows nor shows an empty result.  The
    tickets under which reports counted are strictly increasing.  Rows are set as the listings that
    counted came in, each once, and between calls those of all of them have been. -/
structure LastIssuedWins (h : Host σ) (past : List Deed) (r : Run σ) : Prop where
  tickets : ticketsIn r.calls <+: List.range' 1 (issued past)
  requested : r.pendingCalls = [] → ticketsIn r.calls = List.range' 1 (issued past)
  effect_iff : ∀ d ticket result, r.deed? = some d →
    d.cause = .action (.complete ticket result) → (d.HasEffect ↔ Awaited past ticket)
  superseded : ∀ d ticket result, r.deed? = some d →
    d.cause = .action (.complete ticket result) → ¬ Awaited past ticket →
    ∃ r', r.step h = some r' ∧ r'.sync = r.sync ∧ r'.clock = r.clock ∧ r'.calls = r.calls ∧
      r'.pendingCalls = [] :: r.pendingCalls
  listing : ∀ d ticket rows, r.deed? = some d →
    d.cause = .action (.complete ticket (.ok rows)) → Awaited past ticket →
    ∃ r' filters, r.step h = some r' ∧ r.sync.outstanding = some (ticket, filters) ∧
      r'.sync = { r.sync with outstanding := none } ∧ r'.clock = r.clock ∧
      r'.pendingCalls = ([.setLoading false, .setResources rows] ++
        if rows.isEmpty then [.showEmptyResult filters.emptySummary] else []) :: r.pendingCalls
  failure : ∀ d ticket detail, r.deed? = some d →
    d.cause = .action (.complete ticket (.error detail)) → Awaited past ticket →
    ∃ r', r.step h = some r' ∧ r'.sync = { r.sync with outstanding := none } ∧
      r'.clock = r.clock ∧
      r'.pendingCalls = [.setLoading false, .notify (.fetchFailed detail)] :: r.pendingCalls
  increasing : ((applied past).map Prod.fst).Pairwise (· < ·)
  rows : rowsIn r.calls <+: rowsOf (applied past)
  rowsSet : r.pendingCalls = [] → rowsIn r.calls = rowsOf (applied past)

/-- **Last issued wins**, whatever the host does when it is called, as long as timers do not
    fire within its calls. -/
theorem last_issued_wins (h : Host σ) (host : σ) (ops : List Op) (n : Nat)
    (loop : FiresBetweenCalls ((Run.start host ops).trail h n)) :
    LastIssuedWins h ((Run.start host ops).trail h n) ((Run.start host ops).runFor h n) := by
  have l := Ledger.of_run h host ops n loop
  generalize (Run.start host ops).trail h n = past at l
  generalize (Run.start host ops).runFor h n = r at l
  refine ⟨?_, ?_, ?_, ?_, ?_, ?_, l.increasing, ?_, ?_⟩
  · exact ⟨_, by rw [← ticketsIn_append, l.tickets]⟩
  · intro idle
    rw [← l.tickets, idle, List.flatten_nil, List.append_nil]
  · intro d ticket result deed cause
    rw [← l.outstanding, Deed.hasEffect_iff_of_complete cause, (Run.deed?_before deed).1]
  · intro d ticket result deed cause superseded
    rw [← l.outstanding] at superseded
    obtain ⟨r', hs, sync, clock, calls, pending⟩ := step_completion h deed cause
    rw [Synchronizer.complete_superseded (not_exists.mp superseded)] at sync pending
    exact ⟨r', hs, sync, clock, calls, pending⟩
  · intro d ticket rows deed cause awaited
    obtain ⟨filters, awaited⟩ := (l.outstanding ticket).mpr awaited
    obtain ⟨r', hs, sync, clock, -, pending⟩ := step_completion h deed cause
    rw [Synchronizer.complete_awaited awaited] at sync pending
    exact ⟨r', filters, hs, awaited, sync, clock, pending⟩
  · intro d ticket detail deed cause awaited
    obtain ⟨filters, awaited⟩ := (l.outstanding ticket).mpr awaited
    obtain ⟨r', hs, sync, clock, -, pending⟩ := step_completion h deed cause
    rw [Synchronizer.complete_awaited awaited] at sync pending
    exact ⟨r', hs, sync, clock, pending⟩
  · exact ⟨_, by rw [← rowsIn_append, l.rows]⟩
  · intro idle
    rw [← l.rows, idle, List.flatten_nil, List.append_nil]

/-- A host that, told that a listing is loading, selects a tag and reports an outcome at
    once, and reports another one, too early, when it is given a query. -/
def hastyReactions : List Reaction :=
  [{ on := .loading, ops := [.act none (.toggleTag "x"), .act none (.complete 1 (.ok []))] },
    { on := .query, ops := [.act none (.complete 2 (.ok []))] }]

/-- Two listings are asked for; outcomes of both are reported, some of them twice. -/
def repeatedReports : List Op :=
  [.act none (.hydrate "?tags=a"), .advance selectionDelay, .act none (.complete 1 (.ok [])),
    .act none (.toggleTag "b"), .advance selectionDelay, .act none (.complete 2 (.error "late")),
    .act none (.complete 2 (.ok []))]

/-- Each ticket counts once, the first one within the call that precedes its request. -/
theorem last_issued_wins_hasty :
    FiresBetweenCalls ((Run.start hastyReactions repeatedReports).trail .scripted 49) ∧
      (applied ((Run.start hastyReactions repeatedReports).trail .scripted 49)).map Prod.fst
        = [1, 2] ∧
      LastIssuedWins .scripted ((Run.start hastyReactions repeatedReports).trail .scripted 49)
        ((Run.start hastyReactions repeatedReports).runFor .scripted 49) :=
  ⟨by decide +kernel, by decide +kernel, last_issued_wins _ _ _ _ (by decide +kernel)⟩

end ResourceCatalog.Sync
