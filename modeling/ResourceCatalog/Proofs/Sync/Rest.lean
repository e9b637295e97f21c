/-
  ResourceCatalog/Proofs/Sync/Rest.lean
  =====================================
  **What the host has been told last, when no operation is under way.**

  An operation decides all its calls at once and then makes them one by one.  The
  host may answer a call by letting quiet periods end and by reporting outcomes, so
  a call that was decided early can be made late, behind those of an operation that
  came after it.

  Two kinds of calls can be late.  A firing says that a listing is loading only
  after it has written the query, and a report sets its rows only after it has said
  that nothing is loading.  `lastWords_of_run` says which words stand in the end: a
  spinner that is still to be set stays on when a report overtakes it, and rows that
  are still to be set take the place of newer ones.  With that the host is told
  the truth at rest exactly when the last report overtook neither
  (`coherentAtRest_iff`).  No report does when timers fire between the calls on the
  host and tickets are reported that were handed out (`coherentAtRest_of_eventLoop`).
-/
import Mathlib.Data.List.Basic
import ResourceCatalog.Proofs.Sync.History
import ResourceCatalog.Sync.Script

namespace ResourceCatalog.Sync

variable {σ β : Type}

/-! ### Calls that are late -/

namespace Run

/-- An operation under way has still to say something on a matter. -/
def owes (said? : Call → Option β) (r : Run σ) : Bool :=
  r.pendingCalls.flatten.any (fun c => (said? c).isSome)

/-- The report that the next step takes in, if it counts. -/
def report? (r : Run σ) : Option (Ticket × Except String (List Resource)) :=
  r.deed?.bind Deed.applied?

/-- Whether the report that the next step takes in overtakes a call that sets the spinner. -/
def overtaking? (r : Run σ) : Option Bool := r.report?.map (fun _ => r.owes Call.loading?)

/-- The listing that the next step takes in, if no rows are still to be set. -/
def timelyRows? (r : Run σ) : Option (List Resource) :=
  if r.owes Call.rows? then none else r.report?.bind (fun p => p.2.toOption)

/-- What the moments of a run show, in order. -/
def noted (f : Run σ → Option β) (h : Host σ) (n : Nat) (r : Run σ) : List β :=
  (List.range n).filterMap (fun m => f (r.runFor h m))

theorem noted_succ (f : Run σ → Option β) (h : Host σ) (n : Nat) (r : Run σ) :
    r.noted f h (n + 1) = r.noted f h n ++ (f (r.runFor h n)).toList := by
  rw [noted, noted, List.range_succ, List.filterMap_append]
  cases hf : f (r.runFor h n) <;> simp [hf]

theorem owes_eq_false_iff {said? : Call → Option β} {r : Run σ} :
    r.owes said? = false ↔ r.pendingCalls.flatten.filterMap said? = [] := by
  rw [owes, List.any_eq_false, List.filterMap_eq_nil_iff]
  simp

/-- The calls that are due after a deed: those made for it come first. -/
theorem pending_of_act {r r' : Run σ} {d : Deed} {below : List Frame}
    (stack : r'.stack = if d.inTime then .calls d.outcome.calls :: below else below)
    (rest : pendingOn below = pendingOn r.stack) :
    r'.pendingCalls.flatten = d.sent ++ r.pendingCalls.flatten := by
  rw [pendingCalls, stack, Deed.sent, pendingCalls, ← rest]
  split <;> rfl

end Run

/-! ### The spinner -/

/-- No call turns the spinner off. -/
def OnlyOn (calls : List Call) : Prop := ∀ on ∈ calls.filterMap Call.loading?, on = true

theorem onlyOn_append {as bs : List Call} : OnlyOn (as ++ bs) ↔ OnlyOn as ∧ OnlyOn bs := by
  simp only [OnlyOn, List.filterMap_append, List.mem_append]
  constructor
  · intro both
    exact ⟨fun on hon => both on (Or.inl hon), fun on hon => both on (Or.inr hon)⟩
  · rintro ⟨left, right⟩ on (hon | hon)
    · exact left on hon
    · exact right on hon

theorem onlyOn_of_silent {calls : List Call} (silent : calls.filterMap Call.loading? = []) :
    OnlyOn calls := by
  intro on hon
  rw [silent] at hon
  cases hon

theorem filterMap_loading?_of_aside {calls : List Call} (aside : ∀ c ∈ calls, c.isAside = true) :
    calls.filterMap Call.loading? = [] :=
  List.filterMap_eq_nil_iff.mpr (fun c hc => (Call.silent_of_isAside (aside c hc)).1)

theorem rowsIn_of_aside {calls : List Call} (aside : ∀ c ∈ calls, c.isAside = true) :
    rowsIn calls = [] :=
  List.filterMap_eq_nil_iff.mpr (fun c hc => (Call.silent_of_isAside (aside c hc)).2.1)

theorem filterMap_loading?_outcomeCalls (filters : FilterState)
    (result : Except String (List Resource)) :
    (Synchronizer.outcomeCalls filters result).filterMap Call.loading? = [] := by
  rcases result with detail | _ | ⟨row, rows⟩ <;> rfl

/-- Calls that can only turn the spinner on leave it on if it was, or if one of them does. -/
theorem lastSaid_of_onlyOn {calls : List Call} (only : OnlyOn calls) (before : Bool) :
    lastSaid Call.loading? before calls =
      (before || calls.any (fun c => c.loading?.isSome)) := by
  induction calls generalizing before with
  | nil => simp [lastSaid]
  | cons c cs ih =>
    rw [← List.singleton_append, onlyOn_append] at only
    obtain ⟨here, behind⟩ := only
    rw [← List.singleton_append, lastSaid_append, ih behind, List.any_append]
    cases said : c.loading? with
    | none => simp [lastSaid, said]
    | some on =>
      have turned : on = true := here on (by simp [said])
      simp [lastSaid, said, turned]

/-- Calls that are due turn the spinner on at most, but for one that is made next. -/
def SpinnerDue (r : Run σ) : Prop :=
  OnlyOn r.pendingCalls.flatten ∨
    ∃ cs rest, r.stack = .calls (.setLoading false :: cs) :: rest ∧
      OnlyOn (cs ++ (pendingOn rest).flatten)

theorem SpinnerDue.onlyOn {r : Run σ} (due : SpinnerDue r) (top : r.dispatching = false) :
    OnlyOn r.pendingCalls.flatten := by
  rcases due with only | ⟨cs, rest, stack, -⟩
  · exact only
  · rw [Run.dispatching, stack] at top
    cases top

/-! ### The words that stand -/

/-- What the host will have been told last when all calls that are due have been made. -/
structure LastWords (late : Option Bool) (timely : List (List Resource)) (r : Run σ) : Prop where
  due : SpinnerDue r
  spinner : lastSaid Call.loading? false (r.calls ++ r.pendingCalls.flatten) =
    (r.sync.isLoading || late.getD false)
  rows : (rowsIn (r.calls ++ r.pendingCalls.flatten)).getLast? = timely.getLast?

namespace LastWords

variable {late : Option Bool} {timely : List (List Resource)} {r r' : Run σ} {d : Deed}

theorem start (host : σ) (ops : List Op) : LastWords none [] (Run.start host ops) where
  due := Or.inl (onlyOn_of_silent rfl)
  spinner := rfl
  rows := rfl

/-- Making a call that is due changes nothing of what will have been said. -/
theorem made (w : LastWords late timely r) {calls : List Call} (due : SpinnerDue r')
    (sync : r'.sync = r.sync) (hcalls : r'.calls = r.calls ++ calls)
    (pending : r.pendingCalls.flatten = calls ++ r'.pendingCalls.flatten) :
    LastWords late timely r' := by
  have same : r'.calls ++ r'.pendingCalls.flatten = r.calls ++ r.pendingCalls.flatten := by
    rw [hcalls, pending, List.append_assoc]
  exact ⟨due, by rw [same, sync, w.spinner], by rw [same, w.rows]⟩

theorem spinner_after (only : OnlyOn r.pendingCalls.flatten) (calls : r'.calls = r.calls)
    (pending : r'.pendingCalls.flatten = d.sent ++ r.pendingCalls.flatten) :
    lastSaid Call.loading? false (r'.calls ++ r'.pendingCalls.flatten) =
      (lastSaid Call.loading? (lastSaid Call.loading? false r.calls) d.sent ||
        r.owes Call.loading?) := by
  rw [calls, pending, lastSaid_append, lastSaid_append, lastSaid_of_onlyOn only]
  rfl

theorem rows_after (w : LastWords late timely r) (calls : r'.calls = r.calls)
    (pending : r'.pendingCalls.flatten = d.sent ++ r.pendingCalls.flatten)
    (silent : rowsIn d.sent = []) :
    (rowsIn (r'.calls ++ r'.pendingCalls.flatten)).getLast? = timely.getLast? := by
  rw [← w.rows, calls, pending]
  simp only [rowsIn_append, silent, List.nil_append]

theorem asks (w : LastWords late timely r) (top : r.dispatching = false)
    (calls : r'.calls = r.calls)
    (pending : r'.pendingCalls.flatten = d.sent ++ r.pendingCalls.flatten) {written : List Call}
    (aside : ∀ c ∈ written, c.isAside = true) {ticket : Ticket} {request : ListRequest}
    (sent : d.sent = written ++ (if r.sync.isLoading then [] else [.setLoading true])
      ++ [.requestResources ticket request])
    (loading : r'.sync.isLoading = true) : LastWords late timely r' := by
  have only := w.due.onlyOn top
  have quiet := filterMap_loading?_of_aside aside
  have turns : OnlyOn d.sent := by
    rw [sent]
    intro on hon
    simp only [List.filterMap_append, quiet, List.nil_append] at hon
    split at hon
    · cases hon
    · simpa [Call.loading?] using hon
  refine ⟨Or.inl ?_, ?_, w.rows_after calls pending ?_⟩
  · rw [pending]
    exact onlyOn_append.mpr ⟨turns, only⟩
  · rw [spinner_after only calls pending, loading, Bool.true_or, lastSaid_of_onlyOn turns]
    cases before : r.sync.isLoading with
    | false => simp [sent, before, Call.loading?]
    | true =>
      -- it was on before, or some call that is due turns it on
      have stands := w.spinner
      rw [lastSaid_append, lastSaid_of_onlyOn only, before, Bool.true_or, Bool.or_eq_true] at stands
      rcases stands with said | owed
      · rw [said, Bool.true_or, Bool.true_or]
      · rw [Run.owes, owed, Bool.or_true]
  · rw [sent]
    simp only [rowsIn_append, rowsIn_of_aside aside, List.nil_append]
    split <;> rfl

/-- A report that counts says that nothing is loading; what is due turns the spinner on again. -/
theorem resolves (w : LastWords late timely r) (top : r.dispatching = false)
    (calls : r'.calls = r.calls)
    (pending : r'.pendingCalls.flatten = d.sent ++ r.pendingCalls.flatten) {below : List Frame}
    (stack : r'.stack = .calls d.sent :: below) (rest : pendingOn below = pendingOn r.stack)
    {filters : FilterState} {result : Except String (List Resource)}
    (sent : d.sent = .setLoading false :: Synchronizer.outcomeCalls filters result)
    (loading : r'.sync.isLoading = false) :
    LastWords (some (r.owes Call.loading?))
      (timely ++ (if r.owes Call.rows? then none else result.toOption).toList) r' := by
  have only := w.due.onlyOn top
  have quiet := filterMap_loading?_outcomeCalls filters result
  refine ⟨Or.inr ⟨_, below, by rw [stack, sent], ?_⟩, ?_, ?_⟩
  · rw [rest]
    exact onlyOn_append.mpr ⟨onlyOn_of_silent quiet, only⟩
  · rw [spinner_after only calls pending, loading, sent]
    have off : lastSaid Call.loading? (lastSaid Call.loading? false r.calls)
        (.setLoading false :: Synchronizer.outcomeCalls filters result) = false := by
      simp only [lastSaid, List.filterMap_cons, Call.loading?, quiet]
      rfl
    rw [off]
    rfl
  · have callRows : rowsIn d.sent = result.toOption.toList := by
      rw [sent]
      rcases result with detail | _ | ⟨row, rows⟩ <;> rfl
    have stood := w.rows
    rw [calls, pending]
    simp only [rowsIn_append, callRows] at stood ⊢
    cases owed : r.owes Call.rows? with
    | false =>
      have nothing : rowsIn r.pendingCalls.flatten = [] := Run.owes_eq_false_iff.mp owed
      rw [nothing, List.append_nil] at stood ⊢
      simp only [Bool.false_eq_true, if_false, List.getLast?_append, stood]
    | true =>
      -- the rows that are due are set behind the new ones
      have something : rowsIn r.pendingCalls.flatten ≠ [] := by
        intro nothing
        rw [Run.owes_eq_false_iff.mpr nothing] at owed
        cases owed
      rw [if_pos rfl, Option.toList_none, List.append_nil, ← stood]
      simp only [List.getLast?_append, List.getLast?_eq_some_getLast something, Option.some_or]

theorem aside (w : LastWords late timely r) (top : r.dispatching = false)
    (calls : r'.calls = r.calls)
    (pending : r'.pendingCalls.flatten = d.sent ++ r.pendingCalls.flatten)
    (sent : ∀ c ∈ d.sent, c.isAside = true) (loading : r'.sync.isLoading = r.sync.isLoading) :
    LastWords late timely r' := by
  have only := w.due.onlyOn top
  have quiet := filterMap_loading?_of_aside sent
  refine ⟨Or.inl ?_, ?_, w.rows_after calls pending (rowsIn_of_aside sent)⟩
  · rw [pending]
    exact onlyOn_append.mpr ⟨onlyOn_of_silent quiet, only⟩
  · have silent : ∀ c ∈ d.sent, c.loading? = none := List.filterMap_eq_nil_iff.mp quiet
    rw [spinner_after only calls pending, lastSaid_of_silent silent, loading, ← w.spinner,
      lastSaid_append, lastSaid_of_onlyOn only, Run.owes]

theorem call (w : LastWords late timely r) {c : Call} {cs : List Call} {rest : List Frame}
    {ops : List Op} (stack : r.stack = .calls (c :: cs) :: rest)
    (after : r'.stack = .script ops :: .calls cs :: rest) (sync : r'.sync = r.sync)
    (calls : r'.calls = r.calls ++ [c]) : LastWords late timely r' := by
  have due : r.pendingCalls.flatten = c :: (cs ++ (pendingOn rest).flatten) := by
    rw [Run.pendingCalls, stack]
    rfl
  have due' : r'.pendingCalls.flatten = cs ++ (pendingOn rest).flatten := by
    rw [Run.pendingCalls, after]
    rfl
  refine w.made (Or.inl ?_) sync calls (by rw [due, due', List.singleton_append])
  rw [due']
  rcases w.due with only | ⟨cs', rest', stack', only⟩
  · rw [due, ← List.singleton_append] at only
    exact (onlyOn_append.mp only).2
  · rw [stack] at stack'
    cases stack'
    exact only

theorem still (w : LastWords late timely r)
    (top : r.dispatching = false ∨ ∃ rest, r.stack = .calls [] :: rest)
    (pending : r'.pendingCalls.flatten = r.pendingCalls.flatten) (sync : r'.sync = r.sync)
    (calls : r'.calls = r.calls) : LastWords late timely r' := by
  have none : r'.calls = r.calls ++ [] := by rw [calls, List.append_nil]
  refine w.made (Or.inl ?_) sync none pending.symm
  rw [pending]
  rcases top with top | ⟨rest, stack⟩
  · exact w.due.onlyOn top
  · rcases w.due with only | ⟨cs, rest', stack', -⟩
    · exact only
    · rw [stack] at stack'
      cases stack'

/-- **The words that stand**, from one step to the next. -/
theorem step {h : Host σ} (w : LastWords late timely r) (hs : r.step h = some r') :
    LastWords (r.overtaking?.or late) (timely ++ r.timelyRows?.toList) r' := by
  have unreported : r.report? = none → LastWords late timely r' →
      LastWords (r.overtaking?.or late) (timely ++ r.timelyRows?.toList) r' := by
    intro none kept
    simpa [Run.overtaking?, Run.timelyRows?, none] using kept
  cases Run.step_move hs with
  | act d below deed top sync stack rest calls =>
    obtain ⟨before, -⟩ := Run.deed?_before deed
    have pending := Run.pending_of_act stack rest
    have reported : r.report? = d.applied? := by rw [Run.report?, deed, Option.bind_some]
    have loading : r'.sync.isLoading = d.after.outstanding.isSome := by
      rw [sync, Synchronizer.isLoading]
    cases d.bearing with
    | asks written aside sent lastTicket outstanding applied =>
      refine unreported (reported.trans applied) ?_
      rw [before] at sent
      exact w.asks top calls pending aside sent (by rw [loading, outstanding]; rfl)
    | resolves ticket filters result awaited sent lastTicket outstanding applied =>
      have inTime : d.inTime = true := by
        by_contra late
        rw [Deed.sent, if_neg late] at sent
        cases sent
      rw [if_pos inTime, ← if_pos (c := d.inTime = true) inTime (t := d.outcome.calls) (e := []),
        ← Deed.sent] at stack
      have overtook :=
        w.resolves top calls pending stack rest sent (by rw [loading, outstanding]; rfl)
      rw [Run.overtaking?, Run.timelyRows?, reported, applied]
      exact overtook
    | aside sent lastTicket outstanding applied =>
      refine unreported (reported.trans applied) ?_
      refine w.aside top calls pending sent ?_
      rw [loading, outstanding, before, Synchronizer.isLoading]
  | call c cs rest deed stack after sync calls =>
    refine unreported (by rw [Run.report?, deed]; rfl) ?_
    exact w.call stack after sync calls
  | done rest deed stack after sync calls =>
    refine unreported (by rw [Run.report?, deed]; rfl) ?_
    refine w.still (Or.inr ⟨rest, stack⟩) ?_ sync calls
    rw [Run.pendingCalls, Run.pendingCalls, stack, after]
    rfl
  | still deed top pending sync calls =>
    refine unreported (by rw [Run.report?, deed]; rfl) ?_
    exact w.still (Or.inl top) (congrArg List.flatten pending) sync calls

end LastWords

theorem lastWords_of_run (h : Host σ) (host : σ) (ops : List Op) (n : Nat) :
    LastWords ((Run.start host ops).noted Run.overtaking? h n).getLast?
      ((Run.start host ops).noted Run.timelyRows? h n) ((Run.start host ops).runFor h n) := by
  induction n with
  | zero => exact LastWords.start host ops
  | succ n ih =>
    rw [Run.noted_succ, Run.noted_succ, Run.runFor_succ, List.getLast?_append]
    cases hs : ((Run.start host ops).runFor h n).step h with
    | some r' =>
      have overtook := ih.step hs
      generalize (Run.start host ops).runFor h n = r at overtook
      cases late : r.overtaking? with
      | none =>
        rw [late] at overtook
        exact overtook
      | some late' =>
        rw [late] at overtook
        exact overtook
    | none =>
      have ended : ((Run.start host ops).runFor h n).report? = none := by
        rw [Run.report?, Run.deed?, Run.step_none_iff.mp hs]
        rfl
      simp only [Run.overtaking?, Run.timelyRows?, ended]
      simpa using ih

/-! ### The greatest ticket -/

theorem History.of_run (h : Host σ) (host : σ) (ops : List Op) (n : Nat) :
    History ((Run.start host ops).trail h n) ((Run.start host ops).runFor h n).sync := by
  have unguarded : ∀ d ∈ (Run.start host ops).trail h n, (fun _ => True) d := fun _ _ => trivial
  refine Run.trail_induction (P := fun past r => History past r.sync) History.start ?_ n unguarded
  intro past r r' history _ hs
  rcases Run.step_deed_or_calls hs with ⟨d, deed, sync, -, -⟩ | ⟨deed, sync, -⟩
  · rw [deed, sync]
    exact .deed d r'.sync.timer history (Run.deed?_before deed).1
  · rw [deed, sync]
    exact history

/-- The listing of the greatest ticket is the last one that counted. -/
theorem History.latest_iff {past : List Deed} {s : Synchronizer} (history : History past s)
    (found : List Resource) :
    (∃ ticket, Latest past ticket found) ↔ (rowsOf (applied past)).getLast? = some found := by
  induction history with
  | start => simp [Latest, applied, rowsOf]
  | @deed d timer past s history before ih =>
    have unchanged : d.applied? = none → ((∃ ticket, Latest (d :: past) ticket found) ↔
        (rowsOf (applied (d :: past))).getLast? = some found) := by
      intro none
      simp only [latest_cons_of_none none, applied_cons_of_none none]
      exact ih
    cases d.bearing with
    | asks _ _ _ _ _ applied => exact unchanged applied
    | aside _ _ _ applied => exact unchanged applied
    | resolves ticket filters result awaited _ _ _ applied =>
      rw [applied_cons, applied, Option.toList_some, rowsOf_append]
      cases result with
      | error detail =>
        have none : rowsOf [(ticket, .error detail)] = [] := rfl
        rw [none, List.append_nil]
        simp only [latest_cons_of_error applied]
        exact ih
      | ok rows =>
        have one : rowsOf [(ticket, .ok rows)] = [rows] := rfl
        rw [before] at awaited
        have greater := (history.accounts.awaited ticket filters awaited).2.2
        rw [one, List.getLast?_concat, Option.some.injEq]
        simp only [latest_cons_of_ok applied greater]
        constructor
        · rintro ⟨newest, -, same⟩
          exact same.symm
        · intro same
          exact ⟨ticket, rfl, same.symm⟩

/-! ### At rest -/

/-- The host knows whether a listing is loading, and the rows that it was given last are those of
    the greatest ticket whose listing counted. -/
structure CoherentAtRest (past : List Deed) (r : Run σ) : Prop where
  spinner : lastSaid Call.loading? false r.calls = r.sync.isLoading
  rows : ∀ found, (rowsIn r.calls).getLast? = some found ↔ ∃ ticket, Latest past ticket found

theorem coherent_of_words {past : List Deed} {r : Run σ} {late : Option Bool}
    {timely : List (List Resource)} (w : LastWords late timely r) (history : History past r.sync)
    (rest : r.pendingCalls = []) :
    CoherentAtRest past r ↔ (r.sync.isLoading = true ∨ late ≠ some true) ∧
      (rowsOf (applied past)).getLast? = timely.getLast? := by
  obtain ⟨-, spinner, rows⟩ := w
  rw [rest, List.flatten_nil, List.append_nil] at spinner rows
  have truthful : lastSaid Call.loading? false r.calls = r.sync.isLoading ↔
      r.sync.isLoading = true ∨ late ≠ some true := by
    rw [spinner]
    rcases late with _ | late
    · simp
    · cases r.sync.isLoading <;> cases late <;> simp
  constructor
  · rintro ⟨spinner', rows'⟩
    refine ⟨truthful.mp spinner', ?_⟩
    rw [← rows]
    ext found
    rw [rows' found, history.latest_iff]
  · rintro ⟨on, same⟩
    refine ⟨truthful.mpr on, ?_⟩
    intro found
    rw [rows, ← same, history.latest_iff]

/-! ### Event loops -/

namespace Run

/-- An outcome that is about to be reported is one of a request that the host was handed. -/
def reportsHandedOut (r : Run σ) : Bool :=
  match r.deed? with
  | some ⟨_, _, _, .action (.complete ticket _)⟩ => decide (ticket ∈ ticketsIn r.calls)
  | _ => true

/-- Calls that are due and turn the spinner on are followed by the request that it is for. -/
def RequestsLast (r : Run σ) : Prop :=
  .setLoading true ∈ r.pendingCalls.flatten →
    ∃ ticket request, r.pendingCalls.flatten.getLast? = some (.requestResources ticket request)

theorem noted_report? (h : Host σ) (n : Nat) (r : Run σ) :
    r.noted (fun r => r.report?.bind (fun p => p.2.toOption)) h n =
      rowsOf (applied (r.trail h n)) := by
  induction n with
  | zero => rfl
  | succ n ih =>
    rw [noted_succ, trail_succ, ih, report?]
    cases (r.runFor h n).deed? with
    | none => simp
    | some d =>
      rw [Option.toList_some, List.singleton_append, applied_cons, rowsOf_append, Option.bind_some]
      cases d.applied? with
      | none => rfl
      | some p => simp [rowsOf, List.filterMap_cons]; cases p.2.toOption <;> rfl

end Run

theorem Action.setLoading_not_mem_apply (a : Action) (s : Synchronizer) :
    .setLoading true ∉ (a.apply s).calls := by
  cases a.effect s with
  | nothing _ h => simp [h, Synchronizer.unchanged]
  | reads query _ _ first h => simp [h, Synchronizer.hydrate_eq first]
  | types _ _ _ _ h => simp [h]
  | selects next _ _ changes h =>
    intro hmem
    simp only [h, Synchronizer.select_eq changes] at hmem
    have aside := isAside_writeCalls _ _ _ hmem
    cases aside
  | resolves ticket result filters _ _ _ h =>
    rw [h]
    rcases result with detail | _ | ⟨row, rows⟩ <;> simp [Synchronizer.outcomeCalls]
  | suggests _ _ _ h => simp [h]

theorem Run.RequestsLast.step {h : Host σ} {r r' : Run σ} (last : r.RequestsLast)
    (loop : ∀ d, r.deed? = some d → d.isFiring = true → d.duringCall = false)
    (hs : r.step h = some r') : r'.RequestsLast := by
  intro spinner
  cases Run.step_move hs with
  | act d below deed top sync stack rest calls =>
    obtain ⟨before, during⟩ := Run.deed?_before deed
    rw [Run.pending_of_act stack rest] at spinner ⊢
    cases cause : d.cause with
    | timer =>
      have idle : r.pendingCalls = [] := by
        rw [Run.pendingCalls, ← any_isCalls_eq_false_iff, ← during]
        exact loop d deed (by rw [Deed.isFiring, cause])
      have outcome : d.outcome = d.before.fire := by rw [Deed.outcome, cause, Cause.apply]
      rw [idle, Deed.sent_of_restart_none (by rw [outcome, Synchronizer.restart_fire]), outcome,
        Synchronizer.fire_eq]
      exact ⟨d.before.lastTicket + 1, d.before.filters.listRequest, by simp⟩
    | action a =>
      have older : .setLoading true ∈ r.pendingCalls.flatten := by
        rcases List.mem_append.mp spinner with new | old
        · have called := Deed.mem_of_mem_sent new
          rw [Deed.outcome, cause, Cause.apply] at called
          exact absurd called (a.setLoading_not_mem_apply _)
        · exact old
      obtain ⟨ticket, request, hlast⟩ := last older
      exact ⟨ticket, request, by rw [List.getLast?_append, hlast, Option.some_or]⟩
  | call c cs rest deed stack after sync calls =>
    have due : r.pendingCalls.flatten = c :: r'.pendingCalls.flatten := by
      rw [Run.pendingCalls, Run.pendingCalls, stack, after]
      rfl
    obtain ⟨ticket, request, hlast⟩ := last (by rw [due]; exact List.mem_cons_of_mem _ spinner)
    refine ⟨ticket, request, ?_⟩
    rw [due, ← List.singleton_append,
      List.getLast?_append_of_ne_nil _ (List.ne_nil_of_mem spinner)] at hlast
    exact hlast
  | done rest deed stack after sync calls =>
    have due : r.pendingCalls.flatten = r'.pendingCalls.flatten := by
      rw [Run.pendingCalls, Run.pendingCalls, stack, after]
      rfl
    rw [← due] at spinner ⊢
    exact last spinner
  | still deed top pending sync calls =>
    have due : r.pendingCalls.flatten = r'.pendingCalls.flatten :=
      congrArg List.flatten pending.symm
    rw [← due] at spinner ⊢
    exact last spinner

theorem Run.requestsLast_of_run (h : Host σ) (host : σ) (ops : List Op) (n : Nat)
    (loop : FiresBetweenCalls ((Run.start host ops).trail h n)) :
    ((Run.start host ops).runFor h n).RequestsLast := by
  have start : (Run.start host ops).RequestsLast := by
    intro spinner
    cases spinner
  exact Run.trail_induction (P := fun _ r => r.RequestsLast) start
    (fun _ _ _ last loop hs => last.step loop hs) n loop

/-- What a step takes in as counting is a report under the ticket that is waited for. -/
theorem Run.report?_eq_some_iff {past : List Deed} {r : Run σ}
    (waiting : ∀ ticket, (∃ filters, r.sync.outstanding = some (ticket, filters)) ↔
      Awaited past ticket) {ticket : Ticket} {result : Except String (List Resource)} :
    r.report? = some (ticket, result) ↔
      ∃ d, r.deed? = some d ∧ d.cause = .action (.complete ticket result) ∧
        Awaited past ticket := by
  rw [report?, Option.bind_eq_some_iff]
  refine exists_congr (fun d => and_congr_right (fun deed => ?_))
  rw [Deed.applied?_eq_some_iff, ← waiting, ← (deed?_before deed).1]
  exact and_congr_right Deed.hasEffect_iff_of_complete

/-- A report of a ticket that was handed out overtakes no call, if timers fire between calls. -/
theorem Ledger.not_overtaking {past : List Deed} {r : Run σ} (l : Ledger past r)
    (due : SpinnerDue r) (last : r.RequestsLast) (handed : r.reportsHandedOut = true)
    {ticket : Ticket} {result : Except String (List Resource)}
    (reported : r.report? = some (ticket, result)) :
    r.owes Call.loading? = false ∧ r.owes Call.rows? = false := by
  obtain ⟨d, deed, cause, awaited⟩ := (Run.report?_eq_some_iff l.outstanding).mp reported
  have top : r.dispatching = false := by
    obtain ⟨via, ops, rest, stack, -⟩ := Run.deed?_action deed cause
    rw [Run.dispatching, stack]
  refine ⟨?_, Run.owes_eq_false_iff.mpr (l.nonePending ticket awaited)⟩
  rw [Run.owes, List.any_eq_false]
  intro c hc said
  have spinner : .setLoading true ∈ r.pendingCalls.flatten := by
    cases c with
    | setLoading on =>
      rw [← due.onlyOn top on (List.mem_filterMap.mpr ⟨_, hc, rfl⟩)]
      exact hc
    | _ => cases said
  -- behind the spinner the request is due, so its ticket, the latest, was not handed out
  obtain ⟨latest, request, hlast⟩ := last spinner
  obtain ⟨earlier, split⟩ := List.getLast?_eq_some_iff.mp hlast
  have all := l.tickets
  have handedOut : ticket ∈ ticketsIn r.calls := by
    obtain ⟨time, during, before, made⟩ := d
    cases cause
    rw [Run.reportsHandedOut, deed] at handed
    exact of_decide_eq_true handed
  obtain ⟨k, hk⟩ : ∃ k, issued past = k + 1 :=
    Nat.exists_eq_succ_of_ne_zero (by rw [← awaited.2.1]; exact Nat.ne_of_gt awaited.1)
  rw [split, ← List.append_assoc, ticketsIn_append, hk, List.range'_1_concat] at all
  obtain ⟨front, back⟩ := List.append_inj' all rfl
  have below : ticket ∈ List.range' 1 k := by
    rw [← front, ticketsIn_append]
    exact List.mem_append_left _ handedOut
  rw [List.mem_range'_1, awaited.2.1, hk] at below
  omega

/-- **In an event loop the host knows at rest what there is to know**: timers fire between the
    calls on it and never within one, and it reports outcomes of requests that it was handed. -/
theorem coherentAtRest_of_eventLoop (h : Host σ) (host : σ) (ops : List Op) (n : Nat)
    (loop : FiresBetweenCalls ((Run.start host ops).trail h n))
    (handed : ∀ m < n, ((Run.start host ops).runFor h m).reportsHandedOut = true)
    (rest : ((Run.start host ops).runFor h n).pendingCalls = []) :
    CoherentAtRest ((Run.start host ops).trail h n) ((Run.start host ops).runFor h n) := by
  have calm : ∀ m < n, ∀ p, ((Run.start host ops).runFor h m).report? = some p →
      ((Run.start host ops).runFor h m).owes Call.loading? = false ∧
        ((Run.start host ops).runFor h m).owes Call.rows? = false := by
    intro m hm p reported
    have loop' : FiresBetweenCalls ((Run.start host ops).trail h m) := by
      intro d hd
      obtain ⟨k, hk, deed⟩ := Run.mem_trail_iff.mp hd
      exact loop d (Run.mem_trail_iff.mpr ⟨k, Nat.lt_trans hk hm, deed⟩)
    exact (Ledger.of_run h host ops m loop').not_overtaking (lastWords_of_run h host ops m).due
      (Run.requestsLast_of_run h host ops m loop') (handed m hm) reported
  refine (coherent_of_words (lastWords_of_run h host ops n) (History.of_run h host ops n) rest).mpr
    ⟨Or.inr ?_, ?_⟩
  · intro late
    obtain ⟨m, hm, overtook⟩ := List.mem_filterMap.mp (List.mem_of_getLast? late)
    obtain ⟨p, reported, owed⟩ := Option.map_eq_some_iff.mp overtook
    rw [(calm m (List.mem_range.mp hm) p reported).1] at owed
    cases owed
  · rw [← Run.noted_report?, Run.noted, Run.noted]
    refine congrArg List.getLast? (List.filterMap_congr ?_)
    intro m hm
    rw [Run.timelyRows?]
    cases reported : ((Run.start host ops).runFor h m).report? with
    | none => simp
    | some p => simp [(calm m (List.mem_range.mp hm) p reported).2]

/-! ### Calls that come too late -/

/-- **When the host has been told the truth.**  While no operation on the synchronizer is under
    way, it has been exactly if no call that turns the spinner on was overtaken by the last
    report, unless a listing is loading again, and the last listing has the rows of the last
    one that did not overtake older rows. -/
theorem coherentAtRest_iff (h : Host σ) (host : σ) (ops : List Op) (n : Nat)
    (rest : ((Run.start host ops).runFor h n).pendingCalls = []) :
    CoherentAtRest ((Run.start host ops).trail h n) ((Run.start host ops).runFor h n) ↔
      (((Run.start host ops).runFor h n).sync.isLoading = true ∨
        ((Run.start host ops).noted Run.overtaking? h n).getLast? ≠ some true) ∧
      (rowsOf (applied ((Run.start host ops).trail h n))).getLast? =
        ((Run.start host ops).noted Run.timelyRows? h n).getLast? :=
  coherent_of_words (lastWords_of_run h host ops n) (History.of_run h host ops n) rest

/-- Select, let the quiet period end, and report the outcome of the request that this led to. -/
def rush : List Op :=
  [.act none (.toggleTag "x"), .advance selectionDelay, .act none (.complete 2 (.ok []))]

def rushesAtQuery : List Reaction := [{ on := .query, ops := rush }]

/-- The host rushes when it is told that nothing is loading any more. -/
def rushesAtReport : List Reaction :=
  [{ on := .loading, ops := [] }, { on := .loading, ops := rush }]

def settledEdit : List Op :=
  [.act none (.hydrate ""), .act none (.setSearchText "t"), .advance searchTextDelay]

def settledSelection : List Op := [.act none (.toggleTag "y"), .advance selectionDelay]

def reportedRow : List Op :=
  [.act none (.hydrate ""), .advance selectionDelay,
    .act none (.complete 1 (.ok [⟨"a", "a", "", "", "MODEL", [], [], .everyone, .none⟩]))]

/-- A spinner that was set too late is right again when the next listing is asked for. -/
theorem coherentAtRest_iff_rushed :
    ((Run.start rushesAtQuery (settledEdit ++ settledSelection)).runFor
        .scripted 47).pendingCalls = [] ∧
      ((Run.start rushesAtQuery (settledEdit ++ settledSelection)).noted
        Run.overtaking? .scripted 47).getLast? = some true ∧
      CoherentAtRest
        ((Run.start rushesAtQuery (settledEdit ++ settledSelection)).trail .scripted 47)
        ((Run.start rushesAtQuery (settledEdit ++ settledSelection)).runFor .scripted 47) :=
  ⟨by decide +kernel, by decide +kernel,
    (coherentAtRest_iff _ _ _ _ (by decide +kernel)).mpr
      ⟨Or.inl (by decide +kernel), by decide +kernel⟩⟩

/-- A host that rushes when it is handed a query has been told in the end that a listing is
    loading when none is, and one that rushes when it is told of an outcome has older rows. -/
theorem not_coherentAtRest_rushed :
    ((∀ m < 35,
        ((Run.start rushesAtQuery settledEdit).runFor .scripted m).reportsHandedOut = true) ∧
      ((Run.start rushesAtQuery settledEdit).runFor .scripted 35).stack = [] ∧
      ¬ CoherentAtRest ((Run.start rushesAtQuery settledEdit).trail .scripted 35)
        ((Run.start rushesAtQuery settledEdit).runFor .scripted 35)) ∧
    ((∀ m < 39,
        ((Run.start rushesAtReport reportedRow).runFor .scripted m).reportsHandedOut = true) ∧
      ((Run.start rushesAtReport reportedRow).runFor .scripted 39).stack = [] ∧
      ¬ CoherentAtRest ((Run.start rushesAtReport reportedRow).trail .scripted 39)
        ((Run.start rushesAtReport reportedRow).runFor .scripted 39)) := by
  refine ⟨⟨by decide +kernel, by decide +kernel, ?_⟩, ⟨by decide +kernel, by decide +kernel, ?_⟩⟩
  · intro coherent
    have told : lastSaid Call.loading? false
        ((Run.start rushesAtQuery settledEdit).runFor .scripted 35).calls ≠
          ((Run.start rushesAtQuery settledEdit).runFor .scripted 35).sync.isLoading := by
      decide +kernel
    exact told coherent.spinner
  · intro coherent
    have history := History.of_run .scripted rushesAtReport reportedRow 39
    have given :
        (rowsIn ((Run.start rushesAtReport reportedRow).runFor .scripted 39).calls).getLast? ≠
          (rowsOf (applied
            ((Run.start rushesAtReport reportedRow).trail .scripted 39))).getLast? := by
      decide +kernel
    refine given (Option.ext ?_)
    intro found
    rw [coherent.rows found, history.latest_iff]

end ResourceCatalog.Sync
