/-
  ResourceCatalog/Proofs/Sync/Debounce.lean
  =========================================
  **When the listing is asked for, and for which filters.**

  With a host that only records, edited from outside and with time advanced from
  outside, a listing is asked for when the filters have been left alone for the
  delay of the last edit, 400 ms for the search text and 200 ms for anything
  else, and at no other time; and it is asked for with the filters right after
  that edit.

  The trail of a run is read once more as a debounce: the edit that is still open,
  and the edits that were answered by the end of their quiet period.  The timer of
  the synchronizer waits exactly while an edit is open, and is due when that is.
-/
import ResourceCatalog.Proofs.Sync.Recording

namespace ResourceCatalog.Sync

open Timer (VirtualClock)

/-! ### Runs from outside -/

/-- The operations of the page: those on the synchronizer, and the passing of time. -/
def Op.isInput : Op → Bool
  | act _ _ => true
  | advance _ => true
  | _ => false

def Entry.fetch? (e : Entry) : Option (Nat × ListRequest) :=
  (e.event.call?.bind Call.request?).map (fun request => (e.time, request))

namespace Run

variable {σ : Type}

def fetches (r : Run σ) : List (Nat × ListRequest) := (r.journal.filterMap Entry.fetch?).reverse

def fetchesAt (t : Nat) (r : Run σ) : List ListRequest :=
  (r.fetches.filter (fun p => p.1 = t)).map Prod.snd

/-- The outside has control: nothing but its own operations is under way. -/
def atRest (r : Run σ) : Bool :=
  match r.stack with
  | [] => true
  | [.script _] => true
  | _ => false

end Run

/-! ### A trail as a debounce -/

/-- The edit was made in the trail, and no other that counts was made before it was due. -/
def Undisturbed (past : List Deed) (d : Deed) : Prop :=
  ∃ later earlier, past = later ++ d :: earlier ∧ d.isEffective = true ∧
    ∀ e ∈ later, e.isEffective = true → d.due ≤ e.time

/-- The last edit, unless its quiet period is over. -/
def openEdit? : List Deed → Option Deed
  | [] => none
  | d :: past => if d.isEffective then some d else if d.isFiring then none else openEdit? past

/-- The edits whose quiet periods came to their ends, latest first. -/
def answered : List Deed → List Deed
  | [] => []
  | d :: past => if d.isFiring then (openEdit? past).toList ++ answered past else answered past

theorem undisturbed_cons {e d : Deed} {past : List Deed} :
    Undisturbed (e :: past) d ↔
      (e.isEffective = true ∧ d = e) ∨
        (Undisturbed past d ∧ (e.isEffective = true → d.due ≤ e.time)) := by
  constructor
  · rintro ⟨later, earlier, split, effective, alone⟩
    cases later with
    | nil =>
      cases split
      exact Or.inl ⟨effective, rfl⟩
    | cons c later =>
      cases split
      refine Or.inr ⟨⟨later, earlier, rfl, effective, ?_⟩, alone _ List.mem_cons_self⟩
      intro b hb
      exact alone b (List.mem_cons_of_mem _ hb)
  · rintro (⟨effective, rfl⟩ | ⟨⟨later, earlier, rfl, effective, alone⟩, here⟩)
    · exact ⟨[], past, rfl, effective, fun b hb => absurd hb List.not_mem_nil⟩
    · refine ⟨e :: later, earlier, rfl, effective, ?_⟩
      intro b hb
      rcases List.mem_cons.mp hb with rfl | hb
      · exact here
      · exact alone b hb

theorem not_isEffective_of_isFiring {d : Deed} (h : d.isFiring = true) :
    d.isEffective = false := by
  rw [Deed.isFiring] at h
  rw [Deed.isEffective]
  split at h
  · rename_i cause
    rw [cause]
  · cases h

/-- What the trail promises at a time: the edit that is open is due later, those that were
    answered were due before, one after the other, and no others are undisturbed. -/
structure Debounced (past : List Deed) (now : Nat) : Prop where
  ahead : ∀ d, openEdit? past = some d → now < d.due
  early : ∀ d ∈ answered past, d.due ≤ now
  apart : (answered past).Pairwise (fun later earlier => earlier.due < later.due)
  undisturbed : ∀ d, Undisturbed past d ↔ d ∈ answered past ∨ openEdit? past = some d

namespace Debounced

variable {past : List Deed} {now : Nat} {d : Deed}

theorem start : Debounced [] 0 where
  ahead := by
    intro d hd
    cases hd
  early := fun d hd => absurd hd List.not_mem_nil
  apart := List.Pairwise.nil
  undisturbed := by
    intro d
    constructor
    · rintro ⟨later, earlier, split, -⟩
      cases later <;> cases split
    · rintro (hd | hd) <;> cases hd

/-- Time passes, but not past the end of the quiet period. -/
theorem wait (b : Debounced past now) {target : Nat} (passes : now ≤ target)
    (short : ∀ d, openEdit? past = some d → target < d.due) : Debounced past target :=
  ⟨short, fun d hd => Nat.le_trans (b.early d hd) passes, b.apart, b.undisturbed⟩

/-- An edit that counts is open from then on, and the one before it is not any more. -/
theorem edit (b : Debounced past now) (effective : d.isEffective = true) (time : d.time = now)
    (due : now < d.due) : Debounced (d :: past) now := by
  have quiet : d.isFiring = false := by
    refine Bool.eq_false_iff.mpr (fun firing => ?_)
    rw [not_isEffective_of_isFiring firing] at effective
    cases effective
  have hopen : openEdit? (d :: past) = some d := by rw [openEdit?, if_pos effective]
  have hanswered : answered (d :: past) = answered past := by simp [answered, quiet]
  refine ⟨?_, by rw [hanswered]; exact b.early, by rw [hanswered]; exact b.apart, ?_⟩
  · intro e he
    rw [hopen] at he
    cases he
    exact due
  · intro e
    rw [undisturbed_cons, hopen, hanswered, b.undisturbed, time]
    constructor
    · rintro (⟨-, rfl⟩ | ⟨hanswer | hold, before⟩)
      · exact Or.inr rfl
      · exact Or.inl hanswer
      · -- the edit that was open is disturbed by the new one: it was not due yet
        exact absurd (b.ahead e hold) (Nat.not_lt.mpr (before effective))
    · rintro (hanswer | hnew)
      · exact Or.inr ⟨Or.inl hanswer, fun _ => b.early e hanswer⟩
      · cases hnew
        exact Or.inl ⟨effective, rfl⟩

theorem pass (b : Debounced past now) (ineffective : d.isEffective = false)
    (quiet : d.isFiring = false) :
    openEdit? (d :: past) = openEdit? past ∧ answered (d :: past) = answered past ∧
      Debounced (d :: past) now := by
  have hopen : openEdit? (d :: past) = openEdit? past := by simp [openEdit?, ineffective, quiet]
  have hanswered : answered (d :: past) = answered past := by simp [answered, quiet]
  refine ⟨hopen, hanswered, ?_⟩
  refine ⟨by rw [hopen]; exact b.ahead, by rw [hanswered]; exact b.early,
    by rw [hanswered]; exact b.apart, ?_⟩
  intro e
  rw [undisturbed_cons, hopen, hanswered, b.undisturbed]
  simp [ineffective]

/-- The end of a quiet period answers the open edit when it is due. -/
theorem fire (b : Debounced past now) {e : Deed} (firing : d.isFiring = true)
    (hopen : openEdit? past = some e) :
    openEdit? (d :: past) = none ∧ answered (d :: past) = e :: answered past ∧
      Debounced (d :: past) e.due := by
  have ineffective := not_isEffective_of_isFiring firing
  have hnone : openEdit? (d :: past) = none := by simp [openEdit?, ineffective, firing]
  have hanswered : answered (d :: past) = e :: answered past := by simp [answered, firing, hopen]
  have before : ∀ a ∈ answered past, a.due < e.due := by
    intro a ha
    exact Nat.lt_of_le_of_lt (b.early a ha) (b.ahead e hopen)
  refine ⟨hnone, hanswered, ?_, ?_, ?_, ?_⟩
  · intro a ha
    rw [hnone] at ha
    cases ha
  · intro a ha
    rw [hanswered] at ha
    rcases List.mem_cons.mp ha with rfl | ha
    · exact Nat.le_refl _
    · exact Nat.le_of_lt (before a ha)
  · rw [hanswered, List.pairwise_cons]
    exact ⟨before, b.apart⟩
  · intro a
    rw [undisturbed_cons, hnone, hanswered, b.undisturbed, hopen, ineffective]
    constructor
    · rintro (⟨counts, -⟩ | ⟨ha | ha, -⟩)
      · cases counts
      · exact Or.inl (List.mem_cons_of_mem e ha)
      · cases ha
        exact Or.inl List.mem_cons_self
    · rintro (ha | ha)
      · refine Or.inr ⟨?_, fun counts => by cases counts⟩
        rcases List.mem_cons.mp ha with rfl | ha
        · exact Or.inr rfl
        · exact Or.inl ha
      · cases ha

end Debounced

/-! ### The run and its debounce -/

/-- The stack below all calls, in a run from outside: nothing, the operations that are left,
    or an advance under way. -/
inductive FromOutside (now : Nat) : List Frame → Prop where
  | ended : FromOutside now []
  | script (ops : List Op) (inputs : ∀ op ∈ ops, op.isInput = true) :
    FromOutside now [.script ops]
  | advancing (target : Nat) (ops : List Op) (inputs : ∀ op ∈ ops, op.isInput = true)
    (ahead : now ≤ target) : FromOutside now [.advancing target, .script ops]

/-- The answer to an edit: when it was due, the listing for the filters right after it. -/
def Deed.answer (d : Deed) : Nat × ListRequest := (d.due, d.after.filters.listRequest)

/-- The requests still to be made, with the time at which that will be. -/
def Run.dueFetches {σ : Type} (r : Run σ) : List (Nat × ListRequest) :=
  (requestsIn r.pendingCalls.flatten).map (fun request => (r.clock.now, request))

theorem fetches_made (now : Nat) (calls : List Call) :
    (calls.map (fun c => (⟨now, .called c⟩ : Entry))).filterMap Entry.fetch?
      = (requestsIn calls).map (fun request => (now, request)) := by
  rw [requestsIn, List.filterMap_map, List.map_filterMap]
  rfl

/-- The run agrees with its trail read as a debounce.  No timer waits when no edit is open.  When
    one is, the timer of the synchronizer, and no other, waits for it, and its filters are still
    the ones there are. -/
structure Timely {σ : Type} (past : List Deed) (r : Run σ) : Prop where
  debounced : Debounced past r.clock.now
  stack : Settling (FromOutside r.clock.now) r.stack
  handles : r.handles = [true]
  idle : openEdit? past = none → r.clock.waiting = []
  waiting : ∀ d, openEdit? past = some d →
    ∃ x, r.clock.waiting = [⟨x, d.due, .quiet⟩] ∧ r.sync.timer = some x ∧
      r.sync.filters = d.after.filters
  fetches : r.fetches ++ r.dueFetches = ((answered past).map Deed.answer).reverse

namespace Timely

variable {σ : Type} {past : List Deed} {r r' : Run σ}

theorem start (host : σ) {ops : List Op} (inputs : ∀ op ∈ ops, op.isInput = true) :
    Timely [] (Run.start host ops) where
  debounced := Debounced.start
  stack := .between (.script ops inputs)
  handles := rfl
  idle := fun _ => rfl
  waiting := by
    intro d hd
    cases hd
  fetches := rfl

/-- Calls make no difference: the requests that were due are made at the same time. -/
theorem call (t : Timely past r) (stack : Settling (FromOutside r.clock.now) r'.stack)
    (calling : Calling r r') : Timely past r' := by
  obtain ⟨calls, journal, pending⟩ := calling.made
  refine ⟨by rw [calling.clock]; exact t.debounced, by rw [calling.clock]; exact stack,
    by rw [calling.handles, t.handles], by rw [calling.clock]; exact t.idle,
    by rw [calling.clock, calling.sync]; exact t.waiting, ?_⟩
  rw [← t.fetches, Run.fetches, Run.fetches, Run.dueFetches, Run.dueFetches, calling.clock, pending,
    journal, List.filterMap_append, List.filterMap_reverse, fetches_made, requestsIn_append,
    List.map_append, List.reverse_append, List.reverse_reverse, List.append_assoc]

/-- A quiet period that is started anew leaves no other timer behind. -/
theorem released_eq_nil (t : Timely past r) :
    Run.released r.sync.timer r.clock.waiting = [] := by
  cases hopen : openEdit? past with
  | none =>
    rw [t.idle hopen]
    cases r.sync.timer <;> rfl
  | some d =>
    obtain ⟨x, waiting, timer, -⟩ := t.waiting d hopen
    rw [waiting, timer]
    simp [Run.released, Timer.dequeue]

theorem fetches_eq (t : Timely past r) (idle : r.pendingCalls = []) :
    r.fetches = ((answered past).map Deed.answer).reverse := by
  rw [← t.fetches, Run.dueFetches, idle]
  exact (List.append_nil _).symm

/-- An edit that counts starts the timer anew. -/
theorem edit {h : Host σ} (t : Timely past r) {via : Option Nat} {a : Action} {ops : List Op}
    (hstack : r.stack = [.script (.act via a :: ops)])
    (inputs : ∀ op ∈ ops, op.isInput = true) (hvia : r.reaches via = true)
    (effective : a.isEffective r.sync = true) {d : Deed}
    (hd : d = ⟨r.clock.now, false, r.sync, .action a⟩) (inTime : d.inTime = true)
    (hs : r.step h = some r') : Timely (d :: past) r' := by
  have counts : d.isEffective = true := by rw [hd]; exact effective
  have hopen : openEdit? (d :: past) = some d := by rw [openEdit?, if_pos counts]
  have hanswered : answered (d :: past) = answered past := by
    subst hd
    rfl
  have hdue : d.due = r.clock.now + a.settleDelay := by rw [hd, Deed.due]
  have late : r.clock.now < d.due := by
    rw [hdue]
    exact Nat.lt_add_of_pos_right a.settleDelay_pos
  have restart : (a.apply r.sync).restart = some a.settleDelay := by
    rw [Action.restart_apply, if_pos effective]
  have fits : r.clock.now + a.settleDelay ≤ Timer.endOfTime := by
    rw [hd, Deed.inTime, Deed.outcome, Cause.apply, Transition.inTime, restart] at inTime
    exact of_decide_eq_true inTime
  have hafter : d.after = (a.apply r.sync).after := by rw [hd, Deed.after, Deed.outcome, Cause.apply]
  obtain ⟨sameTimer, noFetch⟩ := a.apply_noFetch r.sync
  have debounced := t.debounced.edit counts (by rw [hd]) late
  have fetches := t.fetches_eq (by rw [Run.pendingCalls, hstack]; rfl)
  rw [Run.step_action h hstack hvia, Run.carryOut_restart restart, if_pos fits, sameTimer,
    t.released_eq_nil] at hs
  cases hs
  refine ⟨debounced, .calling _ (.script ops inputs), t.handles, ?_, ?_, ?_⟩
  · intro closed
    rw [hopen] at closed
    cases closed
  · intro e he
    rw [hopen] at he
    cases he
    refine ⟨r.clock.issued + 1, ?_, rfl, by rw [hafter]⟩
    rw [hdue]
    rfl
  · rw [hanswered, ← fetches, Run.dueFetches, Run.pendingCalls]
    simp [noFetch, Run.fetches]

/-- What neither edits nor ends a quiet period, and makes no request, changes nothing. -/
theorem keep (t : Timely past r) {past' : List Deed}
    (hopen : openEdit? past' = openEdit? past) (hanswered : answered past' = answered past)
    (debounced : Debounced past' r.clock.now) (clock : r'.clock = r.clock)
    (timer : r'.sync.timer = r.sync.timer) (filters : r'.sync.filters = r.sync.filters)
    (handles : r'.handles = r.handles) (fetches : r'.fetches = r.fetches)
    (due : r'.dueFetches = r.dueFetches)
    (stack : Settling (FromOutside r.clock.now) r'.stack) : Timely past' r' := by
  refine ⟨by rw [clock]; exact debounced, by rw [clock]; exact stack, by rw [handles, t.handles],
    ?_, ?_, by rw [fetches, due, hanswered]; exact t.fetches⟩
  · rw [hopen, clock]
    exact t.idle
  · rw [hopen, clock, timer, filters]
    exact t.waiting

/-- Other operations on the synchronizer leave its filters and its timer alone. -/
theorem pass {h : Host σ} (t : Timely past r) {via : Option Nat} {a : Action} {ops : List Op}
    (hstack : r.stack = [.script (.act via a :: ops)])
    (inputs : ∀ op ∈ ops, op.isInput = true) (hvia : r.reaches via = true)
    (ineffective : a.isEffective r.sync = false) {d : Deed}
    (hd : d = ⟨r.clock.now, false, r.sync, .action a⟩)
    (hs : r.step h = some r') : Timely (d :: past) r' := by
  obtain ⟨hopen, hanswered, debounced⟩ := t.debounced.pass (d := d) (by rw [hd]; exact ineffective)
    (by rw [hd]; rfl)
  obtain ⟨⟨outstanding, after⟩, restart, -⟩ := Action.apply_of_not_effective ineffective
  obtain ⟨-, noFetch⟩ := a.apply_noFetch r.sync
  rw [Run.step_action h hstack hvia, Run.carryOut_of_restart_none restart, after] at hs
  cases hs
  refine t.keep hopen hanswered debounced rfl rfl rfl rfl rfl ?_ (.calling _ (.script ops inputs))
  rw [Run.dueFetches, Run.dueFetches, Run.pendingCalls, Run.pendingCalls, hstack]
  simp [noFetch]

/-- The timer fires when the open edit is due, and the listing is asked for. -/
theorem fire {h : Host σ} (t : Timely past r) {target : Nat} {ops : List Op}
    (hstack : r.stack = [.advancing target, .script ops])
    (inputs : ∀ op ∈ ops, op.isInput = true) {e : Deed} (hopen : openEdit? past = some e)
    (due : e.due ≤ target) (hs : r.step h = some r') :
    ∃ d, r.deed? = some d ∧ Timely (d :: past) r' := by
  obtain ⟨x, waiting, timer, filters⟩ := t.waiting e hopen
  have alive : r.alive = true := by rw [Run.alive, t.handles]; rfl
  have hpop : r.clock.popDue target =
      some (⟨x, e.due, .quiet⟩, { r.clock with now := e.due, waiting := [] }) := by
    simp [VirtualClock.popDue, waiting, Timer.firstDue?, due]
  have deed : r.deed? = some ⟨e.due, r.stack.any Frame.isCalls, r.sync, .timer⟩ := by
    simp [Run.deed?, hstack, hpop, alive]
  refine ⟨_, deed, ?_⟩
  obtain ⟨hnone, hanswered, debounced⟩ := t.debounced.fire
    (d := ⟨e.due, r.stack.any Frame.isCalls, r.sync, .timer⟩) rfl hopen
  have fetches := t.fetches_eq (by rw [Run.pendingCalls, hstack]; rfl)
  have requests := r.sync.requestsIn_fire
  rw [Run.step_timer h hstack hpop alive] at hs
  obtain rfl := Option.some.inj hs
  refine ⟨debounced, ?_, t.handles, fun _ => rfl, ?_, ?_⟩
  · rw [hstack]
    exact .calling _ (.advancing target ops inputs due)
  · intro d hd
    rw [hnone] at hd
    cases hd
  · rw [hanswered, List.map_cons, List.reverse_cons, ← fetches, Deed.answer, ← filters,
      Run.dueFetches, Run.pendingCalls, hstack]
    simp [requests, Run.fetches]

theorem arrive {h : Host σ} (t : Timely past r) {target : Nat} {ops : List Op}
    (hstack : r.stack = [.advancing target, .script ops])
    (inputs : ∀ op ∈ ops, op.isInput = true) (ahead : r.clock.now ≤ target)
    (later : ∀ d, openEdit? past = some d → target < d.due) (hs : r.step h = some r') :
    r.deed? = none ∧ Timely past r' := by
  have hpop : r.clock.popDue target = none := by
    cases hopen : openEdit? past with
    | none => simp [VirtualClock.popDue, t.idle hopen, Timer.firstDue?]
    | some e =>
      obtain ⟨x, waiting, -⟩ := t.waiting e hopen
      have less := Nat.not_le.mpr (later e hopen)
      simp [VirtualClock.popDue, waiting, Timer.firstDue?, less]
  have fetches := t.fetches_eq (by rw [Run.pendingCalls, hstack]; rfl)
  refine ⟨by simp [Run.deed?, hstack, hpop], ?_⟩
  simp only [Run.step, hstack, hpop] at hs
  cases hs
  refine ⟨t.debounced.wait ahead later, .between (.script ops inputs), t.handles, t.idle, t.waiting,
    ?_⟩
  rw [← fetches]
  exact List.append_nil _

/-- An operation from outside that reaches nothing, or starts an advance, changes nothing yet. -/
theorem outside {h : Host σ} (t : Timely past r) {op : Op} {ops : List Op}
    (hstack : r.stack = [.script (op :: ops)]) (inputs : ∀ o ∈ op :: ops, o.isInput = true)
    (unreached : ∀ via a, op = .act via a → r.reaches via = false)
    (hs : r.step h = some r') : r.deed? = none ∧ Timely past r' := by
  have rest : ∀ o ∈ ops, o.isInput = true := fun o ho => inputs o (List.mem_cons_of_mem op ho)
  have input := inputs op List.mem_cons_self
  have script : Settling (FromOutside r.clock.now) [.script ops] := .between (.script ops rest)
  have noneDue : r.dueFetches = [] := by
    rw [Run.dueFetches, Run.pendingCalls, hstack]
    rfl
  cases op with
  | act via a =>
    have hvia := unreached via a rfl
    have reached : ({ r with stack := [.script ops] } : Run σ).reaches via = false := by
      rw [← hvia]
      cases via <;> rfl
    refine ⟨by simp [Run.deed?, hstack, hvia], ?_⟩
    simp only [Run.step, hstack, Run.perform, reached] at hs
    cases hs
    exact t.keep rfl rfl t.debounced rfl rfl rfl rfl rfl noneDue.symm script
  | advance duration =>
    refine ⟨by simp [Run.deed?, hstack], ?_⟩
    by_cases fits : r.clock.now + duration ≤ Timer.endOfTime
    · simp only [Run.step, hstack, Run.perform, VirtualClock.horizon?, Timer.inTime?, if_pos fits]
        at hs
      cases hs
      exact t.keep rfl rfl t.debounced rfl rfl rfl rfl rfl noneDue.symm
        (.between (.advancing _ ops rest (Nat.le_add_right _ _)))
    · simp only [Run.step, hstack, Run.perform, VirtualClock.horizon?, Timer.inTime?, if_neg fits]
        at hs
      cases hs
      exact t.keep rfl rfl t.debounced rfl rfl rfl rfl rfl noneDue.symm script
  | clone via => cases input
  | drop handle => cases input
  | cancel via timer => cases input
  | later delay run => cases input
  | refused cause => cases input

/-- **The debounce is kept at every step**, as long as no quiet period would end past the end
    of time. -/
theorem step {h : Host σ} (records : h.Records) (t : Timely past r)
    (inTime : ∀ d, r.deed? = some d → d.inTime = true) (hs : r.step h = some r') :
    Timely (r.deed?.toList ++ past) r' := by
  rcases t.stack.step records hs with floor | ⟨stack, calling⟩
  · -- no call is under way, so it is the outside or an advance that goes on
    generalize hstack : r.stack = stack at floor
    cases floor with
    | ended =>
      rw [Run.step, hstack] at hs
      cases hs
    | script ops inputs =>
      cases ops with
      | nil =>
        have noneDue : r.dueFetches = [] := by
          rw [Run.dueFetches, Run.pendingCalls, hstack]
          rfl
        have deed : r.deed? = none := by simp [Run.deed?, hstack]
        rw [Run.step, hstack] at hs
        cases hs
        rw [deed]
        exact t.keep rfl rfl t.debounced rfl rfl rfl rfl rfl noneDue.symm (.between .ended)
      | cons op ops =>
        by_cases reached : ∃ via a, op = .act via a ∧ r.reaches via = true
        · obtain ⟨via, a, rfl, hvia⟩ := reached
          have rest : ∀ o ∈ ops, o.isInput = true :=
            fun o ho => inputs o (List.mem_cons_of_mem _ ho)
          have deed : r.deed? = some ⟨r.clock.now, false, r.sync, .action a⟩ := by
            simp [Run.deed?, hstack, hvia, Frame.isCalls]
          rw [deed]
          by_cases effective : a.isEffective r.sync = true
          · exact t.edit hstack rest hvia effective rfl (inTime _ deed) hs
          · exact t.pass hstack rest hvia (Bool.eq_false_iff.mpr effective) rfl hs
        · have unreached : ∀ via a, op = .act via a → r.reaches via = false := by
            intro via a hop
            exact Bool.eq_false_iff.mpr (fun hvia => reached ⟨via, a, hop, hvia⟩)
          obtain ⟨deed, timely⟩ := t.outside hstack inputs unreached hs
          rw [deed]
          exact timely
    | advancing target ops inputs ahead =>
      by_cases due : ∃ e, openEdit? past = some e ∧ e.due ≤ target
      · obtain ⟨e, hopen, due⟩ := due
        obtain ⟨d, deed, timely⟩ := t.fire hstack inputs hopen due hs
        rw [deed]
        exact timely
      · have later : ∀ d, openEdit? past = some d → target < d.due := by
          intro d hopen
          exact Nat.lt_of_not_le (fun reached => due ⟨d, hopen, reached⟩)
        obtain ⟨deed, timely⟩ := t.arrive hstack inputs ahead later hs
        rw [deed]
        exact timely
  · rw [calling.deed]
    exact t.call stack calling

theorem of_run {h : Host σ} (records : h.Records) (host : σ) {ops : List Op}
    (inputs : ∀ op ∈ ops, op.isInput = true) (n : Nat)
    (inTime : ∀ d ∈ (Run.start host ops).trail h n, d.inTime = true) :
    Timely ((Run.start host ops).trail h n) ((Run.start host ops).runFor h n) :=
  Run.trail_induction (start host inputs) (fun _ _ _ t inTime hs => t.step records inTime hs) n
    inTime

end Timely

/-! ### Exact debounce -/

/-- When a run has asked for the listing, and for which filters.  There is a request at a time the
    clock has reached exactly when an edit that counts was due then and no other was made before
    that.  It is the only one then, and is for the filters right after that edit. -/
structure ExactDebounce {σ : Type} (past : List Deed) (r : Run σ) : Prop where
  fetch_iff : ∀ t, r.fetchesAt t ≠ [] ↔ t ≤ r.clock.now ∧ ∃ d, Undisturbed past d ∧ d.due = t
  once : ∀ d, Undisturbed past d → d.due ≤ r.clock.now →
    r.fetchesAt d.due = [d.after.filters.listRequest]

theorem Timely.mem_answered {σ : Type} {past : List Deed} {r : Run σ} (t : Timely past r)
    {d : Deed} : d ∈ answered past ↔ Undisturbed past d ∧ d.due ≤ r.clock.now := by
  rw [t.debounced.undisturbed]
  constructor
  · exact fun hd => ⟨Or.inl hd, t.debounced.early d hd⟩
  · rintro ⟨hd | hopen, reached⟩
    · exact hd
    · exact absurd (t.debounced.ahead d hopen) (Nat.not_lt.mpr reached)

/-- Among edits with different times of being due, one is picked out by its own. -/
theorem filter_due_eq {edits : List Deed} {d : Deed}
    (apart : edits.Pairwise (fun later earlier => earlier.due < later.due)) (hd : d ∈ edits) :
    edits.filter (fun e => e.due = d.due) = [d] := by
  induction apart with
  | nil => cases hd
  | cons before apart ih =>
    rename_i latest edits
    rcases List.mem_cons.mp hd with rfl | hd
    · rw [List.filter_cons_of_pos (by simp), List.filter_eq_nil_iff.mpr]
      intro e he
      have less := before e he
      simp [Nat.ne_of_lt less]
    · have less := before d hd
      rw [List.filter_cons_of_neg (by simp [Nat.ne_of_gt less])]
      exact ih hd

/-- **Exact debounce.**  A run from outside comes to its end, and at every moment at which
    the outside has control, its listing requests are the ones that its edits call for. -/
theorem exact_debounce {σ : Type} (h : Host σ) (records : h.Records) (host : σ) (ops : List Op)
    (inputs : ∀ op ∈ ops, op.isInput = true) :
    (∃ n, ((Run.start host ops).runFor h n).stack = []) ∧
      ∀ n, (∀ d ∈ (Run.start host ops).trail h n, d.inTime = true) →
        ((Run.start host ops).runFor h n).atRest = true →
        ExactDebounce ((Run.start host ops).trail h n) ((Run.start host ops).runFor h n) := by
  refine ⟨⟨_, Run.stack_runFor records.bounded (Nat.le_refl _)⟩, ?_⟩
  intro n inTime rest
  have t := Timely.of_run records host inputs n inTime
  generalize (Run.start host ops).trail h n = past at t
  generalize (Run.start host ops).runFor h n = r at t rest
  have idle : r.pendingCalls = [] := by
    rw [Run.atRest] at rest
    rw [Run.pendingCalls]
    split at rest <;> simp_all
  have fetchesAt : ∀ time, r.fetchesAt time =
      ((answered past).filter (fun d => d.due = time)).reverse.map
        (fun d => d.after.filters.listRequest) := by
    intro time
    rw [Run.fetchesAt, t.fetches_eq idle, List.filter_reverse, List.filter_map, ← List.map_reverse,
      List.map_map]
    rfl
  refine ⟨?_, ?_⟩
  · intro time
    constructor
    · intro asked
      obtain ⟨d, hd⟩ := List.exists_mem_of_ne_nil _
        (fun none => asked (by rw [fetchesAt, none]; rfl) :
          (answered past).filter (fun d => d.due = time) ≠ [])
      obtain ⟨hd, due⟩ := List.mem_filter.mp hd
      obtain ⟨undisturbed, reached⟩ := t.mem_answered.mp hd
      have due := of_decide_eq_true due
      exact ⟨due ▸ reached, d, undisturbed, due⟩
    · rintro ⟨reached, d, undisturbed, rfl⟩
      rw [fetchesAt, filter_due_eq t.debounced.apart (t.mem_answered.mpr ⟨undisturbed, reached⟩)]
      exact List.cons_ne_nil _ _
  · intro d undisturbed reached
    rw [fetchesAt, filter_due_eq t.debounced.apart (t.mem_answered.mpr ⟨undisturbed, reached⟩)]
    rfl

/-- A selection after 200 ms pulls the end of a quiet period forward, a text edit after
    550 ms pushes it back. -/
def interleavedEdits : List Op :=
  [.act none (.hydrate "?tags=a"), .advance (Timer.milliseconds 100),
    .act none (.setSearchText "m"), .advance (Timer.milliseconds 100),
    .act none (.toggleTag "b"), .advance (Timer.milliseconds 250),
    .act none (.toggleTag "a"), .advance (Timer.milliseconds 100),
    .act none (.setSearchText "mo"), .advance (Timer.milliseconds 1000)]

theorem exact_debounce_interleaved :
    Host.silent.Records ∧ (∀ op ∈ interleavedEdits, op.isInput = true) ∧
      (∀ d ∈ (Run.start () interleavedEdits).trail .silent 41, d.inTime = true) ∧
      ((Run.start () interleavedEdits).runFor .silent 41).atRest = true ∧
      ((Run.start () interleavedEdits).runFor .silent 41).fetches.map Prod.fst
        = [Timer.milliseconds 400, Timer.milliseconds 950] ∧
      ExactDebounce ((Run.start () interleavedEdits).trail .silent 41)
        ((Run.start () interleavedEdits).runFor .silent 41) :=
  ⟨Host.silent_records, by decide, by decide +kernel, by decide +kernel, by decide +kernel,
    (exact_debounce .silent Host.silent_records () interleavedEdits (by decide)).2 41
      (by decide +kernel) (by decide +kernel)⟩

end ResourceCatalog.Sync
