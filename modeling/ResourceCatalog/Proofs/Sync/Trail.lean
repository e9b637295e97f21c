/-
  ResourceCatalog/Proofs/Sync/Trail.lean
  ======================================
  **What was done to a synchronizer in the course of a run.**

  The journal of a run holds the calls on the host, but not what led to them.
  The trail of a run does: every operation that reached the synchronizer and
  every end of its quiet period, each with the time on the clock and the
  synchronizer before it.  What runs promise is said of journal and trail.

  `step_move` says once what a step can do to the synchronizer, to the calls
  under way and to the calls made, whatever the host does.  `trail_induction`
  leads from one step to every run, of whatever length.
-/
import ResourceCatalog.Proofs.Sync.Transitions
import ResourceCatalog.Sync.Run

namespace ResourceCatalog.Sync

open Timer (VirtualClock)

/-! ### Deeds -/

/-- What makes a synchronizer change: an operation, or the end of its quiet period. -/
inductive Cause where
  | action (action : Action)
  | timer
deriving Repr

def Cause.apply : Cause → Synchronizer → Transition
  | action a, s => a.apply s
  | timer, s => s.fire

/-- The quiet period that is started anew, if any, ends within the time there is. -/
def Transition.inTime (now : Nat) (t : Transition) : Bool :=
  match t.restart with
  | some delay => now + delay ≤ Timer.endOfTime
  | none => true

/-- Something that a synchronizer was made to do, at some time and perhaps while a call on the host
    was under way. -/
structure Deed where
  time : Nat
  duringCall : Bool
  before : Synchronizer
  cause : Cause
deriving Repr

namespace Deed

def outcome (d : Deed) : Transition := d.cause.apply d.before

/-- The synchronizer after the deed, its timer left aside. -/
def after (d : Deed) : Synchronizer := d.outcome.after

def isFiring (d : Deed) : Bool :=
  match d.cause with
  | .timer => true
  | .action _ => false

def inTime (d : Deed) : Bool := d.outcome.inTime d.time

/-- The deed is an operation that counts as an edit. -/
def isEffective (d : Deed) : Bool :=
  match d.cause with
  | .action a => a.isEffective d.before
  | .timer => false

/-- When the quiet period ends that the deed starts, unless it is started anew. -/
def due (d : Deed) : Nat :=
  match d.cause with
  | .action a => d.time + a.settleDelay
  | .timer => d.time

end Deed

theorem Synchronizer.restart_fire (s : Synchronizer) : s.fire.restart = none := by
  rw [fire]

theorem Transition.inTime_of_restart_none {t : Transition} (ht : t.restart = none)
    (now : Nat) : t.inTime now = true := by
  rw [inTime, ht]

/-- Any operation is in time, if the longest quiet period still is. -/
theorem Action.inTime_apply {now : Nat} (early : now + searchTextDelay ≤ Timer.endOfTime)
    (a : Action) (s : Synchronizer) : (a.apply s).inTime now = true := by
  rw [Transition.inTime, restart_apply]
  cases a.isEffective s with
  | false => rfl
  | true =>
    have short : a.settleDelay ≤ searchTextDelay := by
      cases a <;> simp [settleDelay, searchTextDelay, Timer.milliseconds]
    exact decide_eq_true (Nat.le_trans (Nat.add_le_add_left short now) early)

/-! ### Calls under way and calls made -/

def Frame.calls? : Frame → Option (List Call)
  | calls pending => some pending
  | _ => none

/-- What the operations on a stack have still to call, innermost first. -/
def pendingOn (stack : List Frame) : List (List Call) := stack.filterMap Frame.calls?

@[simp] theorem pendingOn_nil : pendingOn [] = [] := rfl

@[simp] theorem pendingOn_script (ops : List Op) (stack : List Frame) :
    pendingOn (.script ops :: stack) = pendingOn stack := rfl

@[simp] theorem pendingOn_advancing (target : Nat) (stack : List Frame) :
    pendingOn (.advancing target :: stack) = pendingOn stack := rfl

@[simp] theorem pendingOn_calls (pending : List Call) (stack : List Frame) :
    pendingOn (.calls pending :: stack) = pending :: pendingOn stack := rfl

theorem any_isCalls_eq_false_iff {stack : List Frame} :
    stack.any Frame.isCalls = false ↔ pendingOn stack = [] := by
  induction stack with
  | nil => simp
  | cons frame stack ih => cases frame <;> simp [Frame.isCalls, ih]

def Event.call? : Event → Option Call
  | called call => some call
  | _ => none

/-- What holds at every place of a list holds at its head and at every place behind it. -/
theorem forall_split_cons {α : Type} {Q : α → List α → Prop} {a : α} {as : List α} :
    (∀ later b earlier, a :: as = later ++ b :: earlier → Q b earlier) ↔
      Q a as ∧ ∀ later b earlier, as = later ++ b :: earlier → Q b earlier := by
  constructor
  · intro hQ
    refine ⟨hQ [] a as rfl, ?_⟩
    intro later b earlier has
    exact hQ (a :: later) b earlier (by rw [has, List.cons_append])
  · rintro ⟨here, behind⟩ later b earlier has
    cases later with
    | nil =>
      cases has
      exact here
    | cons c later =>
      cases has
      exact behind later b earlier rfl

namespace Run

variable {σ : Type}

def calls (r : Run σ) : List Call := (r.journal.filterMap (fun e => e.event.call?)).reverse

/-- The calls that operations under way have still to make, innermost first. -/
def pendingCalls (r : Run σ) : List (List Call) := pendingOn r.stack

/-- The next step goes on with the calls of an operation. -/
def dispatching (r : Run σ) : Bool :=
  match r.stack with
  | .calls _ :: _ => true
  | _ => false

/-- The host, the outside or the owner of a timer is to say what happens next. -/
def inControl (r : Run σ) : Bool :=
  match r.stack with
  | [] => true
  | .script _ :: _ => true
  | _ => false

/-! ### Trails -/

/-- What the next step does to the synchronizer, if anything. -/
def deed? (r : Run σ) : Option Deed :=
  match r.stack with
  | .script (.act via action :: _) :: _ =>
    if r.reaches via then
      some ⟨r.clock.now, r.stack.any Frame.isCalls, r.sync, .action action⟩
    else none
  | .advancing target :: _ =>
    match r.clock.popDue target with
    | some (⟨_, _, .quiet⟩, clock) =>
      if r.alive then some ⟨clock.now, r.stack.any Frame.isCalls, r.sync, .timer⟩ else none
    | _ => none
  | _ => none

/-- What was done to the synchronizer in a number of steps, latest first. -/
def trail (h : Host σ) (n : Nat) (r : Run σ) : List Deed :=
  ((List.range n).filterMap (fun m => (r.runFor h m).deed?)).reverse

def start (host : σ) (ops : List Op) : Run σ := { host, stack := [.script ops] }

theorem runFor_succ (h : Host σ) (n : Nat) (r : Run σ) :
    r.runFor h (n + 1) = ((r.runFor h n).step h).getD (r.runFor h n) := by
  induction n generalizing r with
  | zero =>
    rw [runFor, runFor]
    cases r.step h <;> rfl
  | succ n ih =>
    rw [runFor]
    cases hr : r.step h with
    | none => simp [runFor, hr]
    | some r₁ => simpa [runFor, hr] using ih r₁

theorem trail_succ (h : Host σ) (n : Nat) (r : Run σ) :
    r.trail h (n + 1) = (r.runFor h n).deed?.toList ++ r.trail h n := by
  rw [trail, trail, List.range_succ, List.filterMap_append, List.reverse_append]
  cases hd : (r.runFor h n).deed? <;> simp [hd]

theorem mem_trail_iff {h : Host σ} {n : Nat} {r : Run σ} {d : Deed} :
    d ∈ r.trail h n ↔ ∃ m < n, (r.runFor h m).deed? = some d := by
  rw [trail, List.mem_reverse, List.mem_filterMap]
  simp only [List.mem_range]

theorem step_none_iff {h : Host σ} {r : Run σ} : r.step h = none ↔ r.stack = [] := by
  rw [step]
  split <;> (try split) <;> simp_all

/-- **Induction along a run.**  What holds at its start, and is kept by every step whose deed
    meets a guard, holds at every moment up to which all deeds met the guard. -/
theorem trail_induction {h : Host σ} {r : Run σ} {guard : Deed → Prop}
    {P : List Deed → Run σ → Prop} (start : P [] r)
    (step : ∀ past r₁ r₂, P past r₁ → (∀ d, r₁.deed? = some d → guard d) →
      r₁.step h = some r₂ → P (r₁.deed?.toList ++ past) r₂)
    (n : Nat) (guarded : ∀ d ∈ r.trail h n, guard d) : P (r.trail h n) (r.runFor h n) := by
  induction n with
  | zero => exact start
  | succ n ih =>
    rw [trail_succ] at guarded
    have here := ih (fun d hd => guarded d (List.mem_append_right _ hd))
    rw [runFor_succ, trail_succ]
    cases hs : (r.runFor h n).step h with
    | some r₂ =>
      refine step _ _ _ here (fun d hd => guarded d ?_) hs
      rw [hd]
      exact List.mem_cons_self
    | none =>
      have ended : (r.runFor h n).deed? = none := by
        rw [deed?, step_none_iff.mp hs]
      rw [ended]
      exact here

/-! ### What a step can do -/

/-- What one step can do, as far as the synchronizer and its calls are concerned.  Something is
    done to the synchronizer (`act`), and its calls are to be made next, unless the quiet period
    that it starts could not be scheduled; or the host is called; or an operation has made all its
    calls; or nothing happens to either. -/
inductive Move (h : Host σ) (r r' : Run σ) : Prop where
  | act (d : Deed) (below : List Frame) (deed : r.deed? = some d)
      (top : r.dispatching = false)
      (sync : r'.sync = { d.after with timer := r'.sync.timer })
      (stack : r'.stack = if d.inTime then .calls d.outcome.calls :: below else below)
      (rest : pendingOn below = pendingOn r.stack)
      (calls : r'.calls = r.calls)
  | call (call : Call) (pending : List Call) (rest : List Frame)
      (deed : r.deed? = none)
      (stack : r.stack = .calls (call :: pending) :: rest)
      (after : r'.stack = .script (h.react call r.host).2 :: .calls pending :: rest)
      (sync : r'.sync = r.sync)
      (calls : r'.calls = r.calls ++ [call])
  | done (rest : List Frame)
      (deed : r.deed? = none)
      (stack : r.stack = .calls [] :: rest)
      (after : r'.stack = rest)
      (sync : r'.sync = r.sync)
      (calls : r'.calls = r.calls)
  | still (deed : r.deed? = none)
      (top : r.dispatching = false)
      (pending : pendingOn r'.stack = pendingOn r.stack)
      (sync : r'.sync = r.sync)
      (calls : r'.calls = r.calls)

/-- The timers that are left when a synchronizer has cancelled its own. -/
def released (timer : Option Timer.Handle) (waiting : List (Timer.Waiting Task)) :
    List (Timer.Waiting Task) :=
  match timer with
  | some x => Timer.dequeue x waiting
  | none => waiting

/-- A quiet period that is started anew takes the place of the one under way, with a
    handle that no other timer had. -/
theorem carryOut_restart {t : Transition} {delay : Nat} (ht : t.restart = some delay)
    (clock : VirtualClock Task) :
    t.carryOut Task.quiet clock =
      if clock.now + delay ≤ Timer.endOfTime then
        ({ t.after with timer := some (clock.issued + 1) },
          { clock with
            issued := clock.issued + 1
            waiting := Timer.enqueue ⟨clock.issued + 1, clock.now + delay, .quiet⟩
              (released t.after.timer clock.waiting) },
          some t.calls)
      else
        ({ t.after with timer := none },
          { clock with
            issued := clock.issued + 1
            waiting := released t.after.timer clock.waiting },
          none) := by
  rw [Transition.carryOut, ht]
  cases hx : t.after.timer with
  | none =>
    by_cases late : clock.now + delay ≤ Timer.endOfTime <;>
      simp [Timer.Scheduler.schedule, VirtualClock.schedule, Timer.inTime?, late, released]
  | some x =>
    by_cases late : clock.now + delay ≤ Timer.endOfTime <;>
      simp [Timer.Scheduler.schedule, Timer.Scheduler.cancel, VirtualClock.schedule,
        VirtualClock.cancel, Timer.inTime?, late, released]

theorem carryOut_of_restart_none {t : Transition} (ht : t.restart = none)
    (clock : VirtualClock Task) :
    t.carryOut Task.quiet clock = (t.after, clock, some t.calls) := by
  rw [Transition.carryOut, ht]

/-- Carrying a transition out does not move the clock, and sets the timer only. -/
theorem carryOut_spec (t : Transition) (clock : VirtualClock Task) :
    ∃ timer clock', clock'.now = clock.now ∧
      t.carryOut Task.quiet clock =
        ({ t.after with timer := timer }, clock',
          if t.inTime clock.now then some t.calls else none) := by
  cases ht : t.restart with
  | none =>
    refine ⟨t.after.timer, clock, rfl, ?_⟩
    rw [carryOut_of_restart_none ht, Transition.inTime, ht]
    rfl
  | some delay =>
    rw [carryOut_restart ht, Transition.inTime, ht]
    by_cases late : clock.now + delay ≤ Timer.endOfTime
    · refine ⟨_, _, ?_, by rw [if_pos late, if_pos (decide_eq_true late)]⟩
      rfl
    · refine ⟨_, _, ?_, by rw [if_neg late, if_neg (by simpa using late)]⟩
      rfl

theorem calls_of_journal {r r' : Run σ} (hj : r'.journal = r.journal) : r'.calls = r.calls := by
  rw [calls, calls, hj]

@[simp] theorem calls_note_called (r : Run σ) (call : Call) :
    (r.note (.called call)).calls = r.calls ++ [call] := by
  simp [calls, note, Event.call?]

/-- An operation that does not reach the synchronizer leaves it and its calls alone. -/
theorem perform_still {op : Op} {r r' : Run σ} {cause : Option Failure}
    (hop : ∀ via action, op = .act via action → r.reaches via = false)
    (hp : r.perform op = (r', cause)) :
    r'.sync = r.sync ∧ r'.calls = r.calls ∧ pendingOn r'.stack = pendingOn r.stack := by
  cases op with
  | act via action =>
    rw [perform, hop via action rfl] at hp
    cases hp
    exact ⟨rfl, rfl, rfl⟩
  | clone via =>
    rw [perform] at hp
    split at hp <;> cases hp <;> exact ⟨rfl, rfl, rfl⟩
  | drop handle =>
    cases hp
    exact ⟨rfl, rfl, rfl⟩
  | advance duration =>
    rw [perform] at hp
    split at hp <;> cases hp <;> exact ⟨rfl, rfl, rfl⟩
  | cancel via timer =>
    rw [perform] at hp
    split at hp <;> cases hp <;> exact ⟨rfl, rfl, rfl⟩
  | later delay run =>
    rw [perform] at hp
    split at hp <;> cases hp <;> exact ⟨rfl, rfl, rfl⟩
  | refused cause =>
    cases hp
    exact ⟨rfl, rfl, rfl⟩

theorem step_action (h : Host σ) {r : Run σ} {via : Option Nat} {action : Action}
    {ops : List Op} {rest : List Frame}
    (hstack : r.stack = .script (.act via action :: ops) :: rest)
    (hvia : r.reaches via = true) :
    r.step h = some
      (match (action.apply r.sync).carryOut Task.quiet r.clock with
        | (sync, clock, some calls) =>
          { r with sync, clock, stack := .calls calls :: .script ops :: rest }
        | (sync, clock, none) =>
          ({ r with sync, clock, stack := .script ops :: rest } : Run σ).note
            (.failed .overflow)) := by
  have reached : ({ r with stack := .script ops :: rest } : Run σ).reaches via = true := by
    cases via <;> exact hvia
  rw [step, hstack]
  simp only [perform, if_pos reached, begin]
  rcases (action.apply r.sync).carryOut Task.quiet r.clock with ⟨sync, clock, _ | calls⟩ <;> rfl

theorem step_timer (h : Host σ) {r : Run σ} {target : Nat} {rest : List Frame}
    {x : Timer.Handle} {deadline : Nat} {clock : VirtualClock Task}
    (hstack : r.stack = .advancing target :: rest)
    (hpop : r.clock.popDue target = some (⟨x, deadline, .quiet⟩, clock))
    (halive : r.alive = true) :
    r.step h = some
      { r with sync := r.sync.fire.after, clock, stack := .calls r.sync.fire.calls :: r.stack } := by
  have alive : ({ r with clock, stack := .advancing target :: rest } : Run σ).alive = true := by
    rw [← hstack]
    exact halive
  rw [step, hstack]
  simp only [hpop, fire, if_pos alive, begin,
    carryOut_of_restart_none (Synchronizer.restart_fire r.sync)]

theorem move_action {h : Host σ} {r r' : Run σ} {via : Option Nat} {action : Action}
    {ops : List Op} {rest : List Frame}
    (hstack : r.stack = .script (.act via action :: ops) :: rest)
    (hvia : r.reaches via = true) (hs : r.step h = some r') : Move h r r' := by
  have hdeed : r.deed? =
      some ⟨r.clock.now, r.stack.any Frame.isCalls, r.sync, .action action⟩ := by
    rw [deed?, hstack]
    exact if_pos hvia
  have top : r.dispatching = false := by rw [dispatching, hstack]
  have below : pendingOn (.script ops :: rest) = pendingOn r.stack := by rw [hstack]; rfl
  obtain ⟨timer, clock, -, carried⟩ := carryOut_spec (action.apply r.sync) r.clock
  rw [step_action h hstack hvia, carried] at hs
  by_cases ht : (action.apply r.sync).inTime r.clock.now = true
  · rw [if_pos ht] at hs
    cases hs
    exact .act _ _ hdeed top rfl (if_pos ht).symm below rfl
  · rw [if_neg ht] at hs
    cases hs
    exact .act _ _ hdeed top rfl (if_neg ht).symm below rfl

theorem move_timer {h : Host σ} {r r' : Run σ} {target : Nat} {rest : List Frame}
    {x : Timer.Handle} {deadline : Nat} {clock : VirtualClock Task}
    (hstack : r.stack = .advancing target :: rest)
    (hpop : r.clock.popDue target = some (⟨x, deadline, .quiet⟩, clock))
    (halive : r.alive = true) (hs : r.step h = some r') : Move h r r' := by
  have hdeed : r.deed? = some ⟨clock.now, r.stack.any Frame.isCalls, r.sync, .timer⟩ := by
    simp [deed?, hstack, hpop, halive]
  have top : r.dispatching = false := by rw [dispatching, hstack]
  rw [step_timer h hstack hpop halive] at hs
  obtain rfl := Option.some.inj hs
  refine .act _ r.stack hdeed top ?_ ?_ rfl (calls_of_journal rfl)
  · rw [Deed.after, Deed.outcome, Cause.apply]
  · rw [Deed.inTime, Deed.outcome, Cause.apply,
      Transition.inTime_of_restart_none (Synchronizer.restart_fire r.sync), if_pos rfl]

/-- **What a step can do.** -/
theorem step_move {h : Host σ} {r r' : Run σ} (hs : r.step h = some r') : Move h r r' := by
  have hstep := hs
  rw [step] at hs
  split at hs
  case h_1 => cases hs
  case h_2 rest hstack =>
    cases hs
    exact .still (by simp [deed?, hstack]) (by simp [dispatching, hstack]) (by simp [hstack]) rfl rfl
  case h_3 op ops rest hstack =>
    by_cases hop : ∃ via action, op = .act via action ∧ r.reaches via = true
    · obtain ⟨via, action, rfl, hvia⟩ := hop
      exact move_action hstack hvia hstep
    · have unreached : ∀ via action, op = .act via action → r.reaches via = false := by
        intro via action hact
        exact Bool.eq_false_iff.mpr (fun hvia => hop ⟨via, action, hact, hvia⟩)
      have unreached' : ∀ via action, op = .act via action →
          ({ r with stack := .script ops :: rest } : Run σ).reaches via = false := by
        intro via action hact
        rw [← unreached via action hact]
        cases via <;> rfl
      have hdeed : r.deed? = none := by
        cases op <;> simp [deed?, hstack, unreached]
      have top : r.dispatching = false := by rw [dispatching, hstack]
      split at hs
      all_goals
        rename_i hp
        cases hs
        obtain ⟨hsync, hcalls, hpending⟩ := perform_still unreached' hp
        exact .still hdeed top (hpending.trans (by rw [hstack]; rfl)) hsync hcalls
  case h_4 rest hstack =>
    cases hs
    exact .done rest (by simp [deed?, hstack]) hstack rfl rfl rfl
  case h_5 call pending rest hstack =>
    cases hs
    exact .call call pending rest (by simp [deed?, hstack]) hstack rfl rfl
      (calls_note_called r call)
  case h_6 target rest hstack =>
    have top : r.dispatching = false := by rw [dispatching, hstack]
    split at hs <;> rename_i hpop
    · cases hs
      exact .still (by simp [deed?, hstack, hpop]) top (by rw [hstack]; rfl) rfl rfl
    · rename_i w clock
      obtain ⟨x, deadline, task⟩ := w
      cases task with
      | foreign run =>
        cases hs
        exact .still (by simp [deed?, hstack, hpop]) top rfl rfl rfl
      | quiet =>
        by_cases alive : r.alive = true
        · exact move_timer hstack hpop alive hstep
        · have still : fire .quiet { r with clock } = { r with clock } := if_neg alive
          rw [still] at hs
          cases hs
          exact .still (by simp [deed?, hstack, hpop, alive]) top rfl rfl rfl

/-- A step does something to the synchronizer, or else makes some of the calls that are due. -/
theorem step_deed_or_calls {h : Host σ} {r r' : Run σ} (hs : r.step h = some r') :
    (∃ d, r.deed? = some d ∧ r'.sync = { d.after with timer := r'.sync.timer } ∧
      r'.calls = r.calls ∧
      r'.pendingCalls = if d.inTime then d.outcome.calls :: r.pendingCalls else r.pendingCalls) ∨
    (r.deed? = none ∧ r'.sync = r.sync ∧
      ∃ made, r'.calls = r.calls ++ made ∧
        r.pendingCalls.flatten = made ++ r'.pendingCalls.flatten) := by
  cases step_move hs with
  | act d below deed top sync stack rest calls =>
    refine Or.inl ⟨d, deed, sync, calls, ?_⟩
    rw [pendingCalls, stack, pendingCalls, ← rest]
    by_cases ht : d.inTime = true
    · rw [if_pos ht, if_pos ht, pendingOn_calls]
    · rw [if_neg ht, if_neg ht]
  | call call pending rest deed stack after sync calls =>
    refine Or.inr ⟨deed, sync, [call], calls, ?_⟩
    rw [pendingCalls, stack, pendingCalls, after]
    rfl
  | done rest deed stack after sync calls =>
    refine Or.inr ⟨deed, sync, [], by rw [calls, List.append_nil], ?_⟩
    rw [pendingCalls, stack, pendingCalls, after]
    rfl
  | still deed top pending sync calls =>
    refine Or.inr ⟨deed, sync, [], by rw [calls, List.append_nil], ?_⟩
    rw [pendingCalls, pendingCalls, pending]
    rfl

theorem deed?_action {r : Run σ} {d : Deed} {action : Action} (hd : r.deed? = some d)
    (hc : d.cause = .action action) :
    ∃ via ops rest, r.stack = .script (.act via action :: ops) :: rest ∧ r.reaches via = true := by
  rw [deed?] at hd
  split at hd
  · rename_i via found ops rest hstack
    split at hd
    · rename_i hvia
      cases hd
      cases hc
      exact ⟨via, ops, rest, hstack, hvia⟩
    · cases hd
  · split at hd
    · split at hd
      · cases hd
        cases hc
      · cases hd
    · cases hd
  · cases hd

theorem deed?_before {r : Run σ} {d : Deed} (hd : r.deed? = some d) :
    d.before = r.sync ∧ d.duringCall = r.stack.any Frame.isCalls := by
  rw [deed?] at hd
  split at hd
  · split at hd
    · cases hd
      exact ⟨rfl, rfl⟩
    · cases hd
  · split at hd
    · split at hd
      · cases hd
        exact ⟨rfl, rfl⟩
      · cases hd
    · cases hd
  · cases hd

end Run

end ResourceCatalog.Sync
