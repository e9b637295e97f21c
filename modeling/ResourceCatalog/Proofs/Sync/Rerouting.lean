/-
  ResourceCatalog/Proofs/Sync/Rerouting.lean
  ==========================================
  **Through which handle an operation is made.**

  Operations are rerouted by sending each of them through another handle: those of a
  script, those that timers of others run, and those that the host answers with.  As
  long as each finds a live handle exactly if it found one before, the same happens at
  every moment (`rerouted_runFor`): handles are told apart by being live, and by
  nothing else.
-/
import Mathlib.Data.List.Forall2
import ResourceCatalog.Proofs.Sync.Scripts

namespace ResourceCatalog

open List (Forall₂)

namespace Timer

/-! ### Clocks with related payloads -/

variable {α β : Type} {R : α → β → Prop}

/-- Timers with one handle and one deadline, whose payloads are related. -/
structure Waiting.Related (R : α → β → Prop) (v : Waiting α) (w : Waiting β) : Prop where
  handle : v.handle = w.handle
  deadline : v.deadline = w.deadline
  payload : R v.payload w.payload

/-- Clocks that show one time, have given out as many handles, and have related timers waiting. -/
structure VirtualClock.Related (R : α → β → Prop) (c : VirtualClock α) (d : VirtualClock β) :
    Prop where
  now : c.now = d.now
  issued : c.issued = d.issued
  waiting : Forall₂ (Waiting.Related R) c.waiting d.waiting

theorem related_enqueue {v : Waiting α} {w : Waiting β} {vs : List (Waiting α)}
    {ws : List (Waiting β)} (h : v.Related R w) (hs : Forall₂ (Waiting.Related R) vs ws) :
    Forall₂ (Waiting.Related R) (enqueue v vs) (enqueue w ws) := by
  induction hs with
  | nil => exact .cons h .nil
  | cons first rest ih =>
    rw [enqueue, enqueue, first.deadline, h.deadline]
    split
    · exact .cons first ih
    · exact .cons h (.cons first rest)

theorem related_dequeue (x : Handle) {vs : List (Waiting α)} {ws : List (Waiting β)}
    (hs : Forall₂ (Waiting.Related R) vs ws) :
    Forall₂ (Waiting.Related R) (dequeue x vs) (dequeue x ws) := by
  induction hs with
  | nil => exact .nil
  | cons first rest ih =>
    rw [dequeue, dequeue, List.filter_cons, List.filter_cons, first.handle]
    split
    · exact .cons first ih
    · exact ih

namespace VirtualClock

variable {c : VirtualClock α} {d : VirtualClock β}

theorem Related.schedule (h : c.Related R d) (delay : Nat) {a : α} {b : β} (payload : R a b) :
    ((c.schedule delay a).1).Related R (d.schedule delay b).1 ∧
      (c.schedule delay a).2 = (d.schedule delay b).2 := by
  rw [VirtualClock.schedule, VirtualClock.schedule, h.now, h.issued]
  cases inTime? (d.now + delay) with
  | none => exact ⟨⟨rfl, rfl, h.waiting⟩, rfl⟩
  | some deadline =>
    exact ⟨⟨rfl, rfl, related_enqueue ⟨rfl, rfl, payload⟩ h.waiting⟩, rfl⟩

theorem Related.cancel (h : c.Related R d) (x : Handle) : (c.cancel x).Related R (d.cancel x) :=
  ⟨h.now, h.issued, related_dequeue x h.waiting⟩

theorem Related.arrive (h : c.Related R d) (target : Nat) :
    (c.arrive target).Related R (d.arrive target) :=
  ⟨rfl, h.issued, h.waiting⟩

theorem Related.horizon? (h : c.Related R d) (duration : Nat) :
    c.horizon? duration = d.horizon? duration := by
  rw [VirtualClock.horizon?, VirtualClock.horizon?, h.now]

/-- The same timer is due, if any. -/
theorem Related.popDue (h : c.Related R d) (target : Nat) :
    Option.Rel (fun due due' => due.1.Related R due'.1 ∧ due.2.Related R due'.2)
      (c.popDue target) (d.popDue target) := by
  obtain ⟨now, issued, vs⟩ := c
  obtain ⟨now', issued', ws⟩ := d
  obtain ⟨same_now, same_issued, waiting⟩ := h
  simp only at same_now same_issued waiting
  cases waiting with
  | nil => exact .none
  | @cons v w vs ws first rest =>
    rw [VirtualClock.popDue, VirtualClock.popDue, firstDue?, firstDue?, first.deadline]
    by_cases due : w.deadline ≤ target
    · simp only [if_pos due]
      exact .some ⟨first, first.deadline, same_issued, rest⟩
    · simp only [if_neg due]
      exact .none

end VirtualClock

end Timer

namespace Sync

open Timer (VirtualClock Waiting)

/-! ### Operations through other handles -/

/-- One operation is the other, made through another handle or the same. -/
inductive Op.Rerouted : Op → Op → Prop where
  | act (via via' : Option Nat) (action : Action) : Rerouted (.act via action) (.act via' action)
  | clone (via via' : Option Nat) : Rerouted (.clone via) (.clone via')
  | drop (handle : Nat) : Rerouted (.drop handle) (.drop handle)
  | advance (duration : Nat) : Rerouted (.advance duration) (.advance duration)
  | cancel (via via' : Option Nat) (timer : Timer.Handle) :
    Rerouted (.cancel via timer) (.cancel via' timer)
  | later (delay : Nat) {run run' : List Op} (runs : Forall₂ Rerouted run run') :
    Rerouted (.later delay run) (.later delay run')
  | refused (cause : Failure) : Rerouted (.refused cause) (.refused cause)

inductive Task.Rerouted : Task → Task → Prop where
  | quiet : Rerouted .quiet .quiet
  | foreign {run run' : List Op} (runs : Forall₂ Op.Rerouted run run') :
    Rerouted (.foreign run) (.foreign run')

inductive Frame.Rerouted : Frame → Frame → Prop where
  | script {ops ops' : List Op} (runs : Forall₂ Op.Rerouted ops ops') :
    Rerouted (.script ops) (.script ops')
  | calls (pending : List Call) : Rerouted (.calls pending) (.calls pending)
  | advancing (target : Nat) : Rerouted (.advancing target) (.advancing target)

/-- Hosts that answer each call with the same operations, through other handles; what they
    remember stays related. -/
def Host.Rerouted {σ τ : Type} (R : σ → τ → Prop) (h : Host σ) (k : Host τ) : Prop :=
  ∀ call s t, R s t → R (h.react call s).1 (k.react call t).1 ∧
    Forall₂ Op.Rerouted (h.react call s).2 (k.react call t).2

/-- The handle that an operation goes through, if it goes through one. -/
def Op.via? : Op → Option (Option Nat)
  | act via _ => some via
  | clone via => some via
  | cancel via _ => some via
  | _ => none

namespace Run

variable {σ τ : Type} {R : σ → τ → Prop} {h : Host σ} {k : Host τ} {r : Run σ} {s : Run τ}

/-- The next operation goes through a live handle, or through none. -/
def finds (r : Run σ) : Bool :=
  match r.stack with
  | .script (op :: _) :: _ => (op.via?.map r.reaches).getD true
  | _ => true

theorem reaches_withStack (r : Run σ) (stack : List Frame) :
    ({ r with stack } : Run σ).reaches = r.reaches := by
  funext via
  cases via <;> rfl

/-- Two runs that are the same, but for the handles that operations still to come go through. -/
structure Rerouted (R : σ → τ → Prop) (r : Run σ) (s : Run τ) : Prop where
  sync : r.sync = s.sync
  handles : r.handles = s.handles
  clock : r.clock.Related Task.Rerouted s.clock
  host : R r.host s.host
  journal : r.journal = s.journal
  stack : Forall₂ Frame.Rerouted r.stack s.stack

namespace Rerouted

theorem note (same : Rerouted R r s) (event : Event) : Rerouted R (r.note event) (s.note event) :=
  { same with
    journal := by rw [Run.note, Run.note, same.clock.now, same.journal] }

theorem withStack (same : Rerouted R r s) {stack stack' : List Frame}
    (rerouted : Forall₂ Frame.Rerouted stack stack') :
    Rerouted R { r with stack } { s with stack := stack' } :=
  { same with stack := rerouted }

theorem alive (same : Rerouted R r s) : r.alive = s.alive := by
  have calling : ∀ {stack stack' : List Frame}, Forall₂ Frame.Rerouted stack stack' →
      stack.any Frame.isCalls = stack'.any Frame.isCalls := by
    intro stack stack' rerouted
    induction rerouted with
    | nil => rfl
    | cons frame _ ih =>
      rw [List.any_cons, List.any_cons, ih]
      cases frame <;> rfl
  rw [Run.alive, Run.alive, same.handles, calling same.stack]

/-- A transition is carried out alike on both clocks. -/
theorem begin (same : Rerouted R r s) (t : Transition) :
    Rerouted R (r.begin t).1 (s.begin t).1 ∧ (r.begin t).2 = (s.begin t).2 := by
  rw [Run.begin, Run.begin]
  cases restart : t.restart with
  | none =>
    rw [carryOut_of_restart_none restart, carryOut_of_restart_none restart]
    exact ⟨{ same with sync := rfl, stack := .cons (.calls _) same.stack }, rfl⟩
  | some delay =>
    have cleared : Forall₂ (Waiting.Related Task.Rerouted) (released t.after.timer r.clock.waiting)
        (released t.after.timer s.clock.waiting) := by
      cases t.after.timer with
      | none => exact same.clock.waiting
      | some x => exact Timer.related_dequeue x same.clock.waiting
    rw [carryOut_restart restart, carryOut_restart restart, same.clock.now, same.clock.issued]
    by_cases inTime : s.clock.now + delay ≤ Timer.endOfTime
    · rw [if_pos inTime, if_pos inTime]
      exact ⟨{ same with
        sync := rfl
        clock := ⟨rfl, rfl, Timer.related_enqueue ⟨rfl, rfl, .quiet⟩ cleared⟩
        stack := .cons (.calls _) same.stack }, rfl⟩
    · rw [if_neg inTime, if_neg inTime]
      exact ⟨{ same with sync := rfl, clock := ⟨rfl, rfl, cleared⟩ }, rfl⟩

/-- An operation that finds a live handle here finds one there, and does the same. -/
theorem perform (same : Rerouted R r s) {op op' : Op} (rerouted : op.Rerouted op')
    (found : (op.via?.map r.reaches).getD true = (op'.via?.map s.reaches).getD true) :
    Rerouted R (r.perform op).1 (s.perform op').1 ∧ (r.perform op).2 = (s.perform op').2 := by
  cases rerouted with
  | act via via' action =>
    have reached : r.reaches via = s.reaches via' := found
    rw [Run.perform, Run.perform, reached, same.sync]
    split
    · exact same.begin _
    · exact ⟨same, rfl⟩
  | clone via via' =>
    have reached : r.reaches via = s.reaches via' := found
    rw [Run.perform, Run.perform, reached]
    split
    · exact ⟨{ same with handles := by rw [same.handles] }, rfl⟩
    · exact ⟨same, rfl⟩
  | drop handle => exact ⟨{ same with handles := congrArg (·.set handle false) same.handles }, rfl⟩
  | advance duration =>
    rw [Run.perform, Run.perform, same.clock.horizon?]
    cases s.clock.horizon? duration with
    | none => exact ⟨same, rfl⟩
    | some target => exact ⟨same.withStack (.cons (.advancing target) same.stack), rfl⟩
  | cancel via via' timer =>
    have reached : r.reaches via = s.reaches via' := found
    rw [Run.perform, Run.perform, reached]
    split
    · exact ⟨{ same with clock := same.clock.cancel timer }, rfl⟩
    · exact ⟨same, rfl⟩
  | later delay runs =>
    have scheduled := same.clock.schedule delay (Task.Rerouted.foreign runs)
    simp only [Run.perform]
    generalize r.clock.schedule delay _ = left at scheduled
    generalize s.clock.schedule delay _ = right at scheduled
    obtain ⟨clock, x⟩ := left
    obtain ⟨clock', x'⟩ := right
    obtain ⟨clocks, rfl⟩ := scheduled
    cases x with
    | none => exact ⟨{ same with clock := clocks }, rfl⟩
    | some x => exact ⟨{ same with clock := clocks }, rfl⟩
  | refused cause => exact ⟨same, rfl⟩

theorem carried (same : Rerouted R r s) {op op' : Op} (rerouted : op.Rerouted op')
    (found : (op.via?.map r.reaches).getD true = (op'.via?.map s.reaches).getD true) :
    Rerouted R (r.carried op) (s.carried op') := by
  have performed := same.perform rerouted found
  rw [Run.carried, Run.carried]
  generalize r.perform op = left at performed
  generalize s.perform op' = right at performed
  obtain ⟨r', cause⟩ := left
  obtain ⟨s', cause'⟩ := right
  obtain ⟨same', rfl⟩ := performed
  cases cause with
  | none => exact same'
  | some cause => exact same'.note _

theorem fire (same : Rerouted R r s) {task task' : Task} (rerouted : task.Rerouted task') :
    Rerouted R (r.fire task) (s.fire task') := by
  cases rerouted with
  | quiet =>
    rw [Run.fire, Run.fire, same.alive, same.sync]
    split
    · exact (same.begin _).1
    · exact same
  | foreign runs =>
    exact (same.note .foreignFired).withStack (.cons (.script runs) same.stack)

/-- **A step does the same in both runs**, if the next operation finds a live handle in the one
    exactly if it does in the other. -/
theorem step (same : Rerouted R r s) (hosts : h.Rerouted R k) (agree : r.finds = s.finds) :
    Option.Rel (Rerouted R) (r.step h) (s.step k) := by
  have below := same.stack
  rcases hr : r.stack with _ | ⟨frame, rest⟩ <;> rcases hs : s.stack with _ | ⟨frame', rest'⟩ <;>
    rw [hr, hs] at below <;> cases below
  · rw [step_none_iff.mpr hr, step_none_iff.mpr hs]
    exact .none
  · rename_i top below
    cases top with
    | script runs =>
      cases runs with
      | nil =>
        rw [Run.step, hr, Run.step, hs]
        exact .some (same.withStack below)
      | cons first runs =>
        rw [step_script h hr, step_script k hs]
        rw [finds, hr, finds, hs] at agree
        have begun := same.withStack (.cons (.script runs) below)
        exact .some (begun.carried first (by rwa [reaches_withStack, reaches_withStack]))
    | calls pending =>
      cases pending with
      | nil =>
        rw [Run.step, hr, Run.step, hs]
        exact .some (same.withStack below)
      | cons call pending =>
        obtain ⟨host, answers⟩ := hosts call r.host s.host same.host
        rw [Run.step, hr, Run.step, hs]
        have called := same.note (.called call)
        exact .some { called with
          host := host, stack := .cons (.script answers) (.cons (.calls pending) below) }
    | advancing target =>
      have due := same.clock.popDue target
      simp only [Run.step, hr, hs]
      generalize r.clock.popDue target = left at due ⊢
      generalize s.clock.popDue target = right at due ⊢
      cases due with
      | none =>
        exact .some { same with clock := same.clock.arrive target, stack := below }
      | @some left right due =>
        have popped : Rerouted R { r with clock := left.2, stack := .advancing target :: rest }
            { s with clock := right.2, stack := .advancing target :: rest' } :=
          { same with clock := due.2, stack := .cons (.advancing target) below }
        exact .some (popped.fire due.1.payload)

end Rerouted

/-- **The same happens at every moment**, as long as each operation finds a live handle in the one
    run exactly if it does in the other. -/
theorem rerouted_runFor (same : Rerouted R r s) (hosts : h.Rerouted R k) (n : Nat)
    (agree : ∀ m < n, (r.runFor h m).finds = (s.runFor k m).finds) :
    Rerouted R (r.runFor h n) (s.runFor k n) := by
  induction n with
  | zero => exact same
  | succ n ih =>
    have before := ih (fun m hm => agree m (Nat.lt_succ_of_lt hm))
    have stepped := before.step hosts (agree n (Nat.lt_succ_self n))
    rw [runFor_succ, runFor_succ]
    generalize (r.runFor h n).step h = left at stepped
    generalize (s.runFor k n).step k = right at stepped
    cases stepped with
    | none => exact before
    | some same' => exact same'

theorem rerouted_start {host : σ} {host' : τ} (hosts : R host host') {ops ops' : List Op}
    (rerouted : Forall₂ Op.Rerouted ops ops') : Rerouted R (start host ops) (start host' ops') where
  sync := rfl
  handles := rfl
  clock := ⟨rfl, rfl, .nil⟩
  host := hosts
  journal := rfl
  stack := .cons (.script rerouted) .nil

end Run

/-! ### Prepared reactions through other handles -/

/-- Reactions to one kind of call, with the same operations through other handles. -/
structure Reaction.Rerouted (x y : Reaction) : Prop where
  on : x.on = y.on
  ops : Forall₂ Op.Rerouted x.ops y.ops

theorem rerouted_takeReaction (kind : CallKind) {xs ys : List Reaction}
    (same : Forall₂ Reaction.Rerouted xs ys) :
    Forall₂ Reaction.Rerouted (takeReaction kind xs).1 (takeReaction kind ys).1 ∧
      Forall₂ Op.Rerouted (takeReaction kind xs).2 (takeReaction kind ys).2 := by
  induction same with
  | nil => exact ⟨.nil, .nil⟩
  | cons first rest ih =>
    rw [takeReaction, takeReaction, first.on]
    split
    · exact ⟨rest, first.ops⟩
    · exact ⟨.cons first ih.1, ih.2⟩

theorem Host.scripted_rerouted :
    Host.scripted.Rerouted (Forall₂ Reaction.Rerouted) Host.scripted :=
  fun call _ _ same => rerouted_takeReaction call.kind same

end Sync

end ResourceCatalog
