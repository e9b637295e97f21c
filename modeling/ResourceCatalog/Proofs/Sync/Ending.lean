/-
  ResourceCatalog/Proofs/Sync/Ending.lean
  =======================================
  **Runs come to their end.**

  What is under way, the timers that wait and what the host may still set off
  have a weight, and every step lowers it.  A timer that fires pays for the
  operations that it starts, an operation for its calls and its quiet period,
  and a call for the script, empty as it may be, that the host answers with.

  The bound on the host is a parameter: nothing for a host that only records,
  the reactions that are left for a scripted one.
-/
import ResourceCatalog.Proofs.Sync.Trail
import ResourceCatalog.Proofs.Timer.Queue
import ResourceCatalog.Sync.Script

namespace ResourceCatalog.Sync

open Timer (VirtualClock totalWeight)

/-! ### Weights -/

/-- The stock of a host bounds what its answers can still set off.  Each call adds one
    step to it at most. -/
def Host.Bounded {σ : Type} (h : Host σ) (stock : σ → Nat) : Prop :=
  ∀ call s, stock (h.react call s).1 + scriptWeight (h.react call s).2 ≤ stock s + 1

def framesWeight (stack : List Frame) : Nat := totalWeight Frame.weight stack

def timersWeight (waiting : List (Timer.Waiting Task)) : Nat :=
  totalWeight (fun w => w.payload.weight) waiting

/-- What the reactions that are left can still set off. -/
def reactionsWeight (rs : List Reaction) : Nat := totalWeight (fun x => scriptWeight x.ops) rs

/-- A bound on the steps of a run, given the stock of its host. -/
def Run.load {σ : Type} (stock : σ → Nat) (r : Run σ) : Nat :=
  framesWeight r.stack + timersWeight r.clock.waiting + stock r.host

@[simp] theorem framesWeight_cons (frame : Frame) (stack : List Frame) :
    framesWeight (frame :: stack) = frame.weight + framesWeight stack := rfl

@[simp] theorem timersWeight_cons (w : Timer.Waiting Task) (waiting : List (Timer.Waiting Task)) :
    timersWeight (w :: waiting) = w.payload.weight + timersWeight waiting := rfl

theorem reactionsWeight_cons (x : Reaction) (rs : List Reaction) :
    reactionsWeight (x :: rs) = scriptWeight x.ops + reactionsWeight rs := rfl

theorem timersWeight_enqueue (w : Timer.Waiting Task) (waiting : List (Timer.Waiting Task)) :
    timersWeight (Timer.enqueue w waiting) = w.payload.weight + timersWeight waiting :=
  Timer.totalWeight_enqueue (fun v : Timer.Waiting Task => v.payload.weight) w waiting

theorem timersWeight_dequeue_le (x : Timer.Handle) (waiting : List (Timer.Waiting Task)) :
    timersWeight (Timer.dequeue x waiting) ≤ timersWeight waiting :=
  Timer.totalWeight_dequeue_le (fun v : Timer.Waiting Task => v.payload.weight) x waiting

theorem timersWeight_released_le (timer : Option Timer.Handle)
    (waiting : List (Timer.Waiting Task)) :
    timersWeight (Run.released timer waiting) ≤ timersWeight waiting := by
  cases timer with
  | none => exact Nat.le_refl _
  | some x => exact timersWeight_dequeue_le x waiting

theorem timersWeight_popDue {c clock : VirtualClock Task} {target : Nat}
    {w : Timer.Waiting Task} (hpop : c.popDue target = some (w, clock)) :
    timersWeight c.waiting = w.payload.weight + timersWeight clock.waiting := by
  rw [VirtualClock.popDue] at hpop
  cases due : Timer.firstDue? target c.waiting with
  | none =>
    rw [due] at hpop
    cases hpop
  | some first =>
    rw [due] at hpop
    cases hpop
    rw [Timer.eq_cons_of_firstDue? due]
    rfl

/-! ### What the operations cost -/

theorem length_writeCalls_le (query : String) (s : Synchronizer) :
    (s.writeCalls query).length ≤ 1 := by
  rw [Synchronizer.writeCalls]
  split
  · exact Nat.zero_le _
  · exact Nat.le_refl _

theorem length_fire_calls_le (s : Synchronizer) : s.fire.calls.length ≤ 3 := by
  rw [Synchronizer.fire_eq]
  have written := length_writeCalls_le (FilterQuery.merge s.baseQuery s.filters) s
  simp only [List.length_append, List.length_singleton]
  split
  · simp only [List.length_nil]
    omega
  · simp only [List.length_singleton]
    omega

theorem length_outcomeCalls_le (filters : FilterState) (result : Except String (List Resource)) :
    (Synchronizer.outcomeCalls filters result).length ≤ 2 := by
  rcases result with detail | _ | ⟨row, rows⟩
  · exact Nat.le_succ 1
  · exact Nat.le_refl 2
  · exact Nat.le_succ 1

theorem length_apply_calls_le (a : Action) (s : Synchronizer) :
    (a.apply s).calls.length ≤ a.maxCalls := by
  cases a.effect s with
  | nothing edit eq =>
    rw [eq]
    exact Nat.zero_le _
  | reads query edit ha first eq =>
    rw [eq, ha, Synchronizer.hydrate_eq first]
    simp [Action.maxCalls]
  | types text edit ha hydrated eq =>
    rw [eq]
    exact Nat.zero_le _
  | selects next edit ha changes eq =>
    have one : a.maxCalls = 1 := by
      cases a with
      | toggleTag tag => rfl
      | toggleType type => rfl
      | _ => cases ha
    have few := length_writeCalls_le
      (FilterQuery.merge s.baseQuery (next.withSearchText s.settledText)) s
    rw [eq, one]
    simpa only [Synchronizer.select_eq changes] using few
  | resolves ticket result filters edit ha awaited eq =>
    rw [eq, ha]
    exact Nat.succ_le_succ (length_outcomeCalls_le filters result)
  | suggests tags edit ha eq =>
    rw [eq, ha]
    exact Nat.le_refl 1

namespace Run

variable {σ : Type} {stock : σ → Nat}

theorem load_begin (stock : σ → Nat) (t : Transition) (r : Run σ) :
    (r.begin t).1.load stock ≤ r.load stock + callsWeight t.calls.length
      + (if t.restart.isSome then quietWeight else 0) := by
  cases ht : t.restart with
  | none =>
    rw [begin, carryOut_of_restart_none ht]
    simp only [load, framesWeight_cons, Frame.weight, Option.isSome_none, Bool.false_eq_true,
      if_false]
    omega
  | some delay =>
    have freed := timersWeight_released_le t.after.timer r.clock.waiting
    rw [begin, carryOut_restart ht]
    by_cases inTime : r.clock.now + delay ≤ Timer.endOfTime
    · rw [if_pos inTime]
      simp only [load, framesWeight_cons, Frame.weight, timersWeight_enqueue, Task.weight,
        Option.isSome_some, if_true]
      omega
    · rw [if_neg inTime]
      simp only [load, Option.isSome_some, if_true]
      omega

/-- An operation costs more than all it puts under way. -/
theorem load_perform (stock : σ → Nat) (op : Op) (r : Run σ) :
    (r.perform op).1.load stock < r.load stock + op.weight := by
  cases op with
  | act via action =>
    rw [perform, Op.weight]
    split
    · have cost := load_begin stock (action.apply r.sync) r
      have few := length_apply_calls_le action r.sync
      have quiet : (if (action.apply r.sync).restart.isSome then quietWeight else 0)
          ≤ quietWeight := by
        split
        · exact Nat.le_refl _
        · exact Nat.zero_le _
      rw [callsWeight] at cost ⊢
      omega
    · exact Nat.lt_add_of_pos_right (Nat.succ_pos _)
  | clone via =>
    rw [perform, Op.weight]
    split <;> exact Nat.lt_succ_self _
  | drop handle => exact Nat.lt_succ_self _
  | advance duration =>
    rw [perform, Op.weight]
    split
    · simp only [load, framesWeight_cons, Frame.weight]
      omega
    · simp
  | cancel via timer =>
    have freed := timersWeight_dequeue_le timer r.clock.waiting
    rw [perform, Op.weight]
    split
    · simp only [load, VirtualClock.cancel]
      omega
    · simp
  | later delay run =>
    rw [perform, Op.weight]
    by_cases inTime : r.clock.now + delay ≤ Timer.endOfTime
    · simp only [VirtualClock.schedule, Timer.inTime?, if_pos inTime, load, timersWeight_enqueue,
        Task.weight]
      omega
    · simp [VirtualClock.schedule, Timer.inTime?, inTime, load]
  | refused cause => exact Nat.lt_succ_self _

theorem load_fire (stock : σ → Nat) (task : Task) (r : Run σ) :
    (r.fire task).load stock < r.load stock + task.weight := by
  cases task with
  | quiet =>
    rw [fire, Task.weight, quietWeight]
    split
    · have cost := load_begin stock r.sync.fire r
      have few := length_fire_calls_le r.sync
      rw [Synchronizer.restart_fire, callsWeight] at cost
      rw [callsWeight]
      simp only [Option.isSome_none, Bool.false_eq_true, if_false] at cost
      omega
    · exact Nat.lt_add_of_pos_right (Nat.succ_pos _)
  | foreign run =>
    simp only [fire, note, load, framesWeight_cons, Frame.weight, Task.weight]
    omega

/-- **Every step lowers the load.** -/
theorem load_step {h : Host σ} (bounded : h.Bounded stock) {r r' : Run σ}
    (hs : r.step h = some r') : r'.load stock < r.load stock := by
  rw [step] at hs
  split at hs
  case h_1 => cases hs
  case h_2 rest hstack =>
    cases hs
    simp [load, hstack, Frame.weight, scriptWeight]
  case h_3 op ops rest hstack =>
    have cost := load_perform stock op { r with stack := .script ops :: rest }
    have paid : ({ r with stack := .script ops :: rest } : Run σ).load stock + op.weight
        = r.load stock := by
      simp only [load, hstack, framesWeight_cons, Frame.weight, scriptWeight]
      omega
    rw [paid] at cost
    split at hs
    all_goals
      rename_i hp
      cases hs
      rw [hp] at cost
      exact cost
  case h_4 rest hstack =>
    cases hs
    simp [load, hstack, Frame.weight, callsWeight]
  case h_5 call calls rest hstack =>
    have answer := bounded call r.host
    -- the weight of the call pays for the frame of the answer
    generalize h.react call r.host = reply at hs answer
    cases hs
    simp only [load, note, hstack, framesWeight_cons, Frame.weight, callsWeight, List.length_cons]
    omega
  case h_6 target rest hstack =>
    split at hs <;> rename_i hpop
    · cases hs
      simp [load, VirtualClock.arrive, hstack, Frame.weight]
    · rename_i w clock
      cases hs
      have cost := load_fire stock w.payload { r with clock }
      have due := timersWeight_popDue hpop
      simp only [load] at cost ⊢
      omega

/-- **Every run ends** within as many steps as its load. -/
theorem stack_runFor {h : Host σ} (bounded : h.Bounded stock) {n : Nat} {r : Run σ}
    (enough : r.load stock ≤ n) : (r.runFor h n).stack = [] := by
  induction n generalizing r with
  | zero =>
    rw [runFor, ← @step_none_iff _ h]
    cases hs : r.step h with
    | none => rfl
    | some r' =>
      have less := load_step bounded hs
      omega
  | succ n ih =>
    rw [runFor]
    cases hs : r.step h with
    | none => exact step_none_iff.mp hs
    | some r' =>
      have less := load_step bounded hs
      exact ih (by omega)

end Run

/-! ### Scripted hosts -/

theorem reactionsWeight_takeReaction (kind : CallKind) (rs : List Reaction) :
    reactionsWeight (takeReaction kind rs).1 + scriptWeight (takeReaction kind rs).2
      ≤ reactionsWeight rs + 1 := by
  induction rs with
  | nil => exact Nat.le_refl _
  | cons x rs ih =>
    rw [takeReaction]
    split
    · simp only [reactionsWeight_cons]
      omega
    · simp only [reactionsWeight_cons]
      omega

theorem Host.scripted_bounded : Host.scripted.Bounded reactionsWeight :=
  fun call rs => reactionsWeight_takeReaction call.kind rs

/-- A run with prepared reactions comes to its end. -/
theorem Run.stack_settle (r : Run (List Reaction)) : r.settle.stack = [] :=
  stack_runFor Host.scripted_bounded (Nat.le_refl r.weight)

end ResourceCatalog.Sync
