/-
  ResourceCatalog/Proofs/Timer/Machine.lean
  =========================================
  **The steps of a machine of timers.**

  A step looks at the clock and the innermost frame only: `act` is what it does for that
  frame, whatever lies below.  So each fact about a run is one about the five shapes that
  a frame can have.

  On a clock that is moved by hand every step lowers the weight of the machine, and a
  machine that is given its weight in fuel comes to its end.  So an advance, too, comes
  to where nothing more is due (`exists_drains`), by steps that it shares with every
  longer advance.
-/
import ResourceCatalog.Proofs.Timer.Queue
import ResourceCatalog.Timer.Program

namespace ResourceCatalog.Timer

namespace Machine

/-! ### One step -/

section Steps

variable {S : Type → Type} [Scheduler S]

/-- A machine that is about to run a program. -/
def start (clock : S Job) (ops : List Op) : Machine S := { clock, stack := [.script ops] }

/-- What a step does for the innermost frame: the clock after it, what is noted, and what
    takes the place of the frame. -/
def act (frame : Frame) (clock : S Job) : S Job × List Record × List Frame :=
  match frame with
  | .script [] => (clock, [], [])
  | .script (op :: ops) =>
    let (clock, result, frames) := perform op clock
    (clock, result.toList, frames ++ [.script ops])
  | .running handle => (Scheduler.finish handle clock, [], [])
  | .advancing target =>
    match Scheduler.popDue target clock with
    | none => (Scheduler.arrive target clock, [], [])
    | some (w, clock) =>
      (clock, [.fired w.payload.name],
       [.script w.payload.run, .running w.handle, .advancing target])

/-- The operation gives back a handle, or that it would have led past the end of time. -/
theorem perform_after (name : String) (delay : Nat) (run : List Op) (clock : S Job) :
    perform (.after name delay run) clock =
      ((Scheduler.schedule delay ⟨name, run⟩ clock).1,
       some (((Scheduler.schedule delay ⟨name, run⟩ clock).2.map Record.scheduled).getD .overflow),
       []) := by
  rw [perform]
  generalize Scheduler.schedule delay (⟨name, run⟩ : Job) clock = result
  obtain ⟨clock', given⟩ := result
  cases given with
  | none => rfl
  | some handle => rfl

/-- An advance is begun, or would have led past the end of time. -/
theorem perform_advance_eq (duration : Nat) (clock : S Job) :
    perform (.advance duration) clock =
      (clock, if (Scheduler.horizon? duration clock).isSome then none else some .overflow,
       (Scheduler.horizon? duration clock).toList.map .advancing) := by
  rw [perform]
  cases Scheduler.horizon? duration clock with
  | none => rfl
  | some target => rfl

theorem act_script_cons (op : Op) (ops : List Op) (clock : S Job) :
    act (.script (op :: ops)) clock = ((perform op clock).1, (perform op clock).2.1.toList,
      (perform op clock).2.2 ++ [.script ops]) := rfl

theorem step_nil (clock : S Job) (log : List Record) :
    (⟨clock, log, []⟩ : Machine S).step = none := rfl

/-- A step looks at the innermost frame only. -/
theorem step_cons (clock : S Job) (log : List Record) (frame : Frame) (rest : List Frame) :
    (⟨clock, log, frame :: rest⟩ : Machine S).step =
      some ⟨(act frame clock).1, (act frame clock).2.1 ++ log, (act frame clock).2.2 ++ rest⟩ := by
  cases frame with
  | script ops =>
    cases ops with
    | nil => rfl
    | cons op ops => simp [step, act]
  | running handle => rfl
  | advancing target =>
    simp only [step, act]
    cases Scheduler.popDue target clock with
    | none => rfl
    | some due => rfl

theorem step_of_stack {m : Machine S} {frame : Frame} {rest : List Frame}
    (stack : m.stack = frame :: rest) :
    m.step = some ⟨(act frame m.clock).1, (act frame m.clock).2.1 ++ m.log,
      (act frame m.clock).2.2 ++ rest⟩ := by
  obtain ⟨clock, log, _⟩ := m
  cases stack
  exact step_cons clock log frame rest

theorem step_none_iff {m : Machine S} : m.step = none ↔ m.stack = [] := by
  obtain ⟨clock, log, stack⟩ := m
  cases stack with
  | nil => simp [step_nil]
  | cons frame rest => simp [step_cons]

/-! ### Several steps -/

@[simp] theorem runFor_zero (m : Machine S) : m.runFor 0 = m := rfl

theorem runFor_cons (n : Nat) (clock : S Job) (log : List Record) (frame : Frame)
    (rest : List Frame) :
    (⟨clock, log, frame :: rest⟩ : Machine S).runFor (n + 1) =
      runFor n ⟨(act frame clock).1, (act frame clock).2.1 ++ log,
        (act frame clock).2.2 ++ rest⟩ := by
  rw [runFor, step_cons]

theorem runFor_of_stack_nil {m : Machine S} (ended : m.stack = []) (n : Nat) : m.runFor n = m := by
  cases n with
  | zero => rfl
  | succ n => rw [runFor, step_none_iff.mpr ended]

theorem runFor_add (m : Machine S) (a b : Nat) : m.runFor (a + b) = (m.runFor a).runFor b := by
  induction a generalizing m with
  | zero => rw [Nat.zero_add, runFor_zero]
  | succ a ih =>
    rw [Nat.succ_add, runFor, runFor]
    cases hs : m.step with
    | none => exact (runFor_of_stack_nil (step_none_iff.mp hs) b).symm
    | some m' => exact ih m'

theorem runFor_succ (m : Machine S) (n : Nat) :
    m.runFor (n + 1) = (m.runFor n).step.getD (m.runFor n) := by
  rw [runFor_add, runFor]
  cases (m.runFor n).step with
  | none => rfl
  | some m' => rfl

theorem runFor_succ_of_stack {m : Machine S} {n : Nat} {frame : Frame} {rest : List Frame}
    (stack : (m.runFor n).stack = frame :: rest) :
    m.runFor (n + 1) = ⟨(act frame (m.runFor n).clock).1,
      (act frame (m.runFor n).clock).2.1 ++ (m.runFor n).log,
      (act frame (m.runFor n).clock).2.2 ++ rest⟩ := by
  rw [runFor_succ, step_of_stack stack, Option.getD_some]

theorem runFor_of_ended {m : Machine S} {n : Nat} (ended : (m.runFor n).stack = []) {k : Nat}
    (later : n ≤ k) : m.runFor k = m.runFor n := by
  obtain ⟨d, rfl⟩ := Nat.exists_eq_add_of_le later
  rw [runFor_add, runFor_of_stack_nil ended]

/-- What was noted before a run has no part in it. -/
theorem runFor_log (n : Nat) (clock : S Job) (log earlier : List Record) (stack : List Frame) :
    (⟨clock, log ++ earlier, stack⟩ : Machine S).runFor n =
      { (⟨clock, log, stack⟩ : Machine S).runFor n with
        log := ((⟨clock, log, stack⟩ : Machine S).runFor n).log ++ earlier } := by
  induction n generalizing clock log stack with
  | zero => rfl
  | succ n ih =>
    cases stack with
    | nil => rfl
    | cons frame rest => rw [runFor_cons, runFor_cons, ← List.append_assoc, ih]

/-- The frame is under way, above what lay below it. -/
def Stands (frame : Frame) (rest : List Frame) (m : Machine S) : Prop :=
  ∃ upper, m.stack = upper ++ frame :: rest

end Steps

/-! ### Advances on a clock that is moved by hand -/

section Advance

variable {clock : VirtualClock Job} {target : Nat}

theorem act_advancing_of_none (none_due : firstDue? target clock.waiting = none) :
    act (.advancing target) clock = ({ clock with now := target }, [], []) := by
  simp only [act, Scheduler.popDue, VirtualClock.popDue, none_due, Scheduler.arrive,
    VirtualClock.arrive]

theorem act_advancing_of_due {w : Waiting Job} {rest : List (Waiting Job)}
    (due : firstDue? target clock.waiting = some (w, rest)) :
    act (.advancing target) clock = ({ clock with now := w.deadline, waiting := rest },
      [.fired w.payload.name],
      [.script w.payload.run, .running w.handle, .advancing target]) := by
  simp only [act, Scheduler.popDue, VirtualClock.popDue, due]

theorem perform_advance {duration : Nat} (inTime : clock.now + duration ≤ endOfTime) :
    perform (.advance duration) clock = (clock, none, [.advancing (clock.now + duration)]) := by
  have led : Scheduler.horizon? duration clock = some (clock.now + duration) := if_pos inTime
  rw [perform_advance_eq, led]
  rfl

end Advance

/-! ### The end of a run -/

section Ending

def waitingLoad (clock : VirtualClock Job) : Nat := totalWeight waitingWeight clock.waiting

theorem waitingLoad_schedule_le (delay : Nat) (job : Job) (clock : VirtualClock Job) :
    waitingLoad (clock.schedule delay job).1 ≤ scriptWeight job.run + 3 + waitingLoad clock := by
  unfold VirtualClock.schedule
  cases inTime? (clock.now + delay) with
  | none => exact Nat.le_add_left _ _
  | some deadline => exact Nat.le_of_eq (totalWeight_enqueue waitingWeight _ _)

theorem waitingLoad_of_due {target : Nat} {clock : VirtualClock Job} {w : Waiting Job}
    {rest : List (Waiting Job)} (due : firstDue? target clock.waiting = some (w, rest))
    (now : Nat) :
    waitingLoad clock =
      scriptWeight w.payload.run + 3 + waitingLoad { clock with now, waiting := rest } := by
  rw [waitingLoad, eq_cons_of_firstDue? due]
  rfl

theorem load_perform_lt (op : Op) (clock : VirtualClock Job) :
    totalWeight Frame.weight (perform op clock).2.2 + waitingLoad (perform op clock).1
      < op.weight + waitingLoad clock := by
  cases op with
  | after name delay run =>
    have load := waitingLoad_schedule_le delay ⟨name, run⟩ clock
    dsimp only at load
    simp only [perform_after, Scheduler.schedule, totalWeight_nil, Op.weight]
    omega
  | cancel handle =>
    have load : waitingLoad (clock.cancel handle) ≤ waitingLoad clock :=
      totalWeight_dequeue_le waitingWeight handle clock.waiting
    simp only [perform, Scheduler.cancel, totalWeight_nil, Op.weight]
    omega
  | advance duration =>
    rw [perform_advance_eq, Op.weight]
    cases Scheduler.horizon? duration clock with
    | none =>
      simp only [Option.toList_none, List.map_nil, totalWeight_nil]
      omega
    | some target =>
      simp only [Option.toList_some, List.map_cons, List.map_nil, totalWeight_cons,
        totalWeight_nil, Frame.weight]
      omega

theorem load_act_lt (frame : Frame) (clock : VirtualClock Job) :
    totalWeight Frame.weight (act frame clock).2.2 + waitingLoad (act frame clock).1
      < frame.weight + waitingLoad clock := by
  cases frame with
  | script ops =>
    cases ops with
    | nil =>
      simp only [act, totalWeight_nil, Frame.weight, scriptWeight]
      omega
    | cons op ops =>
      have load := load_perform_lt op clock
      simp only [act_script_cons, totalWeight_append, totalWeight_cons, totalWeight_nil,
        Frame.weight, scriptWeight]
      omega
  | running handle =>
    simp only [act, Scheduler.finish, totalWeight_nil, Frame.weight]
    omega
  | advancing target =>
    cases due : firstDue? target clock.waiting with
    | none =>
      have same : waitingLoad { clock with now := target } = waitingLoad clock := rfl
      rw [act_advancing_of_none due]
      simp only [totalWeight_nil, Frame.weight, same]
      omega
    | some first =>
      obtain ⟨w, rest⟩ := first
      have load := waitingLoad_of_due due w.deadline
      rw [act_advancing_of_due due]
      simp only [totalWeight_cons, totalWeight_nil, Frame.weight]
      omega

theorem weight_step_lt {m m' : Machine VirtualClock} (hs : m.step = some m') :
    m'.weight < m.weight := by
  obtain ⟨clock, log, stack⟩ := m
  cases stack with
  | nil => cases hs
  | cons frame rest =>
    rw [step_cons] at hs
    cases hs
    have load := load_act_lt frame clock
    simp only [waitingLoad] at load
    simp only [weight, Scheduler.waiting, totalWeight_append, totalWeight_cons]
    omega

theorem stack_runFor_of_weight_le {m : Machine VirtualClock} {n : Nat} (fuel : m.weight ≤ n) :
    (m.runFor n).stack = [] := by
  induction n generalizing m with
  | zero =>
    rw [runFor_zero, ← step_none_iff]
    cases hs : m.step with
    | none => rfl
    | some m' =>
      have lower := weight_step_lt hs
      omega
  | succ n ih =>
    rw [runFor]
    cases hs : m.step with
    | none => exact step_none_iff.mp hs
    | some m' =>
      have lower := weight_step_lt hs
      exact ih (by omega)

/-- **A machine comes to its end.** -/
theorem stack_settle (m : Machine VirtualClock) : m.settle.stack = [] :=
  stack_runFor_of_weight_le (Nat.le_refl _)

theorem settle_eq_of_ended {m : Machine VirtualClock} {n : Nat} (ended : (m.runFor n).stack = []) :
    m.settle = m.runFor n := by
  rcases Nat.le_total m.weight n with enough | short
  · exact (runFor_of_ended (stack_settle m) enough).symm
  · exact runFor_of_ended ended short

/-! ### An advance comes to where nothing is due -/

/-- What stands above an advance, and the timers due by a time, run to their end in `n` steps.
    The steps are the same for every advance to that time or a later one, whatever lies below
    it, and none of them takes the advance itself away. -/
structure Drains (t : Nat) (upper : List Frame) (clock : VirtualClock Job) (log : List Record)
    (n : Nat) (clock' : VirtualClock Job) (log' : List Record) : Prop where
  none_due : firstDue? t clock'.waiting = none
  runs : ∀ target, t ≤ target → ∀ rest,
    (⟨clock, log, upper ++ .advancing target :: rest⟩ : Machine VirtualClock).runFor n =
      ⟨clock', log', .advancing target :: rest⟩
  stands : ∀ target, t ≤ target → ∀ rest, ∀ k ≤ n, Stands (.advancing target) rest
    ((⟨clock, log, upper ++ .advancing target :: rest⟩ : Machine VirtualClock).runFor k)

namespace Drains

variable {t n : Nat} {upper upper' : List Frame} {clock clock' c : VirtualClock Job}
  {log log' l : List Record}

theorem nil (none_due : firstDue? t clock.waiting = none) : Drains t [] clock log 0 clock log where
  none_due := none_due
  runs _ _ _ := rfl
  stands target _ rest k hk := by
    rw [Nat.le_zero.mp hk]
    exact ⟨[], rfl⟩

theorem cons
    (hs : ∀ target, t ≤ target → ∀ rest,
      (⟨clock, log, upper ++ .advancing target :: rest⟩ : Machine VirtualClock).step =
        some ⟨clock', log', upper' ++ .advancing target :: rest⟩)
    (d : Drains t upper' clock' log' n c l) : Drains t upper clock log (n + 1) c l where
  none_due := d.none_due
  runs target later rest := by
    rw [runFor, hs target later rest]
    exact d.runs target later rest
  stands target later rest k hk := by
    cases k with
    | zero => exact ⟨upper, rfl⟩
    | succ k =>
      rw [runFor, hs target later rest]
      exact d.stands target later rest k (Nat.le_of_succ_le_succ hk)

theorem behind (d : Drains t upper clock log n c l) (earlier : List Record) :
    Drains t upper clock (log ++ earlier) n c (l ++ earlier) where
  none_due := d.none_due
  runs target later rest := by
    rw [runFor_log, d.runs target later rest]
  stands target later rest k hk := by
    rw [runFor_log]
    exact d.stands target later rest k hk

end Drains

theorem exists_drains (t : Nat) (upper : List Frame) (clock : VirtualClock Job)
    (log : List Record) : ∃ n clock' log', Drains t upper clock log n clock' log' := by
  -- the weight of what stands above, and of the timers that wait, carries the induction
  induction hw : totalWeight Frame.weight upper + waitingLoad clock using Nat.strongRecOn
    generalizing upper clock log with
  | ind w ih =>
    cases upper with
    | cons frame upper =>
      have load := load_act_lt frame clock
      have lower : totalWeight Frame.weight ((act frame clock).2.2 ++ upper)
          + waitingLoad (act frame clock).1 < w := by
        rw [← hw, totalWeight_append, totalWeight_cons]
        omega
      obtain ⟨n, c, l, d⟩ := ih _ lower _ _ ((act frame clock).2.1 ++ log) rfl
      refine ⟨n + 1, c, l, d.cons ?_⟩
      intro target _ rest
      rw [List.cons_append, step_cons, List.append_assoc]
    | nil =>
      -- the advance itself is innermost, and takes out a timer if it is due by `t`
      cases due : firstDue? t clock.waiting with
      | none => exact ⟨0, clock, log, .nil due⟩
      | some first =>
        obtain ⟨v, vs⟩ := first
        have load := waitingLoad_of_due due v.deadline
        have lower : totalWeight Frame.weight [.script v.payload.run, .running v.handle]
            + waitingLoad { clock with now := v.deadline, waiting := vs } < w := by
          rw [← hw, load]
          simp only [totalWeight_cons, totalWeight_nil, Frame.weight]
          omega
        obtain ⟨n, c, l, d⟩ := ih _ lower _ _ (.fired v.payload.name :: log) rfl
        refine ⟨n + 1, c, l, d.cons ?_⟩
        intro target later rest
        rw [List.nil_append, step_cons, act_advancing_of_due (firstDue?_mono later due)]
        rfl

end Ending

end Machine

end ResourceCatalog.Timer
