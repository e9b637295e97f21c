/-
  ResourceCatalog/Proofs/Timer/Termination.lean
  =============================================
  **Every advance comes back, and no timer fires that was not asked for.**

  An advance goes on for as long as it finds a timer due, and the timers that fire may set
  others inside its window or drain the same queue by advances of their own.  It comes back
  all the same: with every timer that fires, one of the operations that schedule timers is
  used up for good.

  So the timers that fire are counted against these operations (`Op.afters`), wherever they
  stand in a program.  What has fired and what can still fire together never grow: an
  operation passes its share on to the timer that it schedules, and a timer that fires
  passes what is left on to what it runs (`afters_act_le`).
-/
import ResourceCatalog.Proofs.Timer.Accounting

namespace ResourceCatalog.Timer

/-! ### Operations that schedule timers -/

mutual

/-- How many operations that schedule a timer an operation is made of. -/
def Op.afters : Op → Nat
  | .after _ _ run => scriptAfters run + 1
  | .cancel _ => 0
  | .advance _ => 0

/-- How many operations that schedule a timer stand in a program, to any depth. -/
def scriptAfters : List Op → Nat
  | [] => 0
  | op :: ops => op.afters + scriptAfters ops

end

/-- Those that are still to be carried out for a frame. -/
def Frame.afters : Frame → Nat
  | .script ops => scriptAfters ops
  | .running _ => 0
  | .advancing _ => 0

/-- A timer that waits stands for the operation that has scheduled it, and for those that it
    runs when it fires. -/
def waitingAfters (w : Waiting Job) : Nat := scriptAfters w.payload.run + 1

def Record.isFiring : Record → Bool
  | .fired _ => true
  | _ => false

/-- How many timers have fired. -/
def firings (log : List Record) : Nat := log.countP Record.isFiring

@[simp] theorem firings_nil : firings [] = 0 := rfl

@[simp] theorem firings_fired (name : String) : firings [.fired name] = 1 := rfl

@[simp] theorem firings_append (log more : List Record) :
    firings (log ++ more) = firings log + firings more := List.countP_append

namespace Machine

/-! ### What can still fire -/

/-- The operations that can still lead to a timer that fires. -/
def owed (m : Machine VirtualClock) : Nat :=
  totalWeight Frame.afters m.stack + totalWeight waitingAfters m.clock.waiting

theorem afters_perform_le (op : Op) (clock : VirtualClock Job) :
    firings (perform op clock).2.1.toList + totalWeight Frame.afters (perform op clock).2.2
        + totalWeight waitingAfters (perform op clock).1.waiting
      ≤ op.afters + totalWeight waitingAfters clock.waiting := by
  cases op with
  | after name delay run =>
    rw [perform_after]
    simp only [Scheduler.schedule, VirtualClock.schedule, Op.afters]
    cases inTime? (clock.now + delay) with
    | none => simp [firings, Record.isFiring]
    | some deadline =>
      -- the timer waits in the place of the operation
      simp [firings, Record.isFiring, totalWeight_enqueue, waitingAfters]
  | cancel handle =>
    have fewer := totalWeight_dequeue_le waitingAfters handle clock.waiting
    simpa [perform, Scheduler.cancel, VirtualClock.cancel, Op.afters] using fewer
  | advance duration =>
    rw [perform_advance_eq]
    cases Scheduler.horizon? duration clock with
    | none => simp [firings, Record.isFiring, Op.afters]
    | some target => simp [Frame.afters, Op.afters]

/-- **Nothing fires out of turn**: what a step fires, and what can still fire after it, could
    fire before it. -/
theorem afters_act_le (frame : Frame) (clock : VirtualClock Job) :
    firings (act frame clock).2.1 + totalWeight Frame.afters (act frame clock).2.2
        + totalWeight waitingAfters (act frame clock).1.waiting
      ≤ frame.afters + totalWeight waitingAfters clock.waiting := by
  cases frame with
  | script ops =>
    cases ops with
    | nil => simp [act, Frame.afters, scriptAfters]
    | cons op ops =>
      have share := afters_perform_le op clock
      simp only [act_script_cons, totalWeight_append, totalWeight_cons, totalWeight_nil,
        Frame.afters, scriptAfters]
      omega
  | running handle => simp [act, Scheduler.finish, Frame.afters]
  | advancing target =>
    cases due : firstDue? target clock.waiting with
    | none =>
      rw [act_advancing_of_none due]
      simp [Frame.afters]
    | some first =>
      obtain ⟨w, rest⟩ := first
      rw [act_advancing_of_due due, eq_cons_of_firstDue? due]
      simp only [firings_fired, totalWeight_cons, totalWeight_nil, Frame.afters, waitingAfters]
      omega

theorem firings_runFor_le (m : Machine VirtualClock) (n : Nat) :
    firings (m.runFor n).log + (m.runFor n).owed ≤ firings m.log + m.owed := by
  induction n with
  | zero => exact Nat.le_refl _
  | succ n ih =>
    cases stack : (m.runFor n).stack with
    | nil => rwa [runFor_of_ended stack (Nat.le_succ n)]
    | cons frame rest =>
      have share := afters_act_le frame (m.runFor n).clock
      rw [runFor_succ_of_stack stack]
      simp only [owed, stack, totalWeight_cons] at ih
      simp only [owed, firings_append, totalWeight_append]
      omega

/-! ### Programs one after the other -/

/-- The machine is about to run a program, and leaves what was under way. -/
def beginning (ops : List Op) (m : Machine VirtualClock) : Machine VirtualClock :=
  { m with stack := [.script ops] }

/-- What programs lead to that are run one after the other, each to its end or to any moment
    before it, with the number of operations in them that schedule timers. -/
inductive Reached : Nat → Machine VirtualClock → Prop where
  | initial : Reached 0 initial
  | run {afters : Nat} {m : Machine VirtualClock} (before : Reached afters m) (ops : List Op)
      (n : Nat) : Reached (afters + scriptAfters ops) ((m.beginning ops).runFor n)

theorem Reached.firings_le {afters : Nat} {m : Machine VirtualClock} (reached : Reached afters m) :
    firings m.log + m.owed ≤ afters := by
  induction reached with
  | initial => exact Nat.le_refl _
  | @run afters m before ops n ih =>
    have more := firings_runFor_le (m.beginning ops) n
    simp only [beginning, owed, totalWeight_cons, totalWeight_nil, Frame.afters] at ih more ⊢
    omega

/-! ### Every advance comes back -/

/-- The machine comes to what is to be done next, and until then an advance stands above it. -/
def Returns (m : Machine VirtualClock) (next : List Frame) : Prop :=
  ∃ n, 0 < n ∧ (m.runFor n).stack = next ∧
    ∀ k, 0 < k → k < n → ∃ target, Stands (.advancing target) next (m.runFor k)

theorem returns_of_advance {m : Machine VirtualClock} {duration : Nat} {ops : List Op}
    {rest : List Frame} (stack : m.stack = .script (.advance duration :: ops) :: rest) :
    Returns m (.script ops :: rest) := by
  have first := runFor_succ_of_stack (m := m) (n := 0) stack
  rw [runFor_zero, act_script_cons, perform_advance_eq] at first
  cases led : Scheduler.horizon? duration m.clock with
  | none =>
    -- refused: the operation is over at once
    refine ⟨1, Nat.one_pos, ?_, ?_⟩
    · rw [first, led]
      rfl
    · intro k later earlier
      omega
  | some target =>
    have begins : (m.runFor 1).stack = .advancing target :: .script ops :: rest := by
      rw [first, led]
      rfl
    obtain ⟨n, a⟩ := exists_advances begins
    refine ⟨1 + n, by omega, ?_, ?_⟩
    · rw [runFor_add]
      exact a.returns
    · intro k later earlier
      obtain ⟨j, rfl⟩ : ∃ j, k = 1 + j := Nat.exists_eq_add_of_le later
      rw [runFor_add]
      exact ⟨target, a.stands j (by omega)⟩

/-- **Every advance comes back**, wherever in a program it stands and whatever state the clock
    was in when the program began; so the program comes to its end.  In all, no more timers
    fire than there are operations that schedule one, in this program and in those that led to
    that state. -/
theorem advance_terminates {before : Nat} {m : Machine VirtualClock} (reached : Reached before m)
    (ops : List Op) :
    (∀ i duration next rest,
      ((m.beginning ops).runFor i).stack = .script (.advance duration :: next) :: rest →
      Returns ((m.beginning ops).runFor i) (.script next :: rest)) ∧
    (∃ n, ((m.beginning ops).runFor n).stack = []) ∧
    ∀ n, firings ((m.beginning ops).runFor n).log ≤ before + scriptAfters ops := by
  refine ⟨?_, ⟨_, stack_settle _⟩, ?_⟩
  · intro i duration next rest stack
    exact returns_of_advance stack
  · intro n
    have fired := (reached.run ops n).firings_le
    omega

/-- A timer that, when it fires, sets another one that is due at once and drains the queue. -/
def relay : List Op :=
  [.after "first" 0 [.after "second" 0 [.advance 0], .advance (milliseconds 5)],
   .after "third" (milliseconds 3) []]

/-- The program is left before its timers have fired. -/
def relayed : Machine VirtualClock := (initial.beginning relay).runFor 2

theorem advance_terminates_relayed :
    Reached 3 relayed ∧
      ((relayed.beginning [.advance 0]).runFor 0).stack = [.script [.advance 0]] ∧
      Returns ((relayed.beginning [.advance 0]).runFor 0) [.script []] ∧
      (∃ n, ((relayed.beginning [.advance 0]).runFor n).stack = []) ∧
      firings ((relayed.beginning [.advance 0]).runFor 20).log = 3 ∧
      firings ((relayed.beginning [.advance 0]).runFor 20).log ≤ 3 + scriptAfters [.advance 0] := by
  have reached : Reached 3 relayed := .run .initial relay 2
  obtain ⟨returns, ends, few⟩ := advance_terminates reached [.advance 0]
  exact ⟨reached, rfl, returns 0 0 [] [] rfl, ends, by decide, few 20⟩

end Machine

end ResourceCatalog.Timer
