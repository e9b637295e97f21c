/-
  ResourceCatalog/Proofs/Timer/Agreement.lean
  ===========================================
  **The timers of a browser and those of a clock moved by hand.**

  The two keep different books.  The clock that is moved by hand drops a timer before its
  payload runs, and drops whatever it is told to cancel.  Over the timeouts of a browser
  there is a table, in which a timer stays while its payload runs, and in which it is only
  marked after that until the next timer is scheduled; and only what is in the table and
  not marked can be cancelled.

  What is common to them is kept by every operation (`Agree`): a timeout that waits is in
  the table and not marked, and what has fired waits no more.

  A browser's clock moves by whole ticks.  What is left of the durations of a program then
  is the program `onTicks`, which is the same if they are whole ticks already, as all are
  for a clock that counts as finely as time does.
-/
import ResourceCatalog.Proofs.Timer.Machine
import ResourceCatalog.Proofs.Timer.Timeouts

namespace ResourceCatalog.Timer

/-! ### Delays and durations -/

mutual

/-- All delays and durations in an operation, at any depth, are of a kind. -/
def Op.Every (delays durations : Nat → Prop) : Op → Prop
  | .after _ delay run => delays delay ∧ scriptEvery delays durations run
  | .cancel _ => True
  | .advance duration => durations duration

def scriptEvery (delays durations : Nat → Prop) : List Op → Prop
  | [] => True
  | op :: ops => op.Every delays durations ∧ scriptEvery delays durations ops

end

/-- A delay in whole milliseconds that a browser takes. -/
def Fits (delay : Nat) : Prop := milliseconds 1 ∣ delay ∧ delay ≤ milliseconds BrowserClock.maxDelay

def ScriptFits (ops : List Op) : Prop := scriptEvery Fits (fun _ => True) ops

/-- What is left of a duration on a clock that moves by whole ticks. -/
def wholeTicks (tick duration : Nat) : Nat :=
  if duration ≤ endOfTime then duration / tick * tick else duration

mutual

/-- The operation with its durations in whole ticks. -/
def Op.onTicks (tick : Nat) : Op → Op
  | .after name delay run => .after name delay (scriptOnTicks tick run)
  | .cancel handle => .cancel handle
  | .advance duration => .advance (wholeTicks tick duration)

def scriptOnTicks (tick : Nat) : List Op → List Op
  | [] => []
  | op :: ops => op.onTicks tick :: scriptOnTicks tick ops

end

def Job.onTicks (tick : Nat) (job : Job) : Job := ⟨job.name, scriptOnTicks tick job.run⟩

def Frame.onTicks (tick : Nat) : Frame → Frame
  | .script ops => .script (scriptOnTicks tick ops)
  | .running handle => .running handle
  | .advancing target => .advancing target

mutual

theorem Op.every_of_forall {delays durations : Nat → Prop} (anyDelay : ∀ d, delays d)
    (anyDuration : ∀ d, durations d) : (op : Op) → op.Every delays durations
  | .after _ delay run => ⟨anyDelay delay, scriptEvery_of_forall anyDelay anyDuration run⟩
  | .cancel _ => trivial
  | .advance duration => anyDuration duration

theorem scriptEvery_of_forall {delays durations : Nat → Prop} (anyDelay : ∀ d, delays d)
    (anyDuration : ∀ d, durations d) : (ops : List Op) → scriptEvery delays durations ops
  | [] => trivial
  | op :: ops => ⟨op.every_of_forall anyDelay anyDuration,
      scriptEvery_of_forall anyDelay anyDuration ops⟩

end

theorem wholeTicks_of_dvd {tick duration : Nat} (whole : tick ∣ duration) :
    wholeTicks tick duration = duration := by
  rw [wholeTicks, Nat.div_mul_cancel whole, ite_self]

mutual

theorem Op.onTicks_eq_self {tick : Nat} : (op : Op) →
    op.Every (fun _ => True) (tick ∣ ·) → op.onTicks tick = op
  | .after name delay run, whole => by
    rw [Op.onTicks, scriptOnTicks_eq_self run whole.2]
  | .cancel handle, _ => rfl
  | .advance duration, whole => by
    rw [Op.onTicks, wholeTicks_of_dvd whole]

theorem scriptOnTicks_eq_self {tick : Nat} : (ops : List Op) →
    scriptEvery (fun _ => True) (tick ∣ ·) ops → scriptOnTicks tick ops = ops
  | [], _ => rfl
  | op :: ops, whole => by
    rw [scriptOnTicks, Op.onTicks_eq_self op whole.1, scriptOnTicks_eq_self ops whole.2]

end

mutual

theorem Op.weight_onTicks (tick : Nat) : (op : Op) → (op.onTicks tick).weight = op.weight
  | .after name delay run => by
    rw [Op.onTicks, Op.weight, Op.weight, scriptWeight_onTicks tick run]
  | .cancel handle => rfl
  | .advance duration => rfl

theorem scriptWeight_onTicks (tick : Nat) : (ops : List Op) →
    scriptWeight (scriptOnTicks tick ops) = scriptWeight ops
  | [] => rfl
  | op :: ops => by
    rw [scriptOnTicks, scriptWeight, scriptWeight, Op.weight_onTicks tick op,
      scriptWeight_onTicks tick ops]

end

theorem Frame.weight_onTicks (tick : Nat) (frame : Frame) :
    (frame.onTicks tick).weight = frame.weight := by
  cases frame with
  | script ops => exact scriptWeight_onTicks tick ops
  | running handle => rfl
  | advancing target => rfl

namespace BrowserClock

theorem wholeDelay_of_fits {delay : Nat} (fits : Fits delay) : wholeDelay delay = delay := by
  obtain ⟨⟨k, rfl⟩, few⟩ := fits
  simp only [wholeDelay, milliseconds] at few ⊢
  omega

/-- A delay that a browser takes leads to where it leads on a clock moved by hand. -/
theorem deadline?_of_fits {delay : Nat} (fits : Fits delay) (clock : BrowserClock Job) :
    clock.deadline? delay = inTime? (clock.now + delay) := by
  rw [deadline?, inTime?]
  split
  · rw [Option.bind_some, wholeDelay_of_fits fits]
  · rw [Option.bind_none, inTime?, if_neg (by omega)]

theorem horizon?_eq (duration : Nat) (clock : BrowserClock Job) :
    clock.horizon? duration = inTime? (clock.now + wholeTicks clock.tick duration) := by
  rw [horizon?, inTime?, wholeTicks]
  split
  · rw [Option.bind_some]
  · rw [Option.bind_none, inTime?, if_neg (by omega)]

end BrowserClock

/-! ### Two clocks that agree -/

/-- A browser with no timer, at the start of time, whose clock moves by ticks. -/
def browser (tick : Nat) : BrowserClock Job := { (Scheduler.initial : BrowserClock Job) with tick }

example : browser (milliseconds 1) = Scheduler.initial := rfl

/-- The browser and the clock moved by hand show the same time, have given out the same
    handles, and the same timers wait; and each of them can be cancelled in either. -/
structure Agree (tick : Nat) (b : BrowserClock Job) (v : VirtualClock Job) : Prop where
  counts : b.tick = tick
  now : v.now = b.now
  issued : v.issued = b.issued
  waiting : v.waiting = b.timeouts.map (Waiting.map (Job.onTicks tick))
  owned : Owned (fun _ => false) none b.issued b.timeouts
  live : ∀ w ∈ b.timeouts, b.isLive w.handle = true
  fits : ∀ w ∈ b.timeouts, ScriptFits w.payload.run

/-- A handle that was given out and with which no timeout waits. -/
def Spent (handle : Handle) (b : BrowserClock Job) : Prop :=
  handle ≤ b.issued ∧ ∀ w ∈ b.timeouts, w.handle ≠ handle

theorem Spent.mono {b b' : BrowserClock Job} {handle : Handle} (spent : Spent handle b)
    (more : b.issued ≤ b'.issued)
    (new : ∀ w ∈ b'.timeouts, w ∈ b.timeouts ∨ b.issued < w.handle) : Spent handle b' := by
  refine ⟨Nat.le_trans spent.1 more, ?_⟩
  intro w hw
  rcases new w hw with old | given
  · exact spent.2 w old
  · exact Nat.ne_of_gt (Nat.lt_of_le_of_lt spent.1 given)

theorem Spent.schedule {b : BrowserClock Job} {handle : Handle} (spent : Spent handle b)
    (delay : Nat) (job : Job) : Spent handle (b.schedule delay job).1 := by
  rw [BrowserClock.schedule]
  cases b.deadline? delay with
  | none => exact spent.mono (Nat.le_succ _) (fun w hw => Or.inl hw)
  | some deadline =>
    refine spent.mono (Nat.le_succ _) ?_
    intro w hw
    rcases mem_enqueue.mp hw with rfl | old
    · exact Or.inr (Nat.lt_succ_self _)
    · exact Or.inl old

theorem Spent.cancel {b : BrowserClock Job} {handle : Handle} (spent : Spent handle b)
    (x : Handle) : Spent handle (b.cancel x) := by
  rw [BrowserClock.cancel]
  split
  · exact spent.mono (Nat.le_refl _) (fun w hw => Or.inl (mem_dequeue.mp hw).1)
  · exact spent

/-- What is under way can go on: scripts have delays that a browser takes, and no timer
    waits whose payload runs. -/
def Frame.Ready (b : BrowserClock Job) : Frame → Prop
  | .script ops => ScriptFits ops
  | .running handle => Spent handle b
  | .advancing _ => True

/-- No handle that was spent comes back. -/
def KeepsSpent (b b' : BrowserClock Job) : Prop := ∀ handle, Spent handle b → Spent handle b'

theorem Frame.Ready.mono {b b' : BrowserClock Job} {frame : Frame} (ready : frame.Ready b)
    (kept : KeepsSpent b b') : frame.Ready b' := by
  cases frame with
  | script ops => exact ready
  | running handle => exact kept handle ready
  | advancing target => trivial

namespace Agree

variable {tick : Nat} {b : BrowserClock Job} {v : VirtualClock Job}

theorem initial (tick : Nat) :
    Agree tick (browser tick) Scheduler.initial where
  counts := rfl
  now := rfl
  issued := rfl
  waiting := rfl
  owned := Owned.nil _
  live w hw := by cases hw
  fits w hw := by cases hw

/-- A timer is given the same handle, or refused, in both. -/
theorem schedule (a : Agree tick b v) {delay : Nat} {job : Job} (fits : Fits delay)
    (jobFits : ScriptFits job.run) :
    (v.schedule delay (job.onTicks tick)).2 = (b.schedule delay job).2 ∧
      Agree tick (b.schedule delay job).1 (v.schedule delay (job.onTicks tick)).1 := by
  have same : v.now + delay = b.now + delay := by rw [a.now]
  rw [BrowserClock.schedule, VirtualClock.schedule, BrowserClock.deadline?_of_fits fits, same]
  cases inTime? (b.now + delay) with
  | none =>
    refine ⟨rfl, a.counts, a.now, congrArg (· + 1) a.issued, a.waiting,
      a.owned.issue (Nat.le_succ _), ?_, a.fits⟩
    intro w hw
    rw [BrowserClock.isLive_iff, BrowserClock.isLive_prune rfl]
    exact a.live w hw
  | some deadline =>
    refine ⟨congrArg (fun n => some (n + 1)) a.issued, a.counts, a.now, congrArg (· + 1) a.issued,
      ?_, a.owned.join rfl rfl, ?_, ?_⟩
    · rw [map_enqueue, ← a.waiting, a.issued]
      rfl
    · intro w hw
      rw [BrowserClock.isLive_iff]
      rcases mem_enqueue.mp hw with rfl | old
      · exact ⟨⟨b.issued + 1, false⟩, List.mem_append_right _ List.mem_cons_self, rfl, rfl⟩
      · obtain ⟨t, ht, named⟩ := (BrowserClock.isLive_prune rfl).mpr (a.live w old)
        exact ⟨t, List.mem_append_left _ ht, named⟩
    · intro w hw
      rcases mem_enqueue.mp hw with rfl | old
      · exact jobFits
      · exact a.fits w old

/-- To cancel what does not wait does nothing in either. -/
theorem cancel (a : Agree tick b v) (handle : Handle) :
    Agree tick (b.cancel handle) (v.cancel handle) := by
  by_cases live : b.isLive handle = true
  · have taken : b.cancel handle =
        { b with table := b.table.filter (fun t => t.handle ≠ handle),
                 timeouts := dequeue handle b.timeouts } := if_pos live
    have stillLive : ∀ w ∈ dequeue handle b.timeouts, (b.cancel handle).isLive w.handle = true := by
      intro w hw
      obtain ⟨old, other⟩ := mem_dequeue.mp hw
      exact BrowserClock.isLive_cancel.mpr ⟨a.live w old, other⟩
    rw [taken] at stillLive ⊢
    refine ⟨a.counts, a.now, a.issued, ?_, a.owned.cancel (by simp), stillLive, ?_⟩
    · rw [map_dequeue, ← a.waiting]
      rfl
    · intro w hw
      exact a.fits w (mem_dequeue.mp hw).1
  · have passed : b.cancel handle = b := if_neg live
    have absent : ∀ w ∈ v.waiting, w.handle ≠ handle := by
      intro w hw
      rw [a.waiting] at hw
      obtain ⟨u, hu, rfl⟩ := List.mem_map.mp hw
      rintro rfl
      exact live (a.live u hu)
    have kept : v.cancel handle = v :=
      congrArg (fun waiting => { v with waiting }) (dequeue_eq_self absent)
    rw [passed, kept]
    exact a

theorem horizon (a : Agree tick b v) (duration : Nat) :
    v.horizon? (wholeTicks tick duration) = b.horizon? duration := by
  rw [BrowserClock.horizon?_eq, VirtualClock.horizon?, a.now, a.counts]

theorem arrive (a : Agree tick b v) (target : Nat) :
    Agree tick (b.arrive target) (v.arrive target) :=
  ⟨a.counts, rfl, a.issued, a.waiting, a.owned, a.live, a.fits⟩

/-- A payload that has run to its end makes no difference to the timers that wait. -/
theorem finish (a : Agree tick b v) {handle : Handle} (spent : Spent handle b) :
    Agree tick (b.finish handle) v := by
  refine ⟨a.counts, a.now, a.issued, a.waiting, a.owned, ?_, a.fits⟩
  intro w hw
  exact BrowserClock.isLive_finish.mpr ⟨a.live w hw, spent.2 w hw⟩

theorem firstDue? (a : Agree tick b v) (target : Nat) :
    firstDue? target v.waiting = (Timer.firstDue? target b.timeouts).map
      (fun due => (due.1.map (Job.onTicks tick), due.2.map (Waiting.map (Job.onTicks tick)))) := by
  rw [a.waiting, firstDue?_map]

/-- The timer that fires waits no more. -/
theorem fire (a : Agree tick b v) {w : Waiting Job} {rest : List (Waiting Job)}
    (first : b.timeouts = w :: rest) :
    Agree tick { b with now := w.deadline, timeouts := rest }
        { v with now := w.deadline, waiting := rest.map (Waiting.map (Job.onTicks tick)) } ∧
      Spent w.handle { b with now := w.deadline, timeouts := rest } ∧ ScriptFits w.payload.run := by
  have owned := a.owned
  have live := a.live
  have fits := a.fits
  rw [first] at owned live fits
  refine ⟨⟨a.counts, rfl, a.issued, rfl, owned.pass rfl, ?_, ?_⟩, ⟨?_, ?_⟩, ?_⟩
  · exact fun u hu => live u (List.mem_cons_of_mem _ hu)
  · exact fun u hu => fits u (List.mem_cons_of_mem _ hu)
  · exact owned.below w List.mem_cons_self
  · intro u hu same
    have distinct := (List.nodup_cons.mp owned.distinct).1
    exact distinct (List.mem_map.mpr ⟨u, hu, same⟩)
  · exact fits w List.mem_cons_self

end Agree

end ResourceCatalog.Timer
