/-
  ResourceCatalog/Timer/Program.lean
  ==================================
  **Programs of timers that set timers.**

  A program schedules timers, cancels them and advances the clock, and what a
  timer does when it fires is a program again.  A machine runs them in small
  steps with a stack: an advance stays on the stack while the payload of a timer
  that it found due runs, and that payload may advance in its turn.

  Every step lowers the weight of the machine, the operations that it has still
  to run, those inside waiting timers included; so a machine given its weight in
  fuel runs to its end.
-/
import ResourceCatalog.Timer.BrowserClock
import ResourceCatalog.Timer.VirtualClock

namespace ResourceCatalog.Timer

/-- An operation on a clock with timers.  One that is scheduled has a name, and
    runs a program when it fires. -/
inductive Op where
  | after (name : String) (delay : Nat) (run : List Op)
  | cancel (handle : Handle)
  | advance (duration : Nat)
deriving Repr, Inhabited

/-- What a timer does when it fires. -/
structure Job where
  name : String
  run : List Op
deriving Repr

/-- What is noted while a program runs; an `overflow` is an operation that would
    have led past the end of time. -/
inductive Record where
  | fired (name : String)
  | scheduled (handle : Handle)
  | overflow
deriving DecidableEq, Repr

/-- What is under way: operations still to run, a timer whose payload runs above
    this frame, or an advance to a target. -/
inductive Frame where
  | script (ops : List Op)
  | running (handle : Handle)
  | advancing (target : Nat)
deriving Repr

/-- A machine that runs timer programs, with what was noted, latest first, and
    what is under way, innermost first. -/
structure Machine (S : Type → Type) where
  clock : S Job
  log : List Record := []
  stack : List Frame := []

namespace Machine

variable {S : Type → Type} [Scheduler S]

def initial : Machine S := { clock := Scheduler.initial }

/-- Carry out one operation: the clock after it, what it gives back, and what it
    leaves to be done. -/
def perform (op : Op) (clock : S Job) : S Job × Option Record × List Frame :=
  match op with
  | .after name delay run =>
    match Scheduler.schedule delay ⟨name, run⟩ clock with
    | (clock, some handle) => (clock, some (.scheduled handle), [])
    | (clock, none) => (clock, some .overflow, [])
  | .cancel handle => (Scheduler.cancel handle clock, none, [])
  | .advance duration =>
    match Scheduler.horizon? duration clock with
    | some target => (clock, none, [.advancing target])
    | none => (clock, some .overflow, [])

/-- One step; none when nothing is under way. -/
def step (m : Machine S) : Option (Machine S) :=
  match m.stack with
  | [] => none
  | .script [] :: rest => some { m with stack := rest }
  | .script (op :: ops) :: rest =>
    let (clock, result, frames) := perform op m.clock
    some { clock, log := result.toList ++ m.log, stack := frames ++ .script ops :: rest }
  | .running handle :: rest =>
    some { m with clock := Scheduler.finish handle m.clock, stack := rest }
  | .advancing target :: rest =>
    match Scheduler.popDue target m.clock with
    | none => some { m with clock := Scheduler.arrive target m.clock, stack := rest }
    | some (w, clock) =>
      some { clock, log := .fired w.payload.name :: m.log,
             stack := .script w.payload.run :: .running w.handle :: .advancing target :: rest }

/-- A number of steps, fewer if nothing is left to do. -/
def runFor : Nat → Machine S → Machine S
  | 0, m => m
  | fuel + 1, m =>
    match m.step with
    | none => m
    | some m => runFor fuel m

end Machine

/-! ### Weights -/

mutual

/-- A bound on the steps that an operation and all it leads to can take. -/
def Op.weight : Op → Nat
  | .after _ _ run => scriptWeight run + 4
  | .cancel _ => 1
  | .advance _ => 2

/-- The weight of operations that run one after the other. -/
def scriptWeight : List Op → Nat
  | [] => 1
  | op :: ops => op.weight + scriptWeight ops

end

def Frame.weight : Frame → Nat
  | .script ops => scriptWeight ops
  | .running _ => 1
  | .advancing _ => 1

/-- The weight of a timer that waits. -/
def waitingWeight (w : Waiting Job) : Nat := scriptWeight w.payload.run + 3

namespace Machine

variable {S : Type → Type} [Scheduler S]

/-- A bound on the steps that the machine can take. -/
def weight (m : Machine S) : Nat :=
  totalWeight Frame.weight m.stack + totalWeight waitingWeight (Scheduler.waiting m.clock)

/-- Run until nothing is under way. -/
def settle (m : Machine S) : Machine S := runFor m.weight m

/-- Carry out one operation to its end: the machine after it, what the operation
    gave back, and what was noted meanwhile, in order. -/
def call (op : Op) (m : Machine S) : Machine S × Option Record × List Record :=
  let (clock, result, frames) := perform op m.clock
  let m := settle { clock, stack := frames }
  ({ m with log := [] }, result, m.log.reverse)

end Machine

end ResourceCatalog.Timer
