/-
  ResourceCatalog/Timer/BrowserClock.lean
  =======================================
  **Timers on the timeouts of a browser.**

  A browser takes delays in whole milliseconds, of which a 32-bit number is the
  most that one can have, and runs due timeouts by deadline and then in the order of
  their creation.  How finely its clock counts is its own affair: by the
  millisecond unless it is said otherwise.

  The timers keep a table of their own beside the browser's timeouts.  A timer
  stays in it while its payload runs and is only marked when that is over;
  marked timers leave the table when the next one is scheduled.  Cancelling goes
  through the table: a timer that is there and not marked is taken out and its
  timeout is cleared, any other handle is passed over.
-/
import ResourceCatalog.Timer.Scheduler

namespace ResourceCatalog.Timer

/-- A timer in the table.  It is finished when its payload has run to its end. -/
structure LiveTimer where
  handle : Handle
  finished : Bool
deriving DecidableEq, Repr

/-- A browser's clock and timeouts with the table of timers made on them.  The
    timeouts are those that have neither fired nor been cleared, and `tick` is the
    least time by which the clock moves. -/
structure BrowserClock (α : Type) where
  now : Nat := 0
  issued : Nat := 0
  table : List LiveTimer := []
  timeouts : List (Waiting α) := []
  tick : Nat := milliseconds 1
deriving DecidableEq, Repr

namespace BrowserClock

variable {α : Type}

/-- The greatest delay that a browser takes, in milliseconds. -/
def maxDelay : Nat := 0xFFFFFFFF

/-- A delay as a browser counts it. -/
def wholeDelay (delay : Nat) : Nat := milliseconds (min (delay / milliseconds 1) maxDelay)

/-- When a timer with that delay is due; none when that is past the end of time, or
    when the delay by itself is. -/
def deadline? (delay : Nat) (c : BrowserClock α) : Option Nat :=
  (inTime? delay).bind (fun d => inTime? (c.now + wholeDelay d))

def schedule (delay : Nat) (payload : α) (c : BrowserClock α) : BrowserClock α × Option Handle :=
  let handle := c.issued + 1
  let kept := c.table.filter (fun t => !t.finished)
  match c.deadline? delay with
  | none => ({ c with issued := handle, table := kept }, none)
  | some deadline =>
    ({ c with
        issued := handle
        table := kept ++ [⟨handle, false⟩]
        timeouts := enqueue ⟨handle, deadline, payload⟩ c.timeouts },
     some handle)

/-- The timer is in the table and its payload has not run to its end. -/
def isLive (h : Handle) (c : BrowserClock α) : Bool :=
  c.table.any (fun t => t.handle = h && !t.finished)

def cancel (h : Handle) (c : BrowserClock α) : BrowserClock α :=
  if c.isLive h then
    { c with table := c.table.filter (fun t => t.handle ≠ h), timeouts := dequeue h c.timeouts }
  else c

/-- Where an advance leads; the clock moves by whole ticks. -/
def horizon? (duration : Nat) (c : BrowserClock α) : Option Nat :=
  (inTime? duration).bind (fun d => inTime? (c.now + d / c.tick * c.tick))

def popDue (target : Nat) (c : BrowserClock α) : Option (Waiting α × BrowserClock α) :=
  match firstDue? target c.timeouts with
  | none => none
  | some (w, rest) => some (w, { c with now := w.deadline, timeouts := rest })

/-- Mark a timer, if it is still in the table. -/
def finish (h : Handle) (c : BrowserClock α) : BrowserClock α :=
  { c with table := c.table.map (fun t => if t.handle = h then { t with finished := true } else t) }

def arrive (target : Nat) (c : BrowserClock α) : BrowserClock α := { c with now := target }

end BrowserClock

instance : Scheduler BrowserClock where
  initial := {}
  schedule := BrowserClock.schedule
  cancel := BrowserClock.cancel
  horizon? := BrowserClock.horizon?
  popDue := BrowserClock.popDue
  finish := BrowserClock.finish
  arrive := BrowserClock.arrive
  waiting := BrowserClock.timeouts

end ResourceCatalog.Timer
