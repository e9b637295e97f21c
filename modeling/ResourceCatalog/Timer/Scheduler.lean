/-
  ResourceCatalog/Timer/Scheduler.lean
  ====================================
  **What a scheduler of timers can do.**

  Times and durations count nanoseconds from the start of the clock and have an
  end, `endOfTime`: a timer that would be due later is refused, and so is an
  advance that would lead there.

  A scheduler holds timers, each with a payload that says what is to happen
  when it fires.  It never runs a payload itself: an advance takes out one due
  timer after another (`popDue`), and whoever drives the clock runs its payload,
  reports the end of it (`finish`), and goes on until none is due and the clock
  arrives at its target (`arrive`).  So a payload may schedule, cancel and
  advance in its turn.
-/
namespace ResourceCatalog.Timer

/-- The number that a timer was given. -/
abbrev Handle := Nat

def milliseconds (n : Nat) : Nat := n * 1000000

def seconds (n : Nat) : Nat := n * 1000000000

/-- The last representable time: seconds of 64 bits and their nanoseconds. -/
def endOfTime : Nat := seconds 0xFFFFFFFFFFFFFFFF + 999999999

/-- A timer that waits. -/
structure Waiting (α : Type) where
  handle : Handle
  deadline : Nat
  payload : α
deriving DecidableEq, Repr

/-- Put a timer in its place: behind every timer that is due no later. -/
def enqueue {α : Type} (w : Waiting α) : List (Waiting α) → List (Waiting α)
  | [] => [w]
  | v :: vs => if v.deadline ≤ w.deadline then v :: enqueue w vs else w :: v :: vs

/-- Take a timer out. -/
def dequeue {α : Type} (h : Handle) (ws : List (Waiting α)) : List (Waiting α) :=
  ws.filter (fun w => w.handle ≠ h)

/-- The first of the waiting timers, if it is due. -/
def firstDue? {α : Type} (target : Nat) : List (Waiting α) → Option (Waiting α × List (Waiting α))
  | [] => none
  | w :: ws => if w.deadline ≤ target then some (w, ws) else none

/-- What the members of a list weigh together. -/
def totalWeight {α : Type} (weight : α → Nat) : List α → Nat
  | [] => 0
  | x :: xs => weight x + totalWeight weight xs

/-- A clock with timers.  Scheduling one gives no handle when it would be due past
    the end of time, and an advance has no horizon there.  A timer that has fired
    or was forgotten is passed over when it is cancelled.  The timers that wait
    are in the order in which they are to fire. -/
class Scheduler (S : Type → Type) where
  initial {α : Type} : S α
  schedule {α : Type} : (delay : Nat) → α → S α → S α × Option Handle
  cancel {α : Type} : Handle → S α → S α
  horizon? {α : Type} : (duration : Nat) → S α → Option Nat
  popDue {α : Type} : (target : Nat) → S α → Option (Waiting α × S α)
  finish {α : Type} : Handle → S α → S α
  arrive {α : Type} : (target : Nat) → S α → S α
  waiting {α : Type} : S α → List (Waiting α)

/-- A time, unless it is past the end of time. -/
def inTime? (t : Nat) : Option Nat := if t ≤ endOfTime then some t else none

end ResourceCatalog.Timer
