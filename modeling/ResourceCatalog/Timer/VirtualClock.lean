/-
  ResourceCatalog/Timer/VirtualClock.lean
  =======================================
  **A clock that is moved by hand.**

  The waiting timers are kept in the order in which they fire: by deadline, and
  among equal deadlines as they were scheduled.  Handles are numbered from one
  and never given twice; a timer refused for being past the end of time has used
  up its number all the same.
-/
import ResourceCatalog.Timer.Scheduler

namespace ResourceCatalog.Timer

/-- A clock that is moved by hand, with the number of handles that have been given
    out. -/
structure VirtualClock (α : Type) where
  now : Nat := 0
  issued : Nat := 0
  waiting : List (Waiting α) := []
deriving DecidableEq, Repr

namespace VirtualClock

variable {α : Type}

def schedule (delay : Nat) (payload : α) (c : VirtualClock α) : VirtualClock α × Option Handle :=
  let handle := c.issued + 1
  match inTime? (c.now + delay) with
  | none => ({ c with issued := handle }, none)
  | some deadline =>
    ({ c with issued := handle, waiting := enqueue ⟨handle, deadline, payload⟩ c.waiting },
     some handle)

def cancel (h : Handle) (c : VirtualClock α) : VirtualClock α :=
  { c with waiting := dequeue h c.waiting }

def horizon? (duration : Nat) (c : VirtualClock α) : Option Nat := inTime? (c.now + duration)

def popDue (target : Nat) (c : VirtualClock α) : Option (Waiting α × VirtualClock α) :=
  match firstDue? target c.waiting with
  | none => none
  | some (w, rest) => some (w, { c with now := w.deadline, waiting := rest })

def arrive (target : Nat) (c : VirtualClock α) : VirtualClock α := { c with now := target }

end VirtualClock

instance : Scheduler VirtualClock where
  initial := {}
  schedule := VirtualClock.schedule
  cancel := VirtualClock.cancel
  horizon? := VirtualClock.horizon?
  popDue := VirtualClock.popDue
  finish _ c := c
  arrive := VirtualClock.arrive
  waiting := VirtualClock.waiting

end ResourceCatalog.Timer
