/-
  ResourceCatalog/Sync/Run.lean
  =============================
  **A synchronizer with its scheduler and a host that may call back.**

  The synchronizer runs on a clock that is moved by hand, which it may share
  with timers of others.  The host is called in the middle of an operation and
  may do anything in return: edit, report outcomes, cancel timers, drop handles,
  and advance the clock, so that timers fire inside its call.

  A machine runs all this in small steps with a stack of what is under way.  It
  keeps a journal of every call, with the time on the clock.  A synchronizer is
  gone when its last handle has been dropped and no operation of it is under way;
  its timer may fire after that, and does nothing.
-/
import ResourceCatalog.Json.Decode
import ResourceCatalog.Sync.Synchronizer
import ResourceCatalog.Timer.VirtualClock

namespace ResourceCatalog.Sync

open Timer (VirtualClock)

/-- Why an operation failed: the handle that it goes through has been dropped, it
    would have led past the end of time, it names no kind of resource, or its
    payload could not be read. -/
inductive Failure where
  | dropped
  | overflow
  | invalidType (cause : InvalidResourceType)
  | unreadable (cause : Json.Fault)
deriving DecidableEq, Repr, Inhabited

/-- An operation around a synchronizer.  An action goes through a handle or else
    the first live one, and `clone` makes one more handle on the same
    synchronizer.  Any timer on the clock can be cancelled, whosever it is, and
    `later` starts one of someone else, which runs operations when it fires.  What
    is `refused` cannot be carried out, whatever the state. -/
inductive Op where
  | act (via : Option Nat) (action : Action)
  | clone (via : Option Nat)
  | drop (handle : Nat)
  | advance (duration : Nat)
  | cancel (via : Option Nat) (timer : Timer.Handle)
  | later (delay : Nat) (run : List Op)
  | refused (cause : Failure)
deriving Repr, Inhabited

/-- What a timer on the clock is for: the end of the synchronizer's quiet period,
    or operations of someone else. -/
inductive Task where
  | quiet
  | foreign (run : List Op)
deriving Repr

/-- What the journal holds.  With `foreignFired` a timer of someone else fired. -/
inductive Event where
  | called (call : Call)
  | failed (cause : Failure)
  | foreignFired
deriving DecidableEq, Repr

/-- An event with the time on the clock. -/
structure Entry where
  time : Nat
  event : Event
deriving DecidableEq, Repr

/-- What is under way: operations still to run, of which a failure is noted and
    passed over, calls that an operation on the synchronizer has still to make, or
    an advance to a target. -/
inductive Frame where
  | script (ops : List Op)
  | calls (pending : List Call)
  | advancing (target : Nat)
deriving Repr

def Frame.isCalls : Frame → Bool
  | calls _ => true
  | _ => false

/-- A host: what it does when it is called, and what it remembers. -/
structure Host (σ : Type) where
  react : Call → σ → σ × List Op

/-- A host that does nothing when called. -/
def Host.silent : Host Unit := { react := fun _ s => (s, []) }

/-- A synchronizer, its handles, its clock and its host in the middle of a run.
    The handles that were made are there with whether they are live, the journal
    has what happened, latest first, and the stack what is under way, innermost
    first. -/
structure Run (σ : Type) where
  sync : Synchronizer := {}
  handles : List Bool := [true]
  clock : VirtualClock Task := {}
  host : σ
  journal : List Entry := []
  stack : List Frame := []

namespace Run

variable {σ : Type}

/-- The synchronizer exists: a handle is live, or an operation is under way. -/
def alive (r : Run σ) : Bool := r.handles.any id || r.stack.any Frame.isCalls

/-- An operation through that handle, or any if none is named, finds a live one. -/
def reaches (r : Run σ) : Option Nat → Bool
  | some i => r.handles.getD i false
  | none => r.handles.any id

def note (event : Event) (r : Run σ) : Run σ :=
  { r with journal := ⟨r.clock.now, event⟩ :: r.journal }

/-- Start what a transition asks for. -/
def begin (t : Transition) (r : Run σ) : Run σ × Option Failure :=
  match t.carryOut Task.quiet r.clock with
  | (sync, clock, some calls) => ({ r with sync, clock, stack := .calls calls :: r.stack }, none)
  | (sync, clock, none) => ({ r with sync, clock }, some .overflow)

/-- Carry out one operation; what it leaves to be done is put on the stack. -/
def perform (op : Op) (r : Run σ) : Run σ × Option Failure :=
  match op with
  | .act via action =>
    if r.reaches via then r.begin (action.apply r.sync) else (r, some .dropped)
  | .clone via =>
    if r.reaches via then ({ r with handles := r.handles ++ [true] }, none)
    else (r, some .dropped)
  | .drop handle => ({ r with handles := r.handles.set handle false }, none)
  | .advance duration =>
    match r.clock.horizon? duration with
    | some target => ({ r with stack := .advancing target :: r.stack }, none)
    | none => (r, some .overflow)
  | .cancel via timer =>
    if r.reaches via then ({ r with clock := r.clock.cancel timer }, none)
    else (r, some .dropped)
  | .later delay run =>
    match r.clock.schedule delay (.foreign run) with
    | (clock, some _) => ({ r with clock }, none)
    | (clock, none) => ({ r with clock }, some .overflow)
  | .refused cause => (r, some cause)

/-- A timer fires. -/
def fire (task : Task) (r : Run σ) : Run σ :=
  match task with
  | .quiet => if r.alive then (r.begin r.sync.fire).1 else r
  | .foreign run => { r.note .foreignFired with stack := .script run :: r.stack }

/-- One step; none when nothing is under way. -/
def step (h : Host σ) (r : Run σ) : Option (Run σ) :=
  match r.stack with
  | [] => none
  | .script [] :: rest => some { r with stack := rest }
  | .script (op :: ops) :: rest =>
    match perform op { r with stack := .script ops :: rest } with
    | (r, none) => some r
    | (r, some cause) => some (r.note (.failed cause))
  | .calls [] :: rest => some { r with stack := rest }
  | .calls (call :: calls) :: rest =>
    let (host, ops) := h.react call r.host
    some { r.note (.called call) with host, stack := .script ops :: .calls calls :: rest }
  | .advancing target :: rest =>
    match r.clock.popDue target with
    | none => some { r with clock := r.clock.arrive target, stack := rest }
    | some (w, clock) => some (fire w.payload { r with clock })

/-- A number of steps, fewer if nothing is left to do. -/
def runFor (h : Host σ) : Nat → Run σ → Run σ
  | 0, r => r
  | fuel + 1, r =>
    match r.step h with
    | none => r
    | some r => runFor h fuel r

end Run

end ResourceCatalog.Sync
