/-
  ResourceCatalog/Sync/Script.lean
  ================================
  **Hosts with prepared reactions, and runs to the end.**

  A scripted host has a list of reactions, each for one kind of call.  A call
  uses up the first reaction for its kind.  Since reactions and operations are
  finite, so is every run: each step lowers the weight of the run, and a run
  given its weight in fuel comes to its end.
-/
import ResourceCatalog.Sync.Run

namespace ResourceCatalog.Sync

/-- The kinds of calls on a host. -/
inductive CallKind where
  | query
  | notice
  | loading
  | fetch
  | fetchTags
  | resources
  | empty
  | suggestions
deriving DecidableEq, Repr

def Call.kind : Call → CallKind
  | replaceQuery _ => .query
  | notify _ => .notice
  | setLoading _ => .loading
  | requestResources _ _ => .fetch
  | requestTags => .fetchTags
  | setResources _ => .resources
  | showEmptyResult _ => .empty
  | setSuggestions _ => .suggestions

/-- What a host does at one call of a kind. -/
structure Reaction where
  on : CallKind
  ops : List Op

/-- Use up the first reaction for a kind. -/
def takeReaction (kind : CallKind) : List Reaction → List Reaction × List Op
  | [] => ([], [])
  | r :: rs =>
    if r.on = kind then (rs, r.ops)
    else
      let (rest, ops) := takeReaction kind rs
      (r :: rest, ops)

/-- A host with prepared reactions. -/
def Host.scripted : Host (List Reaction) := { react := fun call rs => takeReaction call.kind rs }

/-! ### Weights -/

/-- A bound on the calls that an operation makes. -/
def Action.maxCalls : Action → Nat
  | .hydrate query => (FilterQuery.parse query).invalidTypes.length + 1
  | .setSearchText _ => 0
  | .toggleTag _ => 1
  | .toggleType _ => 1
  | .complete _ _ => 3
  | .acceptTags _ => 1

/-- The weight of calls still to be made. -/
def callsWeight (n : Nat) : Nat := 2 * n + 1

/-- The weight of a quiet period under way, which ends in three calls at most. -/
def quietWeight : Nat := callsWeight 3 + 1

mutual

/-- A bound on the steps that an operation and all it leads to can take, the
    reactions of the host left aside. -/
def Op.weight : Op → Nat
  | .act _ action => callsWeight action.maxCalls + quietWeight + 1
  | .clone _ => 1
  | .drop _ => 1
  | .advance _ => 2
  | .cancel _ _ => 1
  | .later _ run => scriptWeight run + 2
  | .refused _ => 1

/-- The weight of operations that run one after the other. -/
def scriptWeight : List Op → Nat
  | [] => 1
  | op :: ops => op.weight + scriptWeight ops

end

def Frame.weight : Frame → Nat
  | .script ops => scriptWeight ops
  | .calls pending => callsWeight pending.length
  | .advancing _ => 1

def Task.weight : Task → Nat
  | .quiet => quietWeight
  | .foreign run => scriptWeight run + 1

namespace Run

/-- A bound on the steps of a run with a scripted host. -/
def weight (r : Run (List Reaction)) : Nat :=
  Timer.totalWeight Frame.weight r.stack
    + Timer.totalWeight (fun w => w.payload.weight) r.clock.waiting
    + Timer.totalWeight (fun x => scriptWeight x.ops) r.host

/-- Run until nothing is under way. -/
def settle (r : Run (List Reaction)) : Run (List Reaction) :=
  r.runFor .scripted r.weight

/-- Carry out one operation to its end: the run after it, why it failed if it
    did, and what was journaled meanwhile, in order. -/
def call (op : Op) (r : Run (List Reaction)) :
    Run (List Reaction) × Option Failure × List Event :=
  let (r, failure) := perform op { r with journal := [] }
  let r := settle r
  (r, failure, (r.journal.map Entry.event).reverse)

end Run

end ResourceCatalog.Sync
