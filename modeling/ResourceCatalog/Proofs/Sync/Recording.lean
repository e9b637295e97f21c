/-
  ResourceCatalog/Proofs/Sync/Recording.lean
  ==========================================
  **Hosts that only record.**

  Such a host answers no call with an operation.  An operation on the
  synchronizer then makes its calls one after the other with nothing in between,
  so what lies below them on the stack is left alone until they are made.
-/
import ResourceCatalog.Proofs.Sync.Ending

namespace ResourceCatalog.Sync

variable {σ : Type}

/-- The host does nothing in return when it is called, whatever it remembers. -/
def Host.Records (h : Host σ) : Prop := ∀ call s, (h.react call s).2 = []

theorem Host.silent_records : Host.silent.Records := fun _ _ => rfl

theorem Host.Records.bounded {h : Host σ} (records : h.Records) : h.Bounded (fun _ => 0) := by
  intro call s
  have empty : scriptWeight (h.react call s).2 = 1 := by rw [records call s, scriptWeight]
  exact Nat.le_of_eq (congrArg (0 + ·) empty)

/-- A stack at most one operation of which is making its calls.  It is on top, but for the
    empty answer of the host to the call just made; what is below it meets a condition. -/
inductive Settling (floor : List Frame → Prop) : List Frame → Prop where
  | between {below : List Frame} (h : floor below) : Settling floor below
  | calling {below : List Frame} (pending : List Call) (h : floor below) :
    Settling floor (.calls pending :: below)
  | answered {below : List Frame} (pending : List Call) (h : floor below) :
    Settling floor (.script [] :: .calls pending :: below)

/-- What a step does that makes a call of an operation or ends its calls. -/
structure Calling (r r' : Run σ) : Prop where
  deed : r.deed? = none
  sync : r'.sync = r.sync
  clock : r'.clock = r.clock
  handles : r'.handles = r.handles
  made : ∃ calls,
    r'.journal = (calls.map (fun c => ⟨r.clock.now, .called c⟩)).reverse ++ r.journal ∧
      r.pendingCalls.flatten = calls ++ r'.pendingCalls.flatten

/-- With a host that only records, a step goes on with the calls of an operation or starts
    from a stack below all calls. -/
theorem Settling.step {h : Host σ} (records : h.Records) {floor : List Frame → Prop}
    {r r' : Run σ} (settling : Settling floor r.stack) (hs : r.step h = some r') :
    floor r.stack ∨ (Settling floor r'.stack ∧ Calling r r') := by
  generalize hstack : r.stack = stack at settling
  cases settling with
  | between below => exact Or.inl below
  | calling pending below =>
    refine Or.inr ?_
    cases pending with
    | nil =>
      rw [Run.step, hstack] at hs
      cases hs
      refine ⟨.between below, by simp [Run.deed?, hstack], rfl, rfl, rfl, [], rfl, ?_⟩
      rw [Run.pendingCalls, hstack]
      rfl
    | cons call pending =>
      have answer := records call r.host
      simp only [Run.step, hstack, answer] at hs
      cases hs
      refine ⟨.answered pending below, by simp [Run.deed?, hstack], rfl, rfl, rfl, [call], rfl, ?_⟩
      rw [Run.pendingCalls, hstack]
      rfl
  | answered pending below =>
    refine Or.inr ?_
    rw [Run.step, hstack] at hs
    cases hs
    refine ⟨.calling pending below, by simp [Run.deed?, hstack], rfl, rfl, rfl, [], rfl, ?_⟩
    rw [Run.pendingCalls, hstack]
    rfl

/-! ### From one moment to a later one -/

/-- Some number of steps leads from one moment of a run to the other. -/
def Run.Leads (h : Host σ) (r r' : Run σ) : Prop := ∃ n, r.runFor h n = r'

namespace Run.Leads

variable {h : Host σ} {r r₁ r₂ : Run σ}

theorem of_step (hs : r.step h = some r₁) : Leads h r r₁ := ⟨1, by simp only [runFor, hs]⟩

theorem trans (first : Leads h r r₁) (second : Leads h r₁ r₂) : Leads h r r₂ := by
  obtain ⟨m, hm⟩ := first
  obtain ⟨n, hn⟩ := second
  induction m generalizing r with
  | zero =>
    obtain rfl : r = r₁ := hm
    exact ⟨n, hn⟩
  | succ m ih =>
    rw [runFor] at hm
    cases hs : r.step h with
    | none =>
      rw [hs] at hm
      obtain rfl : r = r₁ := hm
      exact ⟨n, hn⟩
    | some r' =>
      rw [hs] at hm
      obtain ⟨k, hk⟩ := ih hm
      exact ⟨k + 1, by simp only [runFor, hs, hk]⟩

/-- With a host that only records, the calls of an operation are made one after the other,
    and nothing else happens meanwhile. -/
theorem flush (records : h.Records) {calls : List Call} {below : List Frame} {r : Run σ}
    (stack : r.stack = .calls calls :: below) :
    ∃ r', Leads h r r' ∧ r'.stack = below ∧ r'.sync = r.sync ∧ r'.clock = r.clock ∧
      r'.handles = r.handles ∧ r'.calls = r.calls ++ calls := by
  induction calls generalizing r with
  | nil =>
    have hs : r.step h = some { r with stack := below } := by rw [step, stack]
    refine ⟨_, of_step hs, rfl, rfl, rfl, rfl, ?_⟩
    rw [List.append_nil]
    exact calls_of_journal rfl
  | cons call calls ih =>
    have answer := records call r.host
    have hs : r.step h = some { r.note (.called call) with
        host := (h.react call r.host).1, stack := .script [] :: .calls calls :: below } := by
      simp only [step, stack, answer]
    obtain ⟨r', leads, stack', sync', clock', handles', calls'⟩ :=
      ih (r := { r.note (.called call) with
        host := (h.react call r.host).1, stack := .calls calls :: below }) rfl
    refine ⟨r', (of_step hs).trans ((of_step rfl).trans leads), stack', sync', clock', handles', ?_⟩
    rw [calls', List.append_cons]
    exact congrArg (· ++ calls) (calls_note_called r call)

/-- With a host that only records, an operation on the synchronizer is over when its calls
    have been made. -/
theorem act (records : h.Records) {via : Option Nat} {action : Action} {ops : List Op}
    {below : List Frame} {r : Run σ} (stack : r.stack = .script (.act via action :: ops) :: below)
    (live : r.reaches via = true)
    (inTime : (action.apply r.sync).inTime r.clock.now = true) :
    ∃ r', Leads h r r' ∧ r'.stack = .script ops :: below ∧
      r'.sync = { (action.apply r.sync).after with timer := r'.sync.timer } ∧
      r'.clock.now = r.clock.now ∧ r'.handles = r.handles ∧
      r'.calls = r.calls ++ (action.apply r.sync).calls := by
  obtain ⟨timer, clock, sameNow, carried⟩ := carryOut_spec (action.apply r.sync) r.clock
  have begins := step_action h stack live
  rw [carried, if_pos inTime] at begins
  obtain ⟨r', calling, stack', sync', clock', handles', calls'⟩ := flush records
    (r := { r with
      sync := { (action.apply r.sync).after with timer := timer }
      clock := clock
      stack := .calls (action.apply r.sync).calls :: .script ops :: below }) rfl
  refine ⟨r', (of_step begins).trans calling, stack', ?_, ?_, handles', calls'⟩
  · rw [sync']
  · rw [clock', ← sameNow]

end Run.Leads

end ResourceCatalog.Sync
