/-
  ResourceCatalog/Proofs/Sync/Scripts.lean
  ========================================
  **A script is run operation by operation.**

  What lies below on a stack has no part in a step, unless an operation there is
  still making calls (`step_above`).  So the operations of a script can be run one
  at a time, each to its end before the next one (`finish_start`), if the host lets
  runs end at all.
-/
import ResourceCatalog.Proofs.Sync.Recording

namespace ResourceCatalog.Sync

variable {σ : Type}

namespace Run

/-! ### What lies below -/

/-- The run with more under way below all that is. -/
def above (below : List Frame) (r : Run σ) : Run σ := { r with stack := r.stack ++ below }

section Fields

variable (below : List Frame) (r : Run σ)

@[simp] theorem above_sync : (r.above below).sync = r.sync := rfl

@[simp] theorem above_clock : (r.above below).clock = r.clock := rfl

@[simp] theorem above_stack : (r.above below).stack = r.stack ++ below := rfl

end Fields

/-- Carry out one operation and note why it failed, if it did. -/
def carried (op : Op) (r : Run σ) : Run σ :=
  match r.perform op with
  | (r, none) => r
  | (r, some cause) => r.note (.failed cause)

theorem step_script (h : Host σ) {r : Run σ} {op : Op} {ops : List Op} {rest : List Frame}
    (stack : r.stack = .script (op :: ops) :: rest) :
    r.step h = some ({ r with stack := .script ops :: rest }.carried op) := by
  simp only [step, stack, carried]
  generalize { r with stack := .script ops :: rest }.perform op = performed
  obtain ⟨r', _ | cause⟩ := performed <;> rfl

theorem begin_above (below : List Frame) (t : Transition) (r : Run σ) :
    (r.above below).begin t = ((r.begin t).1.above below, (r.begin t).2) := by
  rw [begin, begin, above_clock]
  rcases t.carryOut Task.quiet r.clock with ⟨sync, clock, _ | calls⟩ <;> rfl

theorem reaches_above (below : List Frame) (r : Run σ) (via : Option Nat) :
    (r.above below).reaches via = r.reaches via := by
  cases via <;> rfl

theorem perform_above (below : List Frame) (op : Op) (r : Run σ) :
    (r.above below).perform op = ((r.perform op).1.above below, (r.perform op).2) := by
  cases op with
  | act via action =>
    rw [perform, perform, reaches_above]
    split
    · exact begin_above below _ r
    · rfl
  | clone via =>
    rw [perform, perform, reaches_above]
    split <;> rfl
  | drop handle => rfl
  | advance duration =>
    rw [perform, perform, above_clock]
    cases r.clock.horizon? duration <;> rfl
  | cancel via timer =>
    rw [perform, perform, reaches_above]
    split <;> rfl
  | later delay run =>
    simp only [perform, above_clock]
    generalize r.clock.schedule delay (.foreign run) = scheduled
    obtain ⟨clock, _ | x⟩ := scheduled <;> rfl
  | refused cause => rfl

theorem carried_above (below : List Frame) (op : Op) (r : Run σ) :
    (r.above below).carried op = (r.carried op).above below := by
  rw [carried, carried, perform_above]
  rcases r.perform op with ⟨r, _ | cause⟩ <;> rfl

section Above

variable {below : List Frame} (silent : below.any Frame.isCalls = false)

include silent

theorem alive_above (r : Run σ) : (r.above below).alive = r.alive := by
  rw [alive, alive, above, List.any_append, silent, Bool.or_false]

theorem fire_above (task : Task) (r : Run σ) : (r.above below).fire task = (r.fire task).above below := by
  cases task with
  | quiet =>
    rw [fire, fire, alive_above silent, above_sync, begin_above]
    split <;> rfl
  | foreign run => rfl

/-- **What lies below has no part in a step.** -/
theorem step_above (h : Host σ) {r r' : Run σ} (hs : r.step h = some r') :
    (r.above below).step h = some (r'.above below) := by
  have busy : r.stack ≠ [] := fun ended => by
    rw [step_none_iff.mpr ended] at hs
    cases hs
  rcases hstack : r.stack with _ | ⟨frame, rest⟩
  · exact absurd hstack busy
  · have stack : (r.above below).stack = frame :: (rest ++ below) := by
      rw [above, hstack, List.cons_append]
    cases frame with
    | script ops =>
      cases ops with
      | nil =>
        rw [step, hstack] at hs
        rw [step, stack]
        cases hs
        rfl
      | cons op ops =>
        rw [step_script h hstack] at hs
        rw [step_script h stack]
        cases hs
        exact congrArg some (carried_above below op { r with stack := .script ops :: rest })
    | calls pending =>
      cases pending with
      | nil =>
        rw [step, hstack] at hs
        rw [step, stack]
        cases hs
        rfl
      | cons call pending =>
        rw [step, hstack] at hs
        rw [step, stack]
        cases hs
        rfl
    | advancing target =>
      simp only [step, hstack] at hs
      simp only [step, stack, above_clock]
      generalize r.clock.popDue target = due at hs ⊢
      rcases due with _ | ⟨w, clock⟩
      · cases hs
        rfl
      · cases hs
        have fired := fire_above silent w.payload { r with clock }
        simp only [above, hstack, List.cons_append] at fired ⊢
        rw [fired]

theorem Leads.above {h : Host σ} {r r' : Run σ} (leads : Leads h r r') :
    Leads h (r.above below) (r'.above below) := by
  obtain ⟨n, hn⟩ := leads
  induction n generalizing r with
  | zero =>
    obtain rfl : r = r' := hn
    exact ⟨0, rfl⟩
  | succ n ih =>
    rw [runFor] at hn
    cases hs : r.step h with
    | none =>
      rw [hs] at hn
      obtain rfl : r = r' := hn
      exact ⟨0, rfl⟩
    | some r₁ =>
      rw [hs] at hn
      exact (Leads.of_step (step_above silent h hs)).trans (ih hn)

end Above

/-! ### Operation by operation -/

/-- A run that has ended goes no further. -/
theorem Leads.eq_of_ended {h : Host σ} {r r' : Run σ} (leads : Leads h r r') (ended : r.stack = []) :
    r' = r := by
  obtain ⟨n, rfl⟩ := leads
  cases n with
  | zero => rfl
  | succ n => rw [runFor, step_none_iff.mpr ended]

/-- A run has one end. -/
theorem Leads.ended_unique {h : Host σ} {r r₁ r₂ : Run σ} (first : Leads h r r₁)
    (ended₁ : r₁.stack = []) (second : Leads h r r₂) (ended₂ : r₂.stack = []) : r₁ = r₂ := by
  obtain ⟨n, hn⟩ := first
  induction n generalizing r with
  | zero =>
    obtain rfl : r = r₁ := hn
    exact (second.eq_of_ended ended₁).symm
  | succ n ih =>
    rw [runFor] at hn
    cases hs : r.step h with
    | none =>
      rw [hs] at hn
      obtain rfl : r = r₁ := hn
      exact (second.eq_of_ended ended₁).symm
    | some r' =>
      rw [hs] at hn
      obtain ⟨m, hm⟩ := second
      cases m with
      | zero =>
        obtain rfl : r = r₂ := hm
        rw [step_none_iff.mpr ended₂] at hs
        cases hs
      | succ m =>
        rw [runFor, hs] at hm
        exact ih ⟨m, hm⟩ hn

variable {h : Host σ} {stock : σ → Nat}

/-- The end of a run whose host lets runs end. -/
def finish (h : Host σ) (stock : σ → Nat) (r : Run σ) : Run σ := r.runFor h (r.load stock)

theorem leads_finish (h : Host σ) (stock : σ → Nat) (r : Run σ) : Leads h r (r.finish h stock) :=
  ⟨_, rfl⟩

theorem stack_finish (bounded : h.Bounded stock) (r : Run σ) : (r.finish h stock).stack = [] :=
  stack_runFor bounded (Nat.le_refl _)

theorem finish_eq (bounded : h.Bounded stock) {r r' : Run σ} (leads : Leads h r r')
    (ended : r'.stack = []) : r.finish h stock = r' :=
  (leads_finish h stock r).ended_unique (stack_finish bounded r) leads ended

/-- An operation and all that it leads to. -/
def conduct (h : Host σ) (stock : σ → Nat) (r : Run σ) (op : Op) : Run σ :=
  (r.carried op).finish h stock

theorem stack_conduct (bounded : h.Bounded stock) (r : Run σ) (op : Op) :
    (r.conduct h stock op).stack = [] :=
  stack_finish bounded _

theorem step_above_script (h : Host σ) {r : Run σ} (ended : r.stack = []) (op : Op) (ops : List Op) :
    (r.above [.script (op :: ops)]).step h = some ((r.carried op).above [.script ops]) := by
  have stack : (r.above [.script (op :: ops)]).stack = [.script (op :: ops)] := by
    rw [above_stack, ended, List.nil_append]
  rw [step_script h stack, ← carried_above]
  obtain ⟨sync, handles, clock, host, journal, stack⟩ := r
  cases ended
  rfl

theorem step_above_script_nil (h : Host σ) {r : Run σ} (ended : r.stack = []) :
    (r.above [.script []]).step h = some r := by
  obtain ⟨sync, handles, clock, host, journal, stack⟩ := r
  cases ended
  rfl

/-- The operations of a script that is under way are conducted one after the other. -/
theorem leads_conduct (bounded : h.Bounded stock) (ops : List Op) {r : Run σ}
    (ended : r.stack = []) :
    Leads h (r.above [.script ops]) ((ops.foldl (conduct h stock) r).above [.script []]) := by
  induction ops generalizing r with
  | nil => exact ⟨0, rfl⟩
  | cons op ops ih =>
    have conducted : Leads h ((r.carried op).above [.script ops])
        ((r.conduct h stock op).above [.script ops]) := Leads.above rfl (leads_finish h stock _)
    exact (Leads.of_step (step_above_script h ended op ops)).trans (conducted.trans (ih (stack_conduct bounded r op)))

theorem stack_foldl_conduct (bounded : h.Bounded stock) (ops : List Op) {r : Run σ}
    (ended : r.stack = []) : (ops.foldl (conduct h stock) r).stack = [] := by
  induction ops generalizing r with
  | nil => exact ended
  | cons op ops ih => exact ih (stack_conduct bounded r op)

/-- **A script comes to what its operations come to one after the other.** -/
theorem finish_start (bounded : h.Bounded stock) (host : σ) (ops : List Op) :
    (start host ops).finish h stock = ops.foldl (conduct h stock) { host } := by
  have ended := stack_foldl_conduct bounded ops (r := { host }) rfl
  have conducted := leads_conduct bounded ops (r := { host }) rfl
  exact finish_eq bounded (conducted.trans (.of_step (step_above_script_nil h ended))) ended

end Run

end ResourceCatalog.Sync
