/-
  ResourceCatalog/Proofs/Sync/Handles.lean
  ========================================
  **The handles of a synchronizer share one life.**

  Which live handle an operation goes through makes no difference (`rerouted_runFor`),
  and one handle that is left keeps the synchronizer there.  It is gone when the last
  has been dropped and no operation of it is under way.  From then on nothing reaches
  it, so what is left of a run is a matter between the clock and the timers of others:
  no timer is cancelled any more, each fires when it is due, and the one that the
  synchronizer left behind does nothing.
-/
import ResourceCatalog.Proofs.Sync.OwnTimer
import ResourceCatalog.Proofs.Sync.Rerouting

namespace ResourceCatalog

namespace Timer

/-! ### Queues in order -/

variable {α : Type}

/-- The timers wait in the order in which they fire, with handles that were given out. -/
structure VirtualClock.InOrder (c : VirtualClock α) : Prop where
  ordered : c.waiting.Pairwise Waiting.Before
  below : ∀ w ∈ c.waiting, w.handle ≤ c.issued

namespace VirtualClock.InOrder

variable {c : VirtualClock α}

theorem schedule (h : c.InOrder) (delay : Nat) (payload : α) :
    (c.schedule delay payload).1.InOrder := by
  rw [VirtualClock.schedule]
  cases inTime? (c.now + delay) with
  | none => exact ⟨h.ordered, fun w hw => Nat.le_succ_of_le (h.below w hw)⟩
  | some deadline =>
    have newest : ∀ v ∈ c.waiting, v.handle < c.issued + 1 :=
      fun v hv => Nat.lt_succ_of_le (h.below v hv)
    refine ⟨pairwise_enqueue h.ordered newest, fun v hv => ?_⟩
    rcases mem_enqueue.mp hv with rfl | old
    · exact Nat.le_refl _
    · exact Nat.le_of_lt (newest v old)

theorem cancel (h : c.InOrder) (x : Handle) : (c.cancel x).InOrder :=
  ⟨h.ordered.filter _, fun w hw => h.below w (mem_dequeue.mp hw).1⟩

theorem arrive (h : c.InOrder) (target : Nat) : (c.arrive target).InOrder :=
  ⟨h.ordered, h.below⟩

end VirtualClock.InOrder

end Timer

namespace Sync

open Timer (VirtualClock Waiting)

namespace Run

variable {σ : Type} {h : Host σ} {r r' : Run σ}

/-- The timer that fires next, and the clock without it. -/
def firing? (r : Run σ) : Option (Waiting Task × VirtualClock Task) :=
  match r.stack with
  | .advancing target :: _ => r.clock.popDue target
  | _ => none

theorem firstDue?_of_popDue {c : VirtualClock Task} {target : Nat}
    (arrives : c.popDue target = none) : Timer.firstDue? target c.waiting = none := by
  unfold VirtualClock.popDue at arrives
  split at arrives
  · assumption
  · cases arrives

theorem popDue_spec {c clock : VirtualClock Task} {target : Nat} {w : Waiting Task}
    (hpop : c.popDue target = some (w, clock)) :
    c.waiting = w :: clock.waiting ∧ clock.issued = c.issued ∧ clock.now = w.deadline := by
  obtain ⟨head, issued⟩ := waiting_of_popDue hpop
  refine ⟨head, issued, ?_⟩
  unfold VirtualClock.popDue at hpop
  split at hpop
  · cases hpop
  · cases hpop
    rfl

/-! ### Timers stay in order -/

theorem inOrder_released {c : VirtualClock Task} (inOrder : c.InOrder) (timer : Option Timer.Handle) :
    ({ c with waiting := released timer c.waiting } : VirtualClock Task).InOrder := by
  cases timer with
  | none => exact inOrder
  | some x => exact inOrder.cancel x

theorem inOrder_begin (inOrder : r.clock.InOrder) (t : Transition) :
    (r.begin t).1.clock.InOrder := by
  cases restart : t.restart with
  | none =>
    rw [begin, carryOut_of_restart_none restart]
    exact inOrder
  | some delay =>
    have scheduled := (inOrder_released inOrder t.after.timer).schedule delay Task.quiet
    rw [VirtualClock.schedule, Timer.inTime?] at scheduled
    rw [begin, carryOut_restart restart]
    by_cases inTime : r.clock.now + delay ≤ Timer.endOfTime
    · rw [if_pos inTime] at scheduled ⊢
      exact scheduled
    · rw [if_neg inTime] at scheduled ⊢
      exact scheduled

theorem inOrder_perform (inOrder : r.clock.InOrder) (op : Op) :
    (r.perform op).1.clock.InOrder := by
  cases op with
  | act via action =>
    rw [perform]
    split
    · exact inOrder_begin inOrder _
    · exact inOrder
  | clone via =>
    rw [perform]
    split <;> exact inOrder
  | drop handle => exact inOrder
  | advance duration =>
    rw [perform]
    split <;> exact inOrder
  | cancel via timer =>
    rw [perform]
    split
    · exact inOrder.cancel timer
    · exact inOrder
  | later delay run =>
    have scheduled := inOrder.schedule delay (Task.foreign run)
    rw [perform]
    generalize r.clock.schedule delay (.foreign run) = result at scheduled ⊢
    obtain ⟨clock, _ | x⟩ := result <;> exact scheduled
  | refused cause => exact inOrder

theorem inOrder_fire (inOrder : r.clock.InOrder) (task : Task) : (r.fire task).clock.InOrder := by
  cases task with
  | quiet =>
    rw [fire]
    split
    · exact inOrder_begin inOrder _
    · exact inOrder
  | foreign ops => exact inOrder

theorem inOrder_popDue {c clock : VirtualClock Task} {target : Nat} {w : Waiting Task}
    (inOrder : c.InOrder) (hpop : c.popDue target = some (w, clock)) : clock.InOrder := by
  obtain ⟨head, issued, -⟩ := popDue_spec hpop
  have ordered := inOrder.ordered
  have below := inOrder.below
  rw [head] at ordered below
  refine ⟨(List.pairwise_cons.mp ordered).2, fun v hv => ?_⟩
  rw [issued]
  exact below v (List.mem_cons_of_mem w hv)

theorem inOrder_step (inOrder : r.clock.InOrder) (hs : r.step h = some r') :
    r'.clock.InOrder := by
  rcases hstack : r.stack with _ | ⟨ops | pending | target, rest⟩
  · rw [step_none_iff.mpr hstack] at hs
    cases hs
  · cases ops with
    | nil =>
      rw [step, hstack] at hs
      cases hs
      exact inOrder
    | cons op ops =>
      have performed := inOrder_perform (r := { r with stack := .script ops :: rest }) inOrder op
      rw [step_script h hstack, carried] at hs
      generalize perform op _ = result at hs performed
      obtain ⟨r₁, _ | cause⟩ := result <;> cases hs <;> exact performed
  · cases pending <;>
      · rw [step, hstack] at hs
        cases hs
        exact inOrder
  · simp only [step, hstack] at hs
    split at hs
    · cases hs
      exact inOrder.arrive target
    · rename_i w clock hpop
      cases hs
      exact inOrder_fire (inOrder_popDue inOrder hpop) w.payload

theorem inOrder_start (host : σ) (ops : List Op) : (start host ops).clock.InOrder :=
  ⟨List.Pairwise.nil, fun _ hw => nomatch hw⟩

theorem inOrder_runFor (inOrder : r.clock.InOrder) (n : Nat) : (r.runFor h n).clock.InOrder := by
  induction n with
  | zero => exact inOrder
  | succ n ih =>
    rw [runFor_succ]
    cases hs : (r.runFor h n).step h with
    | none => exact ih
    | some r₁ => exact inOrder_step ih hs

/-! ### When the synchronizer is gone -/

theorem reaches_of_gone (gone : r.alive = false) (via : Option Nat) : r.reaches via = false := by
  by_contra reached
  rw [Bool.not_eq_false] at reached
  rw [alive_of_reaches reached] at gone
  cases gone

theorem stack_ne_calls_of_gone (gone : r.alive = false) (pending : List Call) (rest : List Frame) :
    r.stack ≠ .calls pending :: rest := by
  intro stack
  rw [alive, stack, List.any_cons, Frame.isCalls, Bool.true_or, Bool.or_true] at gone
  cases gone

/-- Nothing more is done to a synchronizer that is gone. -/
theorem deed?_of_gone (gone : r.alive = false) : r.deed? = none := by
  cases deed : r.deed? with
  | none => rfl
  | some d =>
    rw [deed?] at deed
    split at deed
    · rw [reaches_of_gone gone] at deed
      cases deed
    · split at deed
      · rw [gone] at deed
        cases deed
      · cases deed
    · cases deed

theorem still_of_gone (gone : r.alive = false) (hs : r.step h = some r') :
    r'.alive = false ∧ r'.sync = r.sync ∧ r'.calls = r.calls := by
  have stays : r'.alive = false := by
    by_contra back
    rw [Bool.not_eq_false] at back
    rw [alive_of_step hs back] at gone
    cases gone
  cases step_move hs with
  | act d below deed =>
    rw [deed?_of_gone gone] at deed
    cases deed
  | call call pending rest deed stack => exact absurd stack (stack_ne_calls_of_gone gone _ _)
  | done rest deed stack => exact absurd stack (stack_ne_calls_of_gone gone _ _)
  | still deed top pending sync calls => exact ⟨stays, sync, calls⟩

/-- Without a synchronizer a timer that fires runs the operations of its owner, or none. -/
theorem step_firing (gone : r.alive = false) {w : Waiting Task} {clock : VirtualClock Task}
    (due : r.firing? = some (w, clock)) :
    r.clock.waiting = w :: clock.waiting ∧ clock.now = w.deadline ∧
      r.step h = some (match w.payload with
        | .quiet => { r with clock }
        | .foreign ops =>
          { r with
            clock
            journal := ⟨w.deadline, .foreignFired⟩ :: r.journal
            stack := .script ops :: r.stack }) := by
  rw [firing?] at due
  split at due
  · rename_i target rest stack
    obtain ⟨head, -, now⟩ := popDue_spec due
    refine ⟨head, now, ?_⟩
    simp only [step, stack, due]
    cases w.payload with
    | quiet =>
      rw [fire]
      have still : ({ r with clock, stack := .advancing target :: rest } : Run σ).alive = false := by
        rw [← stack]
        exact gone
      rw [still]
      rfl
    | foreign ops => rw [fire, note, now]
  · cases due

/-- Nobody cancels a timer through a handle that has been dropped. -/
theorem waiting_subset_carried (unreached : ∀ via, r.reaches via = false) (op : Op) :
    r.clock.waiting ⊆ (r.carried op).clock.waiting := by
  intro w hw
  cases op with
  | act via action => simpa [carried, perform, unreached, note] using hw
  | clone via => simpa [carried, perform, unreached, note] using hw
  | cancel via timer => simpa [carried, perform, unreached, note] using hw
  | drop handle => exact hw
  | advance duration =>
    rw [carried, perform]
    cases r.clock.horizon? duration <;> exact hw
  | later delay run =>
    simp only [carried, perform, VirtualClock.schedule]
    cases Timer.inTime? (r.clock.now + delay) with
    | none => exact hw
    | some deadline => exact Timer.mem_enqueue.mpr (Or.inr hw)
  | refused cause => exact hw

/-- Without a synchronizer a timer leaves the queue by firing. -/
theorem mem_waiting_of_gone (gone : r.alive = false) (hs : r.step h = some r') {w : Waiting Task}
    (hw : w ∈ r.clock.waiting) :
    w ∈ r'.clock.waiting ∨ ∃ clock, r.firing? = some (w, clock) := by
  rcases hstack : r.stack with _ | ⟨ops | pending | target, rest⟩
  · rw [step_none_iff.mpr hstack] at hs
    cases hs
  · refine Or.inl ?_
    cases ops with
    | nil =>
      rw [step, hstack] at hs
      cases hs
      exact hw
    | cons op ops =>
      have unreached : ∀ via, ({ r with stack := .script ops :: rest } : Run σ).reaches via = false :=
        fun via => (congrFun (reaches_withStack r _) via).trans (reaches_of_gone gone via)
      rw [step_script h hstack] at hs
      cases hs
      exact waiting_subset_carried unreached op hw
  · exact absurd hstack (stack_ne_calls_of_gone gone _ _)
  · cases hpop : r.clock.popDue target with
    | none =>
      simp only [step, hstack, hpop] at hs
      cases hs
      exact Or.inl hw
    | some due =>
      obtain ⟨v, clock⟩ := due
      have firing : r.firing? = some (v, clock) := by
        rw [firing?, hstack]
        exact hpop
      obtain ⟨head, -, stepped⟩ := step_firing (h := h) gone firing
      rw [head] at hw
      rcases List.mem_cons.mp hw with rfl | left
      · exact Or.inr ⟨clock, firing⟩
      · refine Or.inl ?_
        rw [hs] at stepped
        cases stepped
        cases v.payload <;> exact left

/-! ### The rest of a run -/

/-- What is left of a run whose synchronizer is gone.  The host is not called, and the synchronizer
    does not change.  A timer goes on waiting until it fires, which it does at its deadline; it has
    fired when an advance arrives that leads there or beyond.  The timer of the synchronizer does
    nothing then, and a timer of someone else runs its operations. -/
structure Bereft (h : Host σ) (r : Run σ) : Prop where
  gone : ∀ m, (r.runFor h m).alive = false
  silent : ∀ m, (r.runFor h m).calls = r.calls ∧ (r.runFor h m).sync = r.sync
  fires : ∀ m w clock, (r.runFor h m).firing? = some (w, clock) →
    (r.runFor h m).clock.waiting = w :: clock.waiting ∧ clock.now = w.deadline
  expires : ∀ m w clock, (r.runFor h m).firing? = some (w, clock) → w.payload = .quiet →
    (r.runFor h m).step h = some { r.runFor h m with clock }
  runs : ∀ m w clock ops, (r.runFor h m).firing? = some (w, clock) → w.payload = .foreign ops →
    (r.runFor h m).step h = some
      { r.runFor h m with
        clock
        journal := ⟨w.deadline, .foreignFired⟩ :: (r.runFor h m).journal
        stack := .script ops :: (r.runFor h m).stack }
  waits : ∀ m k w, m ≤ k → w ∈ (r.runFor h m).clock.waiting →
    w ∈ (r.runFor h k).clock.waiting ∨
      ∃ i clock, m ≤ i ∧ i < k ∧ (r.runFor h i).firing? = some (w, clock)
  inTime : ∀ m k target rest, m ≤ k → (r.runFor h k).stack = .advancing target :: rest →
    (r.runFor h k).firing? = none → ∀ w ∈ (r.runFor h m).clock.waiting, w.deadline ≤ target →
      ∃ i clock, m ≤ i ∧ i < k ∧ (r.runFor h i).firing? = some (w, clock)
  ends : ∃ m, (r.runFor h m).stack = []

theorem gone_runFor (gone : r.alive = false) (m : Nat) :
    (r.runFor h m).alive = false ∧ (r.runFor h m).sync = r.sync ∧ (r.runFor h m).calls = r.calls := by
  induction m with
  | zero => exact ⟨gone, rfl, rfl⟩
  | succ m ih =>
    obtain ⟨goneStill, sync, calls⟩ := ih
    rw [runFor_succ]
    cases hs : (r.runFor h m).step h with
    | none => exact ⟨goneStill, sync, calls⟩
    | some r₁ =>
      obtain ⟨stays, sync₁, calls₁⟩ := still_of_gone goneStill hs
      exact ⟨stays, sync₁.trans sync, calls₁.trans calls⟩

theorem waits_of_gone (gone : r.alive = false) {m k : Nat} (hmk : m ≤ k) {w : Waiting Task}
    (hw : w ∈ (r.runFor h m).clock.waiting) :
    w ∈ (r.runFor h k).clock.waiting ∨
      ∃ i clock, m ≤ i ∧ i < k ∧ (r.runFor h i).firing? = some (w, clock) := by
  induction hmk with
  | refl => exact Or.inl hw
  | @step k hmk ih =>
    rcases ih with waits | ⟨i, clock, hi, hik, fired⟩
    · rw [runFor_succ]
      cases hs : (r.runFor h k).step h with
      | none => exact Or.inl waits
      | some r₁ =>
        rcases mem_waiting_of_gone (gone_runFor gone k).1 hs waits with still | ⟨clock, firing⟩
        · exact Or.inl still
        · exact Or.inr ⟨k, clock, hmk, Nat.lt_succ_self k, firing⟩
    · exact Or.inr ⟨i, clock, hi, Nat.lt_succ_of_lt hik, fired⟩

/-- It does not matter any more what host there is, so the run ends as with one that does
    nothing. -/
theorem ends_of_gone (gone : r.alive = false) : ∃ m, (r.runFor h m).stack = [] := by
  have idle : Host.Records ({ react := fun _ s => (s, []) } : Host σ) := fun _ _ => rfl
  have same : ∀ m, r.runFor { react := fun _ s => (s, []) } m = r.runFor h m := by
    intro m
    induction m with
    | zero => rfl
    | succ m ih =>
      rw [runFor_succ, runFor_succ, ih]
      have uncalled := stack_ne_calls_of_gone (gone_runFor (h := h) gone m).1
      congr 1
      rw [step, step]
      split <;> first | rfl | exact absurd ‹_› (uncalled _ _)
  exact ⟨_, (congrArg Run.stack (same _)).symm.trans (stack_runFor idle.bounded (Nat.le_refl _))⟩

theorem bereft_of_gone (gone : r.alive = false) (inOrder : r.clock.InOrder) : Bereft h r where
  gone m := (gone_runFor gone m).1
  silent m := ⟨(gone_runFor gone m).2.2, (gone_runFor gone m).2.1⟩
  fires m w clock firing := by
    obtain ⟨head, now, -⟩ := step_firing (h := h) (gone_runFor gone m).1 firing
    exact ⟨head, now⟩
  expires m w clock firing quiet := by
    obtain ⟨-, -, stepped⟩ := step_firing (h := h) (gone_runFor gone m).1 firing
    rw [stepped, quiet]
  runs m w clock ops firing foreign := by
    obtain ⟨-, -, stepped⟩ := step_firing (h := h) (gone_runFor gone m).1 firing
    rw [stepped, foreign]
  waits m k w hmk hw := waits_of_gone gone hmk hw
  inTime m k target rest hmk stack arrives w hw due := by
    rcases waits_of_gone gone hmk hw with late | fired
    · rw [firing?, stack] at arrives
      have noneDue := firstDue?_of_popDue arrives
      have later := Timer.lt_deadline_of_firstDue? (inOrder_runFor inOrder k).ordered noneDue w late
      exact absurd due (Nat.not_le_of_lt later)
    · exact fired
  ends := ends_of_gone gone

end Run

/-! ### One life -/

/-- **Handles share one life.**  What happens does not depend on which live handle each
    operation goes through, be it one of the script, of a timer or of the host.  From the
    moment on at which the last handle has been dropped and no operation of the synchronizer
    is under way the host is not called again, the timer left behind does nothing, and the
    timers of others fire when they are due. -/
theorem handles_share_one_life {σ : Type} (h : Host σ) (host : σ) (ops : List Op) (n : Nat) :
    (∀ {τ : Type} (k : Host τ) (R : σ → τ → Prop) (host' : τ) (ops' : List Op),
      h.Rerouted R k → R host host' → List.Forall₂ Op.Rerouted ops ops' →
      (∀ m < n, ((Run.start host ops).runFor h m).finds =
        ((Run.start host' ops').runFor k m).finds) →
      Run.Rerouted R ((Run.start host ops).runFor h n) ((Run.start host' ops').runFor k n)) ∧
    (((Run.start host ops).runFor h n).handles.any id = false →
      ((Run.start host ops).runFor h n).stack.any Frame.isCalls = false →
      Run.Bereft h ((Run.start host ops).runFor h n)) := by
  constructor
  · intro τ k R host' ops' hosts related rerouted agree
    exact Run.rerouted_runFor (Run.rerouted_start related rerouted) hosts n agree
  · intro dropped calledOut
    have gone : ((Run.start host ops).runFor h n).alive = false := by
      rw [Run.alive, dropped, calledOut]
      rfl
    exact Run.bereft_of_gone gone (Run.inOrder_runFor (Run.inOrder_start host ops) n)

/-- While the query is read, the host takes a handle of its own and drops the one in use. -/
def handover (via : Option Nat) : List Reaction := [⟨.fetchTags, [.clone via, .drop 0]⟩]

/-- The handle taken over is dropped by the timer of someone else, while a quiet period is under
    way and another timer waits. -/
def abandoned (via : Option Nat) : List Op :=
  [.later (Timer.milliseconds 100) [.drop 1], .later (Timer.milliseconds 300) [.act via (.hydrate "")],
    .act via (.hydrate "tags=a"), .advance (Timer.milliseconds 500)]

/-- The first handle or any live one: both runs come to one end of the synchronizer, in the
    middle of a quiet period. -/
theorem handles_share_one_life_abandoned :
    let r := (Run.start (handover none) (abandoned none)).runFor .scripted 11
    let s := (Run.start (handover (some 0)) (abandoned (some 0))).runFor .scripted 11
    r.journal = s.journal ∧ r.sync = s.sync ∧ r.sync.phase = .debouncing ∧
      Run.Bereft .scripted r := by
  intro r s
  obtain ⟨rerouting, ending⟩ :=
    handles_share_one_life .scripted (handover none) (abandoned none) 11
  have reactions : List.Forall₂ Reaction.Rerouted (handover none) (handover (some 0)) :=
    .cons ⟨rfl, .cons (.clone _ _) (.cons (.drop 0) .nil)⟩ .nil
  have script : List.Forall₂ Op.Rerouted (abandoned none) (abandoned (some 0)) :=
    .cons (.later _ (.cons (.drop 1) .nil)) (.cons (.later _ (.cons (.act _ _ _) .nil))
      (.cons (.act _ _ _) (.cons (.advance _) .nil)))
  have same : Run.Rerouted _ r s :=
    rerouting .scripted _ (handover (some 0)) _ Host.scripted_rerouted reactions script
      (by decide +kernel)
  exact ⟨same.journal, same.sync, by decide +kernel,
    ending (by decide +kernel) (by decide +kernel)⟩

end Sync

end ResourceCatalog
