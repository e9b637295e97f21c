/-
  ResourceCatalog/Proofs/Sync/OwnTimer.lean
  =========================================
  **The timer of a synchronizer on a clock that others use too.**

  Whatever the host does when it is called, and whatever timers others have on the
  clock: as long as nobody else cancels the synchronizer's timer, the quiet period
  that it has waiting is the one whose handle it remembers.

  `step_ticking` says once what a step can do to the timers.
-/
import ResourceCatalog.Proofs.Sync.Trail
import ResourceCatalog.Proofs.Timer.Ownership

namespace ResourceCatalog.Sync

open Timer (Handle Owned VirtualClock Waiting handlesOf)

def Task.isQuiet : Task → Bool
  | quiet => true
  | foreign _ => false

/-- The timer that a deed cancels: the one under way, when a quiet period is started anew. -/
def Deed.cancels? (d : Deed) : Option Handle :=
  d.outcome.restart.bind (fun _ => d.outcome.after.timer)

theorem Deed.timer_of_restart {d : Deed} {delay : Nat} (starts : d.outcome.restart = some delay) :
    d.outcome.after.timer = d.before.timer := by
  cases cause : d.cause with
  | action a =>
    rw [outcome, cause, Cause.apply]
    exact (a.apply_noFetch d.before).1
  | timer =>
    rw [outcome, cause, Cause.apply, Synchronizer.restart_fire] at starts
    cases starts

/-- A scheduler with a timer cancelled, if one is named. -/
def cancelled {S : Type → Type} [Timer.Scheduler S] {α : Type} (timer : Option Handle)
    (clock : S α) : S α :=
  match timer with
  | some x => Timer.Scheduler.cancel x clock
  | none => clock

/-- **Carrying a deed out cancels the timer that it names, and no other**, on any scheduler: that
    is all that becomes of the timers, but for the quiet period that is started then. -/
theorem Deed.clock_carryOut {S : Type → Type} [Timer.Scheduler S] {α : Type} (d : Deed)
    (payload : α) (clock : S α) :
    (d.outcome.carryOut payload clock).2.1 =
      d.outcome.restart.elim (cancelled d.cancels? clock)
        (fun delay => (Timer.Scheduler.schedule delay payload (cancelled d.cancels? clock)).1) := by
  unfold Transition.carryOut cancels? cancelled
  cases d.outcome.restart with
  | none => rfl
  | some delay =>
    simp only [Option.bind_some, Option.elim_some]
    split <;> rename_i started <;> exact (congrArg Prod.fst started).symm

theorem waiting_cancelled (timer : Option Handle) (clock : VirtualClock Task) :
    (cancelled timer clock).waiting = Run.released timer clock.waiting := by
  cases timer <;> rfl

theorem Run.mem_released {timer : Option Handle} {waiting : List (Waiting Task)}
    {w : Waiting Task} :
    w ∈ released timer waiting ↔ w ∈ waiting ∧ timer ≠ some w.handle := by
  cases timer with
  | none => simp [released]
  | some x => rw [released, Timer.mem_dequeue, Ne, Ne, Option.some_inj, eq_comm]

/-- A timer that is scheduled is a new one among those that wait. -/
theorem mem_waiting_schedule {clock : VirtualClock Task} {w : Waiting Task}
    (given : w.handle ≤ clock.issued) (delay : Nat) (task : Task) :
    w ∈ (Timer.Scheduler.schedule delay task clock).1.waiting ↔ w ∈ clock.waiting := by
  have other : ∀ deadline, w ≠ ⟨clock.issued + 1, deadline, task⟩ := by
    rintro deadline rfl
    exact absurd given (Nat.not_succ_le_self _)
  show w ∈ (clock.schedule delay task).1.waiting ↔ _
  rw [VirtualClock.schedule]
  cases Timer.inTime? (clock.now + delay) with
  | none => rfl
  | some deadline => simp only [Timer.mem_enqueue, other, false_or]

/-- Of the timers that wait, a deed takes out the one that it cancels. -/
theorem Deed.not_mem_waiting_carryOut_iff (d : Deed) {clock : VirtualClock Task} {w : Waiting Task}
    (hw : w ∈ clock.waiting) (given : w.handle ≤ clock.issued) :
    w ∉ (d.outcome.carryOut Task.quiet clock).2.1.waiting ↔ d.cancels? = some w.handle := by
  have gone : w ∉ (cancelled d.cancels? clock).waiting ↔ d.cancels? = some w.handle := by
    simp [waiting_cancelled, Run.mem_released, hw]
  have issued : (cancelled d.cancels? clock).issued = clock.issued := by
    cases d.cancels? <;> rfl
  rw [d.clock_carryOut]
  cases d.outcome.restart with
  | none => exact gone
  | some delay => rw [Option.elim_some, mem_waiting_schedule (issued ▸ given), gone]

namespace Run

variable {σ : Type} {r r' : Run σ}

/-- The next step cancels the synchronizer's timer, and it is not the synchronizer that
    does. -/
def meddles (r : Run σ) : Bool :=
  match r.stack with
  | .script (.cancel via x :: _) :: _ => r.reaches via && decide (r.sync.timer = some x)
  | _ => false

/-! ### What a step does to the timers -/

/-- What one step can do to the timers that wait, and to the one that the synchronizer remembers.
    The synchronizer starts a quiet period anew, or cannot because it would end past the end of
    time, or its timer fires, and does nothing when the synchronizer is gone.  A timer of someone
    else fires (`pass`) or is started (`join`), or someone else cancels one. -/
inductive Ticking (r : Run σ) (timer' : Option Handle) (clock' : VirtualClock Task) : Prop where
  | restart (d : Deed) (delay : Nat) (deed : r.deed? = some d)
      (starts : d.outcome.restart = some delay)
      (timer : timer' = some (r.clock.issued + 1))
      (issued : clock'.issued = r.clock.issued + 1)
      (waiting : clock'.waiting =
        Timer.enqueue ⟨r.clock.issued + 1, r.clock.now + delay, .quiet⟩
          (released r.sync.timer r.clock.waiting))
  | refuse (timer : timer' = none) (issued : clock'.issued = r.clock.issued + 1)
      (waiting : clock'.waiting = released r.sync.timer r.clock.waiting)
  | fire (x : Handle) (deadline : Nat) (rest : List (Waiting Task))
      (head : r.clock.waiting = ⟨x, deadline, .quiet⟩ :: rest)
      (timer : timer' = none) (issued : clock'.issued = r.clock.issued)
      (waiting : clock'.waiting = rest)
  | expire (gone : r.alive = false) (fewer : clock'.waiting ⊆ r.clock.waiting)
  | pass (w : Waiting Task) (rest : List (Waiting Task)) (head : r.clock.waiting = w :: rest)
      (foreign : w.payload.isQuiet = false)
      (timer : timer' = r.sync.timer) (issued : clock'.issued = r.clock.issued)
      (waiting : clock'.waiting = rest)
  | join (w : Waiting Task) (new : w.handle = r.clock.issued + 1)
      (foreign : w.payload.isQuiet = false)
      (timer : timer' = r.sync.timer) (issued : clock'.issued = r.clock.issued + 1)
      (waiting : clock'.waiting = Timer.enqueue w r.clock.waiting)
  | cancel (x : Handle) (ours : r.sync.timer = some x → r.meddles = true)
      (timer : timer' = r.sync.timer) (issued : clock'.issued = r.clock.issued)
      (waiting : clock'.waiting = Timer.dequeue x r.clock.waiting)
  | still (timer : timer' = r.sync.timer) (issued : r.clock.issued ≤ clock'.issued)
      (waiting : clock'.waiting = r.clock.waiting)

theorem ticking_act {h : Host σ} {via : Option Nat} {action : Action} {ops : List Op}
    {rest : List Frame} (hstack : r.stack = .script (.act via action :: ops) :: rest)
    (hvia : r.reaches via = true) (hs : r.step h = some r') : Ticking r r'.sync.timer r'.clock := by
  have deed : r.deed? =
      some ⟨r.clock.now, r.stack.any Frame.isCalls, r.sync, .action action⟩ := by
    rw [deed?, hstack]
    exact if_pos hvia
  have sameTimer := (action.apply_noFetch r.sync).1
  rw [step_action h hstack hvia] at hs
  cases starts : (action.apply r.sync).restart with
  | none =>
    rw [carryOut_of_restart_none starts] at hs
    cases hs
    exact .still sameTimer (Nat.le_refl _) rfl
  | some delay =>
    rw [carryOut_restart starts, sameTimer] at hs
    by_cases inTime : r.clock.now + delay ≤ Timer.endOfTime
    · rw [if_pos inTime] at hs
      cases hs
      exact .restart _ delay deed starts rfl rfl rfl
    · rw [if_neg inTime] at hs
      cases hs
      exact .refuse rfl rfl rfl

/-- What an operation that does not reach the synchronizer can do to the timers. -/
theorem ticking_perform {op : Op} {ops : List Op} {rest : List Frame} {cause : Option Failure}
    (hstack : r.stack = .script (op :: ops) :: rest)
    (hop : ∀ via action, op = .act via action → r.reaches via = false)
    (hp : ({ r with stack := .script ops :: rest } : Run σ).perform op = (r', cause)) :
    Ticking r r'.sync.timer r'.clock := by
  cases op with
  | act via action =>
    have unreached : ({ r with stack := .script ops :: rest } : Run σ).reaches via = false := by
      rw [← hop via action rfl]
      cases via <;> rfl
    rw [perform, unreached] at hp
    cases hp
    exact .still rfl (Nat.le_refl _) rfl
  | clone via =>
    rw [perform] at hp
    split at hp <;> cases hp <;> exact .still rfl (Nat.le_refl _) rfl
  | drop handle =>
    cases hp
    exact .still rfl (Nat.le_refl _) rfl
  | advance duration =>
    rw [perform] at hp
    split at hp <;> cases hp <;> exact .still rfl (Nat.le_refl _) rfl
  | cancel via x =>
    rw [perform] at hp
    split at hp
    · rename_i reached
      cases hp
      refine .cancel x ?_ rfl rfl rfl
      intro ours
      have reached : r.reaches via = true := by
        rw [← reached]
        cases via <;> rfl
      simp [meddles, hstack, reached, ours]
    · cases hp
      exact .still rfl (Nat.le_refl _) rfl
  | later delay run =>
    rw [perform, VirtualClock.schedule, Timer.inTime?] at hp
    by_cases inTime : r.clock.now + delay ≤ Timer.endOfTime
    · simp only [if_pos inTime] at hp
      cases hp
      exact .join ⟨r.clock.issued + 1, r.clock.now + delay, .foreign run⟩ rfl rfl rfl rfl rfl
    · simp only [if_neg inTime] at hp
      cases hp
      exact .still rfl (Nat.le_succ _) rfl
  | refused cause =>
    cases hp
    exact .still rfl (Nat.le_refl _) rfl

theorem waiting_of_popDue {c clock : VirtualClock Task} {target : Nat} {w : Waiting Task}
    (hpop : c.popDue target = some (w, clock)) :
    c.waiting = w :: clock.waiting ∧ clock.issued = c.issued := by
  unfold VirtualClock.popDue at hpop
  cases hdue : Timer.firstDue? target c.waiting with
  | none =>
    rw [hdue] at hpop
    cases hpop
  | some due =>
    rw [hdue] at hpop
    cases hpop
    exact ⟨Timer.eq_cons_of_firstDue? hdue, rfl⟩

theorem ticking_fire {h : Host σ} {target : Nat} {rest : List Frame} {w : Waiting Task}
    {clock : VirtualClock Task} (hstack : r.stack = .advancing target :: rest)
    (hpop : r.clock.popDue target = some (w, clock))
    (hs : some (fire w.payload { r with clock }) = some r') (stepped : r.step h = some r') :
    Ticking r r'.sync.timer r'.clock := by
  obtain ⟨head, issued⟩ := waiting_of_popDue hpop
  obtain ⟨x, deadline, task⟩ := w
  cases task with
  | foreign run =>
    cases hs
    exact .pass _ _ head rfl rfl issued rfl
  | quiet =>
    by_cases alive : r.alive = true
    · have cleared : r.sync.fire.after.timer = none := by rw [Synchronizer.fire_eq]
      rw [step_timer h hstack hpop alive] at stepped
      generalize r.sync.fire = fired at stepped cleared
      obtain rfl := Option.some.inj stepped
      exact .fire x deadline _ head cleared issued rfl
    · have still : fire .quiet { r with clock } = { r with clock } := if_neg alive
      rw [still] at hs
      cases hs
      refine .expire (Bool.eq_false_iff.mpr alive) ?_
      rw [head]
      exact List.subset_cons_self _ _

/-- **What a step can do to the timers.** -/
theorem step_ticking {h : Host σ} (hs : r.step h = some r') : Ticking r r'.sync.timer r'.clock := by
  have stepped := hs
  rw [step] at hs
  split at hs
  case h_1 => cases hs
  case h_2 rest hstack =>
    cases hs
    exact .still rfl (Nat.le_refl _) rfl
  case h_3 op ops rest hstack =>
    by_cases hop : ∃ via action, op = .act via action ∧ r.reaches via = true
    · obtain ⟨via, action, rfl, hvia⟩ := hop
      exact ticking_act hstack hvia stepped
    · have unreached : ∀ via action, op = .act via action → r.reaches via = false := by
        intro via action hact
        exact Bool.eq_false_iff.mpr (fun hvia => hop ⟨via, action, hact, hvia⟩)
      split at hs
      · rename_i hp
        cases hs
        exact ticking_perform hstack unreached hp
      · rename_i cause hp
        cases hs
        have ticking := ticking_perform hstack unreached hp
        exact ticking
  case h_4 rest hstack =>
    cases hs
    exact .still rfl (Nat.le_refl _) rfl
  case h_5 call pending rest hstack =>
    cases hs
    exact .still rfl (Nat.le_refl _) rfl
  case h_6 target rest hstack =>
    split at hs
    · cases hs
      exact .still rfl (Nat.le_refl _) rfl
    · rename_i w clock hpop
      exact ticking_fire hstack hpop hs stepped

/-! ### The timer is kept track of -/

/-- The quiet period that waits, if any, is the one whose handle is remembered. -/
def OwnsTimer (timer : Option Handle) (clock : VirtualClock Task) : Prop :=
  Owned Task.isQuiet timer clock.issued clock.waiting

/-- Of the timers that wait, an operation on the synchronizer takes out the one that it cancels. -/
theorem gone_iff_cancels {h : Host σ} {d : Deed} {action : Action}
    (o : OwnsTimer r.sync.timer r.clock) (deed : r.deed? = some d)
    (cause : d.cause = .action action) (hs : r.step h = some r') {w : Waiting Task}
    (hw : w ∈ r.clock.waiting) : w ∉ r'.clock.waiting ↔ d.cancels? = some w.handle := by
  obtain ⟨via, ops, rest, stack, reached⟩ := deed?_action deed cause
  have outcome : d.outcome = action.apply r.sync := by
    rw [Deed.outcome, cause, (deed?_before deed).1, Cause.apply]
  have carried : r'.clock = (d.outcome.carryOut Task.quiet r.clock).2.1 := by
    rw [step_action h stack reached, ← outcome] at hs
    obtain rfl := Option.some.inj hs
    rcases d.outcome.carryOut Task.quiet r.clock with ⟨sync, clock, _ | calls⟩ <;> rfl
  rw [carried]
  exact d.not_mem_waiting_carryOut_iff hw (o.below w hw)

theorem Ticking.ownsTimer {timer' : Option Handle} {clock' : VirtualClock Task}
    (t : Ticking r timer' clock') (o : OwnsTimer r.sync.timer r.clock) (alive : r.alive = true)
    (spared : r.meddles = false) : OwnsTimer timer' clock' := by
  unfold OwnsTimer at o ⊢
  -- a quiet period that is started anew finds the one before gone
  have cleared : Owned Task.isQuiet none r.clock.issued (released r.sync.timer r.clock.waiting) := by
    cases timer : r.sync.timer with
    | none =>
      rw [timer] at o
      exact o
    | some x =>
      rw [timer] at o
      exact o.release
  cases t with
  | restart d delay deed starts timer issued waiting =>
    rw [timer, issued, waiting]
    exact cleared.start (w := ⟨r.clock.issued + 1, r.clock.now + delay, .quiet⟩) rfl rfl
  | refuse timer issued waiting =>
    rw [timer, issued, waiting]
    exact cleared.issue (Nat.le_succ _)
  | fire x deadline rest head timer issued waiting =>
    rw [head] at o
    rw [timer, issued, waiting]
    exact o.fire rfl
  | expire gone =>
    rw [alive] at gone
    cases gone
  | pass w rest head foreign timer issued waiting =>
    rw [head] at o
    rw [timer, issued, waiting]
    exact o.pass foreign
  | join w new foreign timer issued waiting =>
    rw [timer, issued, waiting]
    exact o.join new foreign
  | cancel x ours timer issued waiting =>
    rw [timer, issued, waiting]
    refine o.cancel ?_
    intro same
    rw [ours same] at spared
    cases spared
  | still timer issued waiting =>
    rw [timer, waiting]
    exact o.issue issued

/-- A quiet period that waits after a step waited before it, or is the one that the step
    started. -/
theorem Ticking.mem_waiting {timer' : Option Handle} {clock' : VirtualClock Task}
    (t : Ticking r timer' clock') {w : Waiting Task} (hw : w ∈ clock'.waiting)
    (quiet : w.payload.isQuiet = true) :
    w ∈ r.clock.waiting ∨ ∃ d delay, r.deed? = some d ∧ d.outcome.restart = some delay ∧
      w = ⟨r.clock.issued + 1, r.clock.now + delay, .quiet⟩ := by
  have left : ∀ timer, released timer r.clock.waiting ⊆ r.clock.waiting :=
    fun timer v hv => (mem_released.mp hv).1
  cases t with
  | restart d delay deed starts timer issued waiting =>
    rw [waiting] at hw
    rcases Timer.mem_enqueue.mp hw with new | old
    · exact Or.inr ⟨d, delay, deed, starts, new⟩
    · exact Or.inl (left _ old)
  | refuse timer issued waiting =>
    rw [waiting] at hw
    exact Or.inl (left _ hw)
  | fire x deadline rest head timer issued waiting =>
    rw [waiting] at hw
    rw [head]
    exact Or.inl (List.mem_cons_of_mem _ hw)
  | expire gone fewer => exact Or.inl (fewer hw)
  | pass v rest head foreign timer issued waiting =>
    rw [waiting] at hw
    rw [head]
    exact Or.inl (List.mem_cons_of_mem _ hw)
  | join v new foreign timer issued waiting =>
    rw [waiting] at hw
    rcases Timer.mem_enqueue.mp hw with rfl | old
    · rw [foreign] at quiet
      cases quiet
    · exact Or.inl old
  | cancel x ours timer issued waiting =>
    rw [waiting] at hw
    exact Or.inl (Timer.mem_dequeue.mp hw).1
  | still timer issued waiting =>
    rw [waiting] at hw
    exact Or.inl hw

theorem alive_of_reaches {via : Option Nat} (h : r.reaches via = true) : r.alive = true := by
  have live : r.handles.any id = true := by
    cases via with
    | none => exact h
    | some i =>
      rw [reaches, List.getD_eq_getElem?_getD] at h
      cases hi : r.handles[i]? with
      | none =>
        rw [hi] at h
        cases h
      | some b =>
        rw [hi] at h
        exact List.any_eq_true.mpr ⟨b, List.mem_of_getElem? hi, h⟩
  rw [alive, live, Bool.true_or]

theorem alive_of_perform {op : Op} {cause : Option Failure} (hp : r.perform op = (r', cause))
    (alive : r'.alive = true) : r.alive = true := by
  cases op with
  | act via action =>
    by_cases reached : r.reaches via = true
    · exact alive_of_reaches reached
    · rw [perform, if_neg reached] at hp
      cases hp
      exact alive
  | clone via =>
    by_cases reached : r.reaches via = true
    · exact alive_of_reaches reached
    · rw [perform, if_neg reached] at hp
      cases hp
      exact alive
  | drop handle =>
    cases hp
    simp only [Run.alive, Bool.or_eq_true, List.any_eq_true] at alive ⊢
    refine alive.imp_left ?_
    rintro ⟨live, hlive, rfl⟩
    rcases List.mem_or_eq_of_mem_set hlive with old | new
    · exact ⟨_, old, rfl⟩
    · cases new
  | advance duration =>
    rw [perform] at hp
    split at hp <;> cases hp <;> exact alive
  | cancel via x =>
    rw [perform] at hp
    split at hp <;> cases hp <;> exact alive
  | later delay run =>
    rw [perform] at hp
    split at hp <;> cases hp <;> exact alive
  | refused cause =>
    cases hp
    exact alive

/-- A synchronizer that is gone does not come back. -/
theorem alive_of_step {h : Host σ} (hs : r.step h = some r') (alive : r'.alive = true) :
    r.alive = true := by
  rw [step] at hs
  split at hs
  case h_1 => cases hs
  case h_2 rest hstack =>
    cases hs
    simpa [Run.alive, hstack, Frame.isCalls] using alive
  case h_3 op ops rest hstack =>
    have before : ({ r with stack := .script ops :: rest } : Run σ).alive = r.alive := by
      simp [Run.alive, hstack, Frame.isCalls]
    rw [← before]
    split at hs
    · rename_i hp
      cases hs
      exact alive_of_perform hp alive
    · rename_i hp
      cases hs
      exact alive_of_perform hp alive
  case h_4 rest hstack => simp [Run.alive, hstack, Frame.isCalls]
  case h_5 call pending rest hstack => simp [Run.alive, hstack, Frame.isCalls]
  case h_6 target rest hstack =>
    split at hs
    · cases hs
      simpa [Run.alive, hstack, Frame.isCalls] using alive
    · rename_i w clock hpop
      cases task : w.payload with
      | foreign run =>
        rw [task] at hs
        cases hs
        simpa [Run.alive, fire, note, hstack, Frame.isCalls] using alive
      | quiet =>
        rw [task] at hs
        by_cases before : r.alive = true
        · exact before
        · have still : fire .quiet { r with clock } = { r with clock } := if_neg before
          rw [still] at hs
          cases hs
          exact alive

/-! ### Along a run -/

theorem alive_of_runFor {h : Host σ} {n : Nat} (alive : (r.runFor h (n + 1)).alive = true) :
    (r.runFor h n).alive = true := by
  rw [runFor_succ] at alive
  cases hs : (r.runFor h n).step h with
  | none =>
    rw [hs] at alive
    exact alive
  | some r₁ =>
    rw [hs] at alive
    exact alive_of_step hs alive

theorem ownsTimer_of_run (h : Host σ) (host : σ) (ops : List Op) (n : Nat)
    (alive : ((start host ops).runFor h n).alive = true)
    (spared : ∀ m < n, ((start host ops).runFor h m).meddles = false) :
    OwnsTimer ((start host ops).runFor h n).sync.timer ((start host ops).runFor h n).clock := by
  induction n with
  | zero => exact Owned.nil Task.isQuiet
  | succ n ih =>
    have before := alive_of_runFor alive
    have here := ih before (fun m hm => spared m (Nat.lt_succ_of_lt hm))
    rw [runFor_succ]
    cases hs : ((start host ops).runFor h n).step h with
    | none => exact here
    | some r₁ => exact (step_ticking hs).ownsTimer here before (spared n (Nat.lt_succ_self n))

/-- A quiet period that was started in one of the first steps, and has been waiting since. -/
def StartedSince (h : Host σ) (r : Run σ) (n : Nat) (w : Waiting Task) : Prop :=
  ∃ m < n, (∃ d delay, (r.runFor h m).deed? = some d ∧ d.outcome.restart = some delay ∧
      w = ⟨(r.runFor h m).clock.issued + 1, (r.runFor h m).clock.now + delay, .quiet⟩) ∧
    ∀ k, m < k → k ≤ n → w ∈ (r.runFor h k).clock.waiting

theorem startedSince_of_waiting (h : Host σ) (host : σ) (ops : List Op) (n : Nat)
    {w : Waiting Task} (hw : w ∈ ((start host ops).runFor h n).clock.waiting)
    (quiet : w.payload.isQuiet = true) : StartedSince h (start host ops) n w := by
  induction n with
  | zero => cases hw
  | succ n ih =>
    have origin : w ∈ ((start host ops).runFor h n).clock.waiting ∨
        ∃ d delay, ((start host ops).runFor h n).deed? = some d ∧
          d.outcome.restart = some delay ∧
          w = ⟨((start host ops).runFor h n).clock.issued + 1,
            ((start host ops).runFor h n).clock.now + delay, .quiet⟩ := by
      have after := hw
      rw [runFor_succ] at after
      cases hs : ((start host ops).runFor h n).step h with
      | none =>
        rw [hs] at after
        exact Or.inl after
      | some r₁ =>
        rw [hs] at after
        exact (step_ticking hs).mem_waiting after quiet
    rcases origin with old | new
    · obtain ⟨m, hm, started, since⟩ := ih old
      refine ⟨m, Nat.lt_succ_of_lt hm, started, ?_⟩
      intro k hmk hk
      rcases Nat.le_succ_iff.mp hk with earlier | rfl
      · exact since k hmk earlier
      · exact hw
    · refine ⟨n, Nat.lt_succ_self n, new, ?_⟩
      intro k hnk hk
      rw [Nat.le_antisymm hk hnk]
      exact hw

end Run

end ResourceCatalog.Sync
