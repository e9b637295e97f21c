/-
  ResourceCatalog/Proofs/Timer/Accounting.lean
  ============================================
  **Every timer is accounted for, and fires in its turn.**

  Whatever a program does with timers on a clock that is moved by hand, from inside of
  timers that fire as well: no timer is lost, none fires twice or after it was cancelled,
  and none is overdue.  An operation that would lead past the end of time is refused on
  its own and leaves the books in order.

  An advance comes back, with the clock at its target and nothing due by then.  If none of
  the timers that fire on the way moves the clock itself, they fire in the order of their
  deadlines, those with one deadline as they were scheduled.  A timer that is set on the way
  cannot be due before the one that fires, so it cannot come late.
-/
import ResourceCatalog.Proofs.Timer.Additivity
import ResourceCatalog.Proofs.Timer.Ledger

namespace ResourceCatalog.Timer

/-- The timers of a run are accounted for.  Handles ascend, so none is given twice.  A timer that
    was scheduled waits, has fired, or was cancelled while it waited: one of these, and once, and
    there are no other timers.  What is noted is what was scheduled and what has fired. -/
structure Accounted (past : List Event) (clock : VirtualClock Job) (log : List Record) : Prop where
  fresh : (scheduledIn past).Pairwise (fun v w => v.handle < w.handle)
  exactlyOne : ∀ w ∈ scheduledIn past,
    (clock.waiting.map Waiting.handle).count w.handle
      + ((firedIn past).map Waiting.handle).count w.handle
      + ((cancelledIn past).map Waiting.handle).count w.handle = 1
  balance : (scheduledIn past).Perm (clock.waiting ++ firedIn past ++ cancelledIn past)
  onTime : ∀ w ∈ clock.waiting, clock.now ≤ w.deadline
  noted : log.reverse.filter (fun r => r ≠ .overflow) = past.filterMap Event.record?

theorem Books.accounted {past : List Event} {clock : VirtualClock Job} {log : List Record}
    (books : Books past clock log) : Accounted past clock log where
  fresh := books.fresh
  exactlyOne w hw := by
    have distinct : ((scheduledIn past).map Waiting.handle).Nodup :=
      List.pairwise_map.mpr (books.fresh.imp (fun earlier => Nat.ne_of_lt earlier))
    have once := List.count_eq_one_of_mem distinct (List.mem_map_of_mem hw)
    rw [(books.balance.map Waiting.handle).count_eq] at once
    simpa only [List.map_append, List.count_append] using once
  balance := books.balance
  onTime := books.sound.onTime
  noted := books.noted

namespace Machine

/-- A program that runs from the start of time on a clock that is moved by hand. -/
abbrev started (ops : List Op) : Machine VirtualClock := start Scheduler.initial ops

theorem books_of_run (ops : List Op) (n : Nat) :
    Books ((started ops).history n) ((started ops).runFor n).clock
      ((started ops).runFor n).log :=
  history_induction .initial (fun _ _ _ frame books => books.act frame) n

theorem sound_runFor {m : Machine VirtualClock} (sound : m.clock.Sound) (n : Nat) :
    (m.runFor n).clock.Sound :=
  history_induction (P := fun _ clock _ => clock.Sound) sound (fun _ _ _ frame s => s.act frame) n

/-! ### An advance from its begin to its return -/

/-- The machine goes on with an advance and is done with it after `n` steps. -/
structure Advances (m : Machine VirtualClock) (n target : Nat) (rest : List Frame) : Prop where
  begins : m.stack = .advancing target :: rest
  stands : ∀ k < n, Stands (.advancing target) rest (m.runFor k)
  returns : (m.runFor n).stack = rest

theorem exists_advances {m : Machine VirtualClock} {target : Nat} {rest : List Frame}
    (begins : m.stack = .advancing target :: rest) : ∃ n, Advances m n target rest := by
  obtain ⟨clock, log, stack⟩ := m
  cases begins
  obtain ⟨n, c, l, d⟩ := exists_drains target [] clock log
  refine ⟨n + 1, rfl, ?_, ?_⟩
  · intro k hk
    exact d.stands target (Nat.le_refl _) rest k (Nat.le_of_lt_succ hk)
  · rw [d.arrives rest]

/-- When an advance is done, nothing is due and the clock stands at its target. -/
theorem Advances.arrived {m : Machine VirtualClock} {n target : Nat} {rest : List Frame}
    (a : Advances m n target rest) :
    (m.runFor n).clock.now = target ∧ firstDue? target (m.runFor n).clock.waiting = none := by
  have returns := a.returns
  cases n with
  | zero =>
    rw [runFor_zero, a.begins] at returns
    exact absurd returns (List.cons_ne_self _ _)
  | succ k =>
    obtain ⟨upper, stack⟩ := a.stands k (Nat.lt_succ_self k)
    cases upper with
    | cons frame upper =>
      -- what stands above the advance is not done
      rw [List.cons_append] at stack
      rw [runFor_succ_of_stack stack] at returns
      have shape := congrArg List.length returns
      simp only [List.length_append, List.length_cons] at shape
      omega
    | nil =>
      rw [List.nil_append] at stack
      rw [runFor_succ_of_stack stack] at returns ⊢
      cases due : firstDue? target (m.runFor k).clock.waiting with
      | some first =>
        rw [act_advancing_of_due due] at returns
        have shape := congrArg List.length returns
        simp only [List.length_append, List.length_cons] at shape
        omega
      | none =>
        rw [act_advancing_of_none due]
        exact ⟨rfl, due⟩

/-! ### The order in which timers fire -/

/-- None of the timers that fire during an advance moves the clock itself. -/
def Quiet (m : Machine VirtualClock) (n target : Nat) (rest : List Frame) : Prop :=
  ∀ k < n, ∃ upper, (m.runFor k).stack = upper ++ .advancing target :: rest ∧
    ∀ t, .advancing t ∉ upper

/-- The timers that have fired did so in order, by a time, and before all that wait. -/
structure InOrder (target : Nat) (fired : List (Waiting Job)) (clock : VirtualClock Job) :
    Prop where
  ordered : fired.Pairwise Waiting.Before
  inTime : ∀ v ∈ fired, v.deadline ≤ target
  past : ∀ v ∈ fired, v.deadline ≤ clock.now ∧ v.handle ≤ clock.issued
  ahead : ∀ v ∈ fired, ∀ w ∈ clock.waiting, v.Before w

theorem InOrder.nil (target : Nat) (clock : VirtualClock Job) : InOrder target [] clock := by
  constructor <;> simp

theorem InOrder.act {target : Nat} {fired : List (Waiting Job)} {clock : VirtualClock Job}
    (o : InOrder target fired clock) (sound : clock.Sound) {frame : Frame}
    (quiet : ∀ t, frame = .advancing t → t = target) :
    InOrder target (fired ++ firedIn (frame.event? clock).toList) (Machine.act frame clock).1 := by
  have unfired : firedIn (frame.event? clock).toList = [] →
      InOrder target fired (Machine.act frame clock).1 →
      InOrder target (fired ++ firedIn (frame.event? clock).toList)
        (Machine.act frame clock).1 := by
    intro none kept
    rwa [none, List.append_nil]
  cases deal frame clock with
  | schedules w event new later after _ =>
    refine unfired (by rw [event]; rfl) ?_
    rw [after]
    refine ⟨o.ordered, o.inTime, ?_, ?_⟩
    · intro v hv
      exact ⟨(o.past v hv).1, Nat.le_succ_of_le (o.past v hv).2⟩
    · intro v hv u hu
      rcases mem_enqueue.mp hu with rfl | old
      · obtain ⟨notLater, given⟩ := o.past v hv
        rcases Nat.lt_or_eq_of_le (Nat.le_trans notLater later) with sooner | same
        · exact Or.inl sooner
        · refine Or.inr ⟨same, ?_⟩
          rw [new]
          exact Nat.lt_succ_of_le given
      · exact o.ahead v hv u old
  | cancels w event _ after _ =>
    refine unfired (by rw [event]; rfl) ?_
    rw [after]
    exact ⟨o.ordered, o.inTime, o.past, fun v hv u hu => o.ahead v hv u (mem_dequeue.mp hu).1⟩
  | fires t w rest advance event first due after _ =>
    have more : firedIn (frame.event? clock).toList = [w] := by
      rw [event]
      rfl
    have waits : w ∈ clock.waiting := by
      rw [first]
      exact List.mem_cons_self
    have ordered := sound.ordered
    rw [first] at ordered
    rw [more, after]
    refine ⟨?_, ?_, ?_, ?_⟩
    · refine List.pairwise_append.mpr ⟨o.ordered, List.pairwise_singleton _ _, ?_⟩
      intro v hv u hu
      rw [List.mem_singleton.mp hu]
      exact o.ahead v hv w waits
    · intro v hv
      rcases List.mem_append.mp hv with old | new
      · exact o.inTime v old
      · rw [List.mem_singleton.mp new, ← quiet t advance]
        exact due
    · intro v hv
      rcases List.mem_append.mp hv with old | new
      · exact ⟨(o.ahead v old w waits).deadline_le, (o.past v old).2⟩
      · rw [List.mem_singleton.mp new]
        exact ⟨Nat.le_refl _, sound.owned.below w waits⟩
    · intro v hv u hu
      rcases List.mem_append.mp hv with old | new
      · exact o.ahead v old u (by rw [first]; exact List.mem_cons_of_mem _ hu)
      · rw [List.mem_singleton.mp new]
        exact (List.pairwise_cons.mp ordered).1 u hu
  | arrives t advance event _ after _ =>
    refine unfired (by rw [event]; rfl) ?_
    rw [after, quiet t advance]
    exact ⟨o.ordered, o.inTime, fun v hv => ⟨o.inTime v hv, (o.past v hv).2⟩, o.ahead⟩
  | leaves issued event more after _ =>
    refine unfired (by rw [event]; rfl) ?_
    rw [after]
    exact ⟨o.ordered, o.inTime,
      fun v hv => ⟨(o.past v hv).1, Nat.le_trans (o.past v hv).2 more⟩, o.ahead⟩

theorem Quiet.inOrder {m : Machine VirtualClock} {n target : Nat} {rest : List Frame}
    (quiet : Quiet m n target rest) (sound : m.clock.Sound) :
    InOrder target (firedIn (m.history n)) (m.runFor n).clock := by
  induction n with
  | zero => exact .nil target m.clock
  | succ n ih =>
    have soFar := ih (fun k hk => quiet k (Nat.lt_succ_of_lt hk))
    have soundSoFar := sound_runFor sound n
    obtain ⟨upper, stack, still⟩ := quiet n (Nat.lt_succ_self n)
    rw [history_succ, firedIn_append]
    cases upper with
    | nil =>
      rw [List.nil_append] at stack
      rw [runFor_succ_of_stack stack, event?_of_stack stack]
      refine soFar.act soundSoFar ?_
      intro t same
      exact (Frame.advancing.inj same).symm
    | cons frame upper =>
      rw [List.cons_append] at stack
      rw [runFor_succ_of_stack stack, event?_of_stack stack]
      refine soFar.act soundSoFar ?_
      intro t same
      exact absurd (same ▸ List.mem_cons_self) (still t)

/-! ### Accounting -/

/-- An advance comes back and keeps to its window.  If no timer that fires moves the clock, they
    fire by deadline and, when they have the same one, as they were scheduled. -/
structure Kept (m : Machine VirtualClock) (n target : Nat) (rest : List Frame) : Prop where
  advances : Advances m n target rest
  arrived : (m.runFor n).clock.now = target
  ahead : ∀ w ∈ (m.runFor n).clock.waiting, target < w.deadline
  ordered : Quiet m n target rest → (firedIn (m.history n)).Pairwise Waiting.Before ∧
    ∀ w ∈ firedIn (m.history n), w.deadline ≤ target

theorem exists_kept {m : Machine VirtualClock} {target : Nat} {rest : List Frame}
    (sound : m.clock.Sound) (begins : m.stack = .advancing target :: rest) :
    ∃ n, Kept m n target rest := by
  obtain ⟨n, a⟩ := exists_advances begins
  obtain ⟨arrived, none_due⟩ := a.arrived
  refine ⟨n, a, arrived, lt_deadline_of_firstDue? (sound_runFor sound n).ordered none_due, ?_⟩
  intro quiet
  have order := quiet.inOrder sound
  exact ⟨order.ordered, order.inTime⟩

/-- **The accounts of a run.**  At every moment every timer is accounted for.  Every advance
    whose target is in time, wherever in the program it stands, comes back to what is to be
    done next, with the clock at the target and all that is due by then fired in its turn. -/
theorem timer_accounting (ops : List Op) :
    (∀ n, Accounted ((started ops).history n) ((started ops).runFor n).clock
      ((started ops).runFor n).log) ∧
    ∀ i duration next rest,
      ((started ops).runFor i).stack = .script (.advance duration :: next) :: rest →
      ((started ops).runFor i).clock.now + duration ≤ endOfTime →
      ∃ n, Kept ((started ops).runFor (i + 1)) n (((started ops).runFor i).clock.now + duration)
        (.script next :: rest) := by
  constructor
  · intro n
    exact (books_of_run ops n).accounted
  · intro i duration next rest stack inTime
    refine exists_kept (books_of_run ops (i + 1)).sound ?_
    rw [runFor_succ_of_stack stack, act_script_cons, perform_advance inTime]
    rfl

/-- Timers with one deadline, one of them set and one set and cancelled by another. -/
def crowded : List Op :=
  [.after "late" (milliseconds 30) [],
   .after "early" (milliseconds 10)
     [.after "soon" 0 [], .after "gone" (milliseconds 5) [], .cancel 5],
   .after "twin" (milliseconds 10) [],
   .advance (milliseconds 20)]

theorem timer_accounting_crowded :
    ((started crowded).runFor 3).stack = [.script [.advance (milliseconds 20)]] ∧
      ((started crowded).runFor 3).clock.now + milliseconds 20 ≤ endOfTime ∧
      (∃ n, Kept ((started crowded).runFor 4) n (milliseconds 20) [.script []]) ∧
      Accounted ((started crowded).history 20) ((started crowded).runFor 20).clock
        ((started crowded).runFor 20).log ∧
      (firedIn ((started crowded).history 20)).map Waiting.handle = [2, 3, 4] ∧
      (cancelledIn ((started crowded).history 20)).map Waiting.handle = [5] ∧
      ((started crowded).runFor 20).clock.waiting.map Waiting.handle = [1] :=
  ⟨rfl, by decide, (timer_accounting crowded).2 3 (milliseconds 20) [] [] rfl (by decide),
    (timer_accounting crowded).1 20, by decide, by decide, by decide⟩

end Machine

end ResourceCatalog.Timer
