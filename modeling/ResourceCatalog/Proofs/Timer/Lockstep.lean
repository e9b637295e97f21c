/-
  ResourceCatalog/Proofs/Timer/Lockstep.lean
  ==========================================
  **Timers in a browser and on a clock moved by hand keep pace.**

  Two machines that run a program, one over the timeouts of a browser and one on a clock
  that is moved by hand, go through it step by step together: the same timers wait, the same
  ones fire, and the same handles are given out.  Timers that cancel themselves, that cancel
  what has fired or what never was, and that move the clock while it is being moved make no
  difference.

  The delays have to be such as a browser counts: whole milliseconds, and not too many.
-/
import ResourceCatalog.Proofs.Timer.Agreement
import ResourceCatalog.Proofs.Timer.Machine

namespace ResourceCatalog.Timer

namespace Machine

/-! ### One step of both -/

section Steps

variable {tick : Nat} {b : BrowserClock Job} {v : VirtualClock Job}

/-- What comes of two clocks that agree: they do still, the same is noted, the same is to be
    done, and it can be. -/
structure InStep (tick : Nat) (b : BrowserClock Job) {ν : Type}
    (r : BrowserClock Job × ν × List Frame) (r' : VirtualClock Job × ν × List Frame) : Prop where
  clock : Agree tick r.1 r'.1
  noted : r'.2.1 = r.2.1
  frames : r'.2.2 = r.2.2.map (Frame.onTicks tick)
  ready : ∀ f ∈ r.2.2, f.Ready r.1
  spent : KeepsSpent b r.1

theorem inStep_perform (a : Agree tick b v) {op : Op} (fits : op.Every Fits (fun _ => True)) :
    InStep tick b (perform op b) (perform (op.onTicks tick) v) := by
  cases op with
  | after name delay run =>
    have job : ScriptFits (Job.mk name run).run := fits.2
    obtain ⟨given, agree⟩ := a.schedule fits.1 job
    rw [Op.onTicks, perform_after, perform_after]
    refine ⟨agree, ?_, rfl, by simp, ?_⟩
    · exact congrArg (fun handle => some ((handle.map Record.scheduled).getD .overflow)) given
    · exact fun handle spent => spent.schedule delay _
  | cancel handle =>
    exact ⟨a.cancel handle, rfl, rfl, by simp [perform], fun x spent => spent.cancel handle⟩
  | advance duration =>
    have led : Scheduler.horizon? (wholeTicks tick duration) v = Scheduler.horizon? duration b :=
      a.horizon duration
    rw [Op.onTicks, perform_advance_eq, perform_advance_eq, led]
    refine ⟨a, rfl, ?_, ?_, fun handle spent => spent⟩
    · rw [List.map_map]
      rfl
    · intro f hf
      obtain ⟨target, -, rfl⟩ := List.mem_map.mp hf
      trivial

theorem inStep_act (a : Agree tick b v) {frame : Frame} (ready : frame.Ready b) :
    InStep tick b (act frame b) (act (frame.onTicks tick) v) := by
  cases frame with
  | script ops =>
    cases ops with
    | nil => exact ⟨a, rfl, rfl, by simp [act], fun handle spent => spent⟩
    | cons op ops =>
      have done := inStep_perform a ready.1
      rw [Frame.onTicks, scriptOnTicks, act_script_cons, act_script_cons]
      refine ⟨done.clock, congrArg Option.toList done.noted, ?_, ?_, done.spent⟩
      · rw [List.map_append, done.frames]
        rfl
      · intro f hf
        rcases List.mem_append.mp hf with new | old
        · exact done.ready f new
        · rw [List.mem_singleton.mp old]
          exact ready.2
  | running handle =>
    exact ⟨a.finish ready, rfl, rfl, by simp [act], fun x spent => spent⟩
  | advancing target =>
    have due' := a.firstDue? target
    cases due : firstDue? target b.timeouts with
    | none =>
      rw [due, Option.map_none] at due'
      have arrived : act (.advancing target) b = (b.arrive target, [], []) := by
        simp only [act, Scheduler.popDue, BrowserClock.popDue, due]
        rfl
      rw [Frame.onTicks, act_advancing_of_none due', arrived]
      exact ⟨a.arrive target, rfl, rfl, by simp, fun x spent => spent⟩
    | some first =>
      obtain ⟨w, rest⟩ := first
      rw [due, Option.map_some] at due'
      have fired : act (.advancing target) b = ({ b with now := w.deadline, timeouts := rest },
          [.fired w.payload.name],
          [.script w.payload.run, .running w.handle, .advancing target]) := by
        simp only [act, Scheduler.popDue, BrowserClock.popDue, due]
      have first := eq_cons_of_firstDue? due
      obtain ⟨agree, gone, fits⟩ := a.fire first
      rw [Frame.onTicks, act_advancing_of_due due', fired]
      refine ⟨agree, rfl, rfl, ?_, ?_⟩
      · intro f hf
        simp only [List.mem_cons, List.not_mem_nil, or_false] at hf
        rcases hf with rfl | rfl | rfl
        · exact fits
        · exact gone
        · trivial
      · intro x spent
        refine spent.mono (Nat.le_refl _) ?_
        intro u hu
        left
        rw [first]
        exact List.mem_cons_of_mem _ hu

end Steps

/-! ### Both to the end -/

/-- Two machines with the same under way on two clocks that agree. -/
structure Lockstep (tick : Nat) (m : Machine BrowserClock) (m' : Machine VirtualClock) : Prop where
  clock : Agree tick m.clock m'.clock
  log : m'.log = m.log
  stack : m'.stack = m.stack.map (Frame.onTicks tick)
  ready : ∀ f ∈ m.stack, f.Ready m.clock

namespace Lockstep

variable {tick : Nat} {m : Machine BrowserClock} {m' : Machine VirtualClock}

/-- If one of them has ended so has the other, and if one takes a step so does the other. -/
theorem step (l : Lockstep tick m m') :
    (m.step = none ∧ m'.step = none) ∨
      ∃ n n', m.step = some n ∧ m'.step = some n' ∧ Lockstep tick n n' := by
  have stack' := l.stack
  cases stack : m.stack with
  | nil =>
    rw [stack, List.map_nil] at stack'
    exact Or.inl ⟨step_none_iff.mpr stack, step_none_iff.mpr stack'⟩
  | cons frame rest =>
    have ready := l.ready
    rw [stack] at ready
    rw [stack, List.map_cons] at stack'
    have acted := inStep_act l.clock (ready frame List.mem_cons_self)
    refine Or.inr ⟨_, _, step_of_stack stack, step_of_stack stack', acted.clock, ?_, ?_, ?_⟩
    · rw [acted.noted, l.log]
    · rw [acted.frames, List.map_append]
    · intro f hf
      rcases List.mem_append.mp hf with new | old
      · exact acted.ready f new
      · exact (ready f (List.mem_cons_of_mem _ old)).mono acted.spent

theorem runFor (l : Lockstep tick m m') (n : Nat) : Lockstep tick (m.runFor n) (m'.runFor n) := by
  induction n generalizing m m' with
  | zero => exact l
  | succ n ih =>
    rw [Machine.runFor, Machine.runFor]
    rcases l.step with ⟨ended, ended'⟩ | ⟨k, k', hs, hs', next⟩
    · rw [ended, ended']
      exact l
    · rw [hs, hs']
      exact ih next

theorem weight (l : Lockstep tick m m') : m'.weight = m.weight := by
  rw [Machine.weight, Machine.weight, l.stack, totalWeight_map]
  have same : Frame.weight ∘ Frame.onTicks tick = Frame.weight :=
    funext (Frame.weight_onTicks tick)
  have same' : waitingWeight ∘ Waiting.map (Job.onTicks tick) = waitingWeight :=
    funext (fun w => congrArg (· + 3) (scriptWeight_onTicks tick w.payload.run))
  have waiting : Scheduler.waiting m'.clock =
      (Scheduler.waiting m.clock).map (Waiting.map (Job.onTicks tick)) := l.clock.waiting
  rw [same, waiting, totalWeight_map, same']

theorem settle (l : Lockstep tick m m') : Lockstep tick m.settle m'.settle := by
  rw [Machine.settle, Machine.settle, l.weight]
  exact l.runFor _

theorem call (l : Lockstep tick m m') {op : Op} (fits : op.Every Fits (fun _ => True)) :
    (m'.call (op.onTicks tick)).2 = (m.call op).2 ∧
      Lockstep tick (m.call op).1 (m'.call (op.onTicks tick)).1 := by
  have done := inStep_perform l.clock fits
  have begun : Lockstep tick { clock := (perform op m.clock).1, stack := (perform op m.clock).2.2 }
      { clock := (perform (op.onTicks tick) m'.clock).1,
        stack := (perform (op.onTicks tick) m'.clock).2.2 } :=
    ⟨done.clock, rfl, done.frames, done.ready⟩
  have ended := begun.settle
  refine ⟨?_, ended.clock, rfl, ended.stack, ended.ready⟩
  exact Prod.ext done.noted (congrArg List.reverse ended.log)

theorem start {b : BrowserClock Job} {v : VirtualClock Job} (a : Agree tick b v) {ops : List Op}
    (fits : ScriptFits ops) :
    Lockstep tick (Machine.start b ops) (Machine.start v (scriptOnTicks tick ops)) where
  clock := a
  log := rfl
  stack := rfl
  ready f hf := by
    rw [List.mem_singleton.mp hf]
    exact fits

end Lockstep

/-! ### One program on two clocks -/

/-- What a caller gets who has operations carried out one after the other: what each of them
    gave back, what was noted meanwhile, and how many timers wait after it. -/
def answers {S : Type → Type} [Scheduler S] (m : Machine S) :
    List Op → List (Option Record × List Record × Nat)
  | [] => []
  | op :: ops =>
    ((m.call op).2.1, (m.call op).2.2, (Scheduler.waiting (m.call op).1.clock).length)
      :: answers (m.call op).1 ops

theorem Lockstep.answers {tick : Nat} {m : Machine BrowserClock} {m' : Machine VirtualClock}
    (l : Lockstep tick m m') {ops : List Op} (fits : ScriptFits ops) :
    m'.answers (scriptOnTicks tick ops) = m.answers ops := by
  induction ops generalizing m m' with
  | nil => rfl
  | cons op ops ih =>
    obtain ⟨same, next⟩ := l.call fits.1
    have waiting : Scheduler.waiting (m'.call (op.onTicks tick)).1.clock =
        (Scheduler.waiting (m.call op).1.clock).map (Waiting.map (Job.onTicks tick)) :=
      next.clock.waiting
    rw [scriptOnTicks, Machine.answers, Machine.answers, ih next fits.2, same, waiting,
      List.length_map]

/-- The same time, the same handles given out, the same timers waiting, and the same noted:
    which timers fired, which were scheduled and what was refused. -/
structure SameTimers (m : Machine BrowserClock) (m' : Machine VirtualClock) : Prop where
  now : m.clock.now = m'.clock.now
  issued : m.clock.issued = m'.clock.issued
  waiting : m.clock.timeouts.map (fun w => (w.handle, w.deadline, w.payload.name)) =
    m'.clock.waiting.map (fun w => (w.handle, w.deadline, w.payload.name))
  log : m.log = m'.log

theorem Lockstep.sameTimers {tick : Nat} {m : Machine BrowserClock} {m' : Machine VirtualClock}
    (l : Lockstep tick m m') : SameTimers m m' where
  now := l.clock.now.symm
  issued := l.clock.issued.symm
  waiting := by
    rw [l.clock.waiting, List.map_map]
    rfl
  log := l.log.symm

/-- A browser whose clock moves by ticks keeps pace with a clock that is moved by hand: at
    every moment of two programs, and in all that a caller gets from their operations. -/
structure KeepsPace (tick : Nat) (ops ops' : List Op) : Prop where
  moments : ∀ n, SameTimers ((start (browser tick) ops).runFor n)
    ((start Scheduler.initial ops').runFor n)
  answers : answers ({ clock := browser tick } : Machine BrowserClock) ops =
    answers (initial : Machine VirtualClock) ops'

/-- **Two clocks, one program.**  With delays that a browser takes, its timers keep pace with
    those on a clock moved by hand that is moved by as much: whole ticks.  So they keep pace
    over one program if its durations are whole ticks, and over every program if the clock
    of the browser counts as finely as time does. -/
theorem clocks_agree (ops : List Op) (fits : ScriptFits ops) :
    (∀ tick, KeepsPace tick ops (scriptOnTicks tick ops)) ∧
      (∀ tick, scriptEvery (fun _ => True) (tick ∣ ·) ops → KeepsPace tick ops ops) ∧
      KeepsPace 1 ops ops := by
  have pace : ∀ tick, KeepsPace tick ops (scriptOnTicks tick ops) := by
    intro tick
    have begun : Lockstep tick { clock := browser tick } initial :=
      ⟨.initial tick, rfl, rfl, by simp⟩
    refine ⟨fun n => ?_, (begun.answers fits).symm⟩
    exact ((Lockstep.start (.initial tick) fits).runFor n).sameTimers
  have whole : ∀ tick, scriptEvery (fun _ => True) (tick ∣ ·) ops → KeepsPace tick ops ops := by
    intro tick dvd
    have kept := pace tick
    rwa [scriptOnTicks_eq_self ops dvd] at kept
  exact ⟨pace, whole, whole 1 (scriptEvery_of_forall (fun _ => trivial) Nat.one_dvd ops)⟩

/-- A timer that cancels itself, sets another and moves the clock past where it is being
    moved; handles that have fired and that never were. -/
def tangled : List Op :=
  [.after "self" (milliseconds 5)
     [.cancel 1, .after "again" (milliseconds 5) [], .advance (milliseconds 7)],
   .cancel 9, .advance (milliseconds 6), .cancel 1]

theorem clocks_agree_tangled :
    ScriptFits tangled ∧ scriptEvery (fun _ => True) (milliseconds 1 ∣ ·) tangled ∧
      KeepsPace (milliseconds 1) tangled tangled ∧
      answers (Machine.initial : Machine BrowserClock) tangled =
        [(some (.scheduled 1), [], 1), (none, [], 1),
         (none, [.fired "self", .scheduled 2, .fired "again"], 0), (none, [], 0)] :=
  have fits : ScriptFits tangled := by
    simp only [ScriptFits, scriptEvery, Op.Every, Fits, tangled, and_true]
    decide
  have whole : scriptEvery (fun _ => True) (milliseconds 1 ∣ ·) tangled := by
    simp only [scriptEvery, Op.Every, tangled, and_true, true_and]
    decide
  ⟨fits, whole, (clocks_agree tangled fits).2.1 _ whole, by decide⟩

end Machine

end ResourceCatalog.Timer
