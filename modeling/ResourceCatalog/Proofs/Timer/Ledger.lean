/-
  ResourceCatalog/Proofs/Timer/Ledger.lean
  ========================================
  **What becomes of the timers of a program.**

  Three things happen to a timer: it is scheduled, it fires, or it is cancelled while it
  waits.  The history of a run is the list of these events, and its books balance: what was
  scheduled is what waits, what has fired and what was cancelled, each timer in one of the
  three places and once.

  What a step can do to the clock is said once, by `deal`; what holds of every clock that a
  program can lead to (`VirtualClock.Sound`) and the books (`Books`) follow from it.
-/
import ResourceCatalog.Proofs.Timer.Machine

namespace ResourceCatalog.Timer

/-! ### Events -/

/-- What happens to a timer. -/
inductive Event where
  | scheduled (w : Waiting Job)
  | fired (w : Waiting Job)
  | cancelled (w : Waiting Job)

namespace Event

def scheduled? : Event → Option (Waiting Job)
  | .scheduled w => some w
  | _ => none

def fired? : Event → Option (Waiting Job)
  | .fired w => some w
  | _ => none

def cancelled? : Event → Option (Waiting Job)
  | .cancelled w => some w
  | _ => none

/-- What a machine notes of it. -/
def record? : Event → Option Record
  | .scheduled w => some (.scheduled w.handle)
  | .fired w => some (.fired w.payload.name)
  | .cancelled _ => none

end Event

def scheduledIn (past : List Event) : List (Waiting Job) := past.filterMap Event.scheduled?

def firedIn (past : List Event) : List (Waiting Job) := past.filterMap Event.fired?

def cancelledIn (past : List Event) : List (Waiting Job) := past.filterMap Event.cancelled?

@[simp] theorem scheduledIn_append (past more : List Event) :
    scheduledIn (past ++ more) = scheduledIn past ++ scheduledIn more := List.filterMap_append

@[simp] theorem firedIn_append (past more : List Event) :
    firedIn (past ++ more) = firedIn past ++ firedIn more := List.filterMap_append

@[simp] theorem cancelledIn_append (past more : List Event) :
    cancelledIn (past ++ more) = cancelledIn past ++ cancelledIn more := List.filterMap_append

/-- What the next step does to a timer, if that is for this frame. -/
def Frame.event? (frame : Frame) (clock : VirtualClock Job) : Option Event :=
  match frame with
  | .script (.after name delay run :: _) =>
    (inTime? (clock.now + delay)).map
      (fun deadline => .scheduled ⟨clock.issued + 1, deadline, ⟨name, run⟩⟩)
  | .script (.cancel handle :: _) =>
    (clock.waiting.find? (fun w => w.handle = handle)).map .cancelled
  | .advancing target => (firstDue? target clock.waiting).map (fun due => .fired due.1)
  | _ => none

namespace Machine

/-- What the next step does to a timer. -/
def event? (m : Machine VirtualClock) : Option Event :=
  m.stack.head?.bind (fun frame => frame.event? m.clock)

theorem event?_of_stack {m : Machine VirtualClock} {frame : Frame} {rest : List Frame}
    (stack : m.stack = frame :: rest) : m.event? = frame.event? m.clock := by
  rw [event?, stack, List.head?_cons, Option.bind_some]

/-- What happened to timers in the first steps. -/
def history (m : Machine VirtualClock) (n : Nat) : List Event :=
  (List.range n).filterMap (fun k => (m.runFor k).event?)

theorem history_succ (m : Machine VirtualClock) (n : Nat) :
    m.history (n + 1) = m.history n ++ (m.runFor n).event?.toList := by
  rw [history, List.range_succ, List.filterMap_append, List.filterMap_cons, List.filterMap_nil]
  cases (m.runFor n).event? with
  | none => rfl
  | some event => rfl

/-- **Induction along a run.**  What holds at the start and is kept by what a step does for
    the innermost frame holds at every moment. -/
theorem history_induction {P : List Event → VirtualClock Job → List Record → Prop}
    {m : Machine VirtualClock} (start : P [] m.clock m.log)
    (act : ∀ past clock log frame, P past clock log →
      P (past ++ (frame.event? clock).toList) (act frame clock).1 ((act frame clock).2.1 ++ log))
    (n : Nat) : P (m.history n) (m.runFor n).clock (m.runFor n).log := by
  induction n with
  | zero => exact start
  | succ n ih =>
    rw [history_succ]
    cases stack : (m.runFor n).stack with
    | nil =>
      rw [runFor_succ, step_none_iff.mpr stack, event?, stack]
      simpa using ih
    | cons frame rest =>
      rw [runFor_succ_of_stack stack, event?_of_stack stack]
      exact act _ _ _ frame ih

/-! ### What a step can do to the clock -/

/-- What a step does to the clock for the innermost frame.  When it leaves the timers alone, a
    handle may be used up without one. -/
inductive Deal (frame : Frame) (clock : VirtualClock Job) : Prop where
  | schedules (w : Waiting Job) (event : frame.event? clock = some (.scheduled w))
      (new : w.handle = clock.issued + 1) (later : clock.now ≤ w.deadline)
      (after : (act frame clock).1 =
        { clock with issued := clock.issued + 1, waiting := enqueue w clock.waiting })
      (noted : (act frame clock).2.1 = [.scheduled w.handle])
  | cancels (w : Waiting Job) (event : frame.event? clock = some (.cancelled w))
      (waits : w ∈ clock.waiting)
      (after : (act frame clock).1 = { clock with waiting := dequeue w.handle clock.waiting })
      (noted : (act frame clock).2.1 = [])
  | fires (target : Nat) (w : Waiting Job) (rest : List (Waiting Job))
      (advance : frame = .advancing target) (event : frame.event? clock = some (.fired w))
      (first : clock.waiting = w :: rest) (due : w.deadline ≤ target)
      (after : (act frame clock).1 = { clock with now := w.deadline, waiting := rest })
      (noted : (act frame clock).2.1 = [.fired w.payload.name])
  | arrives (target : Nat) (advance : frame = .advancing target)
      (event : frame.event? clock = none) (none_due : firstDue? target clock.waiting = none)
      (after : (act frame clock).1 = { clock with now := target })
      (noted : (act frame clock).2.1 = [])
  | leaves (issued : Nat) (event : frame.event? clock = none) (more : clock.issued ≤ issued)
      (after : (act frame clock).1 = { clock with issued })
      (noted : ∀ r ∈ (act frame clock).2.1, r = .overflow)

theorem Deal.of_after (name : String) (delay : Nat) (run ops : List Op)
    (clock : VirtualClock Job) : Deal (.script (.after name delay run :: ops)) clock := by
  cases due : inTime? (clock.now + delay) with
  | none =>
    have refused : Scheduler.schedule delay ⟨name, run⟩ clock =
        ({ clock with issued := clock.issued + 1 }, none) := by
      simp only [Scheduler.schedule, VirtualClock.schedule, due]
    have done : perform (.after name delay run) clock =
        ({ clock with issued := clock.issued + 1 }, some .overflow, []) := by
      simp only [perform, refused]
    refine .leaves (clock.issued + 1) ?_ (Nat.le_succ _) ?_ ?_
    · rw [Frame.event?, due, Option.map_none]
    · rw [act_script_cons, done]
    · rw [act_script_cons, done]
      simp
  | some deadline =>
    have deadline_eq : clock.now + delay = deadline := by
      rw [inTime?] at due
      split at due
      · exact Option.some.inj due
      · cases due
    have given : Scheduler.schedule delay ⟨name, run⟩ clock =
        ({ clock with issued := clock.issued + 1,
                      waiting := enqueue ⟨clock.issued + 1, deadline, ⟨name, run⟩⟩ clock.waiting },
         some (clock.issued + 1)) := by
      simp only [Scheduler.schedule, VirtualClock.schedule, due]
    refine .schedules ⟨clock.issued + 1, deadline, ⟨name, run⟩⟩ ?_ rfl ?_ ?_ ?_
    · rw [Frame.event?, due, Option.map_some]
    · exact Nat.le.intro deadline_eq
    · simp only [act_script_cons, perform, given]
    · simp only [act_script_cons, perform, given, Option.toList_some]

theorem Deal.of_cancel (handle : Handle) (ops : List Op) (clock : VirtualClock Job) :
    Deal (.script (.cancel handle :: ops)) clock := by
  cases found : clock.waiting.find? (fun w => w.handle = handle) with
  | none =>
    have absent : ∀ w ∈ clock.waiting, w.handle ≠ handle := by
      simpa using List.find?_eq_none.mp found
    refine .leaves clock.issued ?_ (Nat.le_refl _) ?_ ?_
    · rw [Frame.event?, found, Option.map_none]
    · exact congrArg (fun waiting => { clock with waiting }) (dequeue_eq_self absent)
    · simp [act_script_cons, perform]
  | some w =>
    have named : w.handle = handle := by simpa using List.find?_some found
    refine .cancels w ?_ (List.mem_of_find?_eq_some found) ?_ rfl
    · rw [Frame.event?, found, Option.map_some]
    · rw [named]
      rfl

theorem Deal.of_advance (duration : Nat) (ops : List Op) (clock : VirtualClock Job) :
    Deal (.script (.advance duration :: ops)) clock := by
  refine .leaves clock.issued rfl (Nat.le_refl _) ?_ ?_
  · rw [act_script_cons, perform]
    cases Scheduler.horizon? duration clock with
    | none => rfl
    | some target => rfl
  · rw [act_script_cons, perform]
    cases Scheduler.horizon? duration clock with
    | none => simp
    | some target => simp

theorem Deal.of_advancing (target : Nat) (clock : VirtualClock Job) :
    Deal (.advancing target) clock := by
  cases due : firstDue? target clock.waiting with
  | none =>
    refine .arrives target rfl ?_ due ?_ ?_
    · rw [Frame.event?, due, Option.map_none]
    · rw [act_advancing_of_none due]
    · rw [act_advancing_of_none due]
  | some first =>
    obtain ⟨w, rest⟩ := first
    refine .fires target w rest rfl ?_ (eq_cons_of_firstDue? due) (deadline_le_of_firstDue? due)
      ?_ ?_
    · rw [Frame.event?, due, Option.map_some]
    · rw [act_advancing_of_due due]
    · rw [act_advancing_of_due due]

theorem deal (frame : Frame) (clock : VirtualClock Job) : Deal frame clock := by
  cases frame with
  | script ops =>
    cases ops with
    | nil => exact .leaves clock.issued rfl (Nat.le_refl _) rfl (by simp [act])
    | cons op ops =>
      cases op with
      | after name delay run => exact .of_after name delay run ops clock
      | cancel handle => exact .of_cancel handle ops clock
      | advance duration => exact .of_advance duration ops clock
  | running handle => exact .leaves clock.issued rfl (Nat.le_refl _) rfl (by simp [act])
  | advancing target => exact .of_advancing target clock

end Machine

/-! ### Clocks that programs lead to -/

/-- The timers that wait have handles of their own that were given out, stand in the order in
    which they fire, and none of them is overdue. -/
structure VirtualClock.Sound (clock : VirtualClock Job) : Prop where
  owned : Owned (fun _ => false) none clock.issued clock.waiting
  ordered : clock.waiting.Pairwise Waiting.Before
  onTime : ∀ w ∈ clock.waiting, clock.now ≤ w.deadline

namespace VirtualClock.Sound

variable {clock : VirtualClock Job}

theorem initial : Sound (Scheduler.initial : VirtualClock Job) where
  owned := Owned.nil _
  ordered := List.Pairwise.nil
  onTime w hw := by cases hw

theorem act (sound : clock.Sound) (frame : Frame) : (Machine.act frame clock).1.Sound := by
  cases Machine.deal frame clock with
  | schedules w _ new later after _ =>
    rw [after]
    refine ⟨sound.owned.join new rfl, pairwise_enqueue sound.ordered ?_, ?_⟩
    · intro v hv
      rw [new]
      exact Nat.lt_succ_of_le (sound.owned.below v hv)
    · intro v hv
      rcases mem_enqueue.mp hv with rfl | old
      · exact later
      · exact sound.onTime v old
  | cancels w _ _ after _ =>
    rw [after]
    refine ⟨sound.owned.cancel (by simp), sound.ordered.filter _, ?_⟩
    intro v hv
    exact sound.onTime v (mem_dequeue.mp hv).1
  | fires target w rest _ _ first _ after _ =>
    rw [after]
    have owned := sound.owned
    have ordered := sound.ordered
    rw [first] at owned ordered
    obtain ⟨before, ordered⟩ := List.pairwise_cons.mp ordered
    exact ⟨owned.pass rfl, ordered, fun v hv => (before v hv).deadline_le⟩
  | arrives target _ _ none_due after _ =>
    rw [after]
    refine ⟨sound.owned, sound.ordered, ?_⟩
    intro v hv
    exact Nat.le_of_lt (lt_deadline_of_firstDue? sound.ordered none_due v hv)
  | leaves issued _ more after _ =>
    rw [after]
    exact ⟨sound.owned.issue more, sound.ordered, sound.onTime⟩

end VirtualClock.Sound

/-! ### The books -/

theorem perm_dequeue {w : Waiting Job} {ws : List (Waiting Job)} (waits : w ∈ ws)
    (distinct : (ws.map Waiting.handle).Nodup) : ws.Perm (w :: dequeue w.handle ws) := by
  induction ws with
  | nil => cases waits
  | cons v vs ih =>
    obtain ⟨fresh, distinct⟩ := List.nodup_cons.mp distinct
    rcases List.mem_cons.mp waits with rfl | waits
    · have others : ∀ u ∈ vs, u.handle ≠ w.handle := by
        intro u hu same
        exact fresh (same ▸ List.mem_map_of_mem hu)
      have kept : dequeue w.handle (w :: vs) = vs := by
        rw [dequeue, List.filter_cons_of_neg (by simp)]
        exact dequeue_eq_self others
      rw [kept]
    · have other : v.handle ≠ w.handle := by
        intro same
        exact fresh (same ▸ List.mem_map_of_mem waits)
      have kept : dequeue w.handle (v :: vs) = v :: dequeue w.handle vs := by
        rw [dequeue, List.filter_cons_of_pos (by simp [other])]
        rfl
      rw [kept]
      exact ((ih waits distinct).cons v).trans (List.Perm.swap w v _)

/-- What one step enters into the books. -/
structure Machine.Entry (frame : Frame) (clock : VirtualClock Job) (event : List Event) : Prop where
  single : (scheduledIn event).Pairwise (fun v w => v.handle < w.handle)
  new : ∀ w ∈ scheduledIn event, clock.issued < w.handle ∧ w.handle ≤ (act frame clock).1.issued
  more : clock.issued ≤ (act frame clock).1.issued
  balance : (scheduledIn event ++ clock.waiting).Perm
    ((act frame clock).1.waiting ++ firedIn event ++ cancelledIn event)
  noted : (act frame clock).2.1.reverse.filter (fun r => r ≠ .overflow) =
    event.filterMap Event.record?

theorem Machine.entry {clock : VirtualClock Job} (sound : clock.Sound) (frame : Frame) :
    Entry frame clock (frame.event? clock).toList := by
  cases deal frame clock with
  | schedules w event new _ after noted =>
    rw [event]
    refine ⟨List.pairwise_singleton _ _, ?_, ?_, ?_, ?_⟩
    · intro v hv
      rw [List.mem_singleton.mp hv, after, new]
      exact ⟨Nat.lt_succ_self _, Nat.le_refl _⟩
    · rw [after]
      exact Nat.le_succ _
    · rw [after]
      simpa [scheduledIn, firedIn, cancelledIn, List.filterMap_cons, Event.scheduled?,
        Event.fired?, Event.cancelled?] using (enqueue_perm w clock.waiting).symm
    · rw [noted]
      rfl
  | cancels w event waits after noted =>
    rw [event]
    refine ⟨List.Pairwise.nil, fun v hv => (by cases hv), ?_, ?_, ?_⟩
    · exact Nat.le_of_eq (congrArg VirtualClock.issued after).symm
    · rw [after]
      have taken := (perm_dequeue waits sound.owned.distinct).trans
        (List.perm_append_singleton w (dequeue w.handle clock.waiting)).symm
      simpa [scheduledIn, firedIn, cancelledIn, List.filterMap_cons, Event.scheduled?,
        Event.fired?, Event.cancelled?] using taken
    · rw [noted]
      rfl
  | fires target w rest _ event first _ after noted =>
    rw [event]
    refine ⟨List.Pairwise.nil, fun v hv => (by cases hv), ?_, ?_, ?_⟩
    · exact Nat.le_of_eq (congrArg VirtualClock.issued after).symm
    · rw [after, first]
      simpa [scheduledIn, firedIn, cancelledIn, List.filterMap_cons, Event.scheduled?,
        Event.fired?, Event.cancelled?] using (List.perm_append_singleton w rest).symm
    · rw [noted]
      rfl
  | arrives target _ event _ after noted =>
    rw [event]
    refine ⟨List.Pairwise.nil, fun v hv => (by cases hv), ?_, ?_, ?_⟩
    · exact Nat.le_of_eq (congrArg VirtualClock.issued after).symm
    · rw [after]
      simp [scheduledIn, firedIn, cancelledIn]
    · rw [noted]
      rfl
  | leaves issued event more after noted =>
    rw [event]
    refine ⟨List.Pairwise.nil, fun v hv => (by cases hv), ?_, ?_, ?_⟩
    · rw [after]
      exact more
    · rw [after]
      simp [scheduledIn, firedIn, cancelledIn]
    · simpa using noted

/-- The books of a run: what was scheduled, under ever new handles, is what waits, what has
    fired and what was cancelled; and all but the cancelling is noted. -/
structure Books (past : List Event) (clock : VirtualClock Job) (log : List Record) : Prop where
  sound : clock.Sound
  fresh : (scheduledIn past).Pairwise (fun v w => v.handle < w.handle)
  given : ∀ w ∈ scheduledIn past, w.handle ≤ clock.issued
  balance : (scheduledIn past).Perm (clock.waiting ++ firedIn past ++ cancelledIn past)
  noted : log.reverse.filter (fun r => r ≠ .overflow) = past.filterMap Event.record?

namespace Books

variable {past : List Event} {clock : VirtualClock Job} {log : List Record}

theorem initial : Books [] (Scheduler.initial : VirtualClock Job) [] where
  sound := .initial
  fresh := List.Pairwise.nil
  given w hw := by cases hw
  balance := List.Perm.refl _
  noted := rfl

theorem act (books : Books past clock log) (frame : Frame) :
    Books (past ++ (frame.event? clock).toList) (Machine.act frame clock).1
      ((Machine.act frame clock).2.1 ++ log) := by
  have entry := Machine.entry books.sound frame
  refine ⟨books.sound.act frame, ?_, ?_, ?_, ?_⟩
  · rw [scheduledIn_append, List.pairwise_append]
    refine ⟨books.fresh, entry.single, ?_⟩
    intro v hv w hw
    exact Nat.lt_of_le_of_lt (books.given v hv) (entry.new w hw).1
  · intro w hw
    rw [scheduledIn_append] at hw
    rcases List.mem_append.mp hw with old | new
    · exact Nat.le_trans (books.given w old) entry.more
    · exact (entry.new w new).2
  · classical
    rw [scheduledIn_append, firedIn_append, cancelledIn_append, List.perm_iff_count]
    intro w
    have before := books.balance.count_eq w
    have moved := entry.balance.count_eq w
    simp only [List.count_append] at before moved ⊢
    omega
  · rw [List.reverse_append, List.filter_append, List.filterMap_append, books.noted, entry.noted]

end Books

end ResourceCatalog.Timer
