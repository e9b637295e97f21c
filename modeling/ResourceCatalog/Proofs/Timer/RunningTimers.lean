/-
  ResourceCatalog/Proofs/Timer/RunningTimers.lean
  ===============================================
  **Timers whose payload runs, and the table that they stand in.**

  A browser runs a timeout that is due when it likes, and of several the one that it likes.
  `Machine.Next` leaves both open; what a machine does by itself, by deadline and as soon as
  it is asked to move the clock, is one way to go on among others (`next_of_step`).

  However it goes on, a timer in the table that has not run to its end either waits for its
  timeout or has its payload running (`Tabled.others`), and the timers that are scheduled
  meanwhile drop from the table what has run to its end and nothing else.  But to cancel is
  to take out whatever has not run to its end, and that includes a timer whose payload runs:
  one that cancels itself leaves the table while it runs.  So running timers stay in the table
  exactly if no timer is cancelled from inside of itself (`timersStay_iff`).
-/
import Mathlib.Logic.Relation
import ResourceCatalog.Proofs.Timer.Agreement

namespace ResourceCatalog.Timer

/-! ### The table and what waits -/

namespace BrowserClock

/-- The handles of the timers in the table. -/
def entries (c : BrowserClock Job) : List Handle := c.table.map LiveTimer.handle

theorem mem_entries {x : Handle} {c : BrowserClock Job} :
    x ∈ c.entries ↔ ∃ t ∈ c.table, t.handle = x := List.mem_map

theorem mem_entries_of_isLive {x : Handle} {c : BrowserClock Job} (live : c.isLive x = true) :
    x ∈ c.entries := by
  obtain ⟨t, ht, named, -⟩ := isLive_iff.mp live
  exact mem_entries.mpr ⟨t, ht, named⟩

theorem entries_finish (x : Handle) (c : BrowserClock Job) : (c.finish x).entries = c.entries := by
  rw [entries, entries, finish, List.map_map]
  apply List.map_congr_left
  intro t _
  simp only [Function.comp_apply]
  split <;> rfl

/-- To cancel takes out the timer that is named, if any. -/
theorem mem_entries_cancel {x y : Handle} {c : BrowserClock Job} (other : x ≠ y)
    (h : x ∈ c.entries) : x ∈ (c.cancel y).entries := by
  obtain ⟨t, ht, rfl⟩ := mem_entries.mp h
  rw [cancel]
  split
  · exact mem_entries.mpr ⟨t, List.mem_filter.mpr ⟨ht, by simpa using other⟩, rfl⟩
  · exact h

theorem not_mem_entries_cancel {x : Handle} {c : BrowserClock Job} (live : c.isLive x = true) :
    ¬ x ∈ (c.cancel x).entries := by
  rw [cancel, if_pos live, mem_entries]
  rintro ⟨t, ht, rfl⟩
  simpa using (List.mem_filter.mp ht).2

/-- Pruning takes out what has run to its end, and nothing else. -/
theorem mem_entries_schedule {x : Handle} {c : BrowserClock Job} (live : c.isLive x = true)
    (delay : Nat) (job : Job) : x ∈ (c.schedule delay job).1.entries := by
  obtain ⟨t, kept, named, -⟩ := (isLive_prune rfl).mpr live
  rw [schedule]
  cases c.deadline? delay with
  | none => exact mem_entries.mpr ⟨t, kept, named⟩
  | some deadline => exact mem_entries.mpr ⟨t, List.mem_append_left _ kept, named⟩

end BrowserClock

open BrowserClock

/-- Taking out one of the timeouts leaves those of other timers. -/
theorem mem_others_iff {before after : List (Waiting Job)} {v w : Waiting Job}
    (distinct : ((before ++ w :: after).map Waiting.handle).Nodup) :
    v ∈ before ++ after ↔ v ∈ before ++ w :: after ∧ v.handle ≠ w.handle := by
  rw [List.map_append, List.map_cons, List.nodup_middle, ← List.map_append] at distinct
  constructor
  · intro hv
    refine ⟨((List.sublist_cons_self w after).append_left before).subset hv, ?_⟩
    intro same
    exact (List.nodup_cons.mp distinct).1 (List.mem_map.mpr ⟨v, hv, same⟩)
  · rintro ⟨hv, other⟩
    rw [List.mem_append, List.mem_cons] at hv
    rcases hv with front | rfl | behind
    · exact List.mem_append_left _ front
    · exact absurd rfl other
    · exact List.mem_append_right _ behind

/-- The table while the payloads of some timers run.  What runs does not wait, and what has run to
    its end neither runs nor waits. -/
structure Tabled (running : List Handle) (c : BrowserClock Job) : Prop where
  owned : Owned (fun _ => false) none c.issued c.timeouts
  live : ∀ w ∈ c.timeouts, c.isLive w.handle = true
  spent : ∀ x ∈ running, Spent x c
  once : running.Nodup
  ended : ∀ t ∈ c.table, t.finished = true →
    ¬ t.handle ∈ running ∧ ∀ w ∈ c.timeouts, w.handle ≠ t.handle
  others : ∀ t ∈ c.table, t.finished = false →
    t.handle ∈ running ∨ ∃ w ∈ c.timeouts, w.handle = t.handle

namespace Tabled

variable {running : List Handle} {c : BrowserClock Job}

theorem initial : Tabled [] Scheduler.initial where
  owned := Owned.nil _
  live w hw := by cases hw
  spent x hx := by cases hx
  once := List.nodup_nil
  ended t ht := by cases ht
  others t ht := by cases ht

/-- What runs and is in the table has not run to its end. -/
theorem isLive_of_running (tabled : Tabled running c) {x : Handle} (runs : x ∈ running)
    (h : x ∈ c.entries) : c.isLive x = true := by
  obtain ⟨t, ht, rfl⟩ := mem_entries.mp h
  refine isLive_iff.mpr ⟨t, ht, rfl, ?_⟩
  by_contra finished
  exact (tabled.ended t ht (by simpa using finished)).1 runs

/-- Nothing depends on the time. -/
theorem atTime (tabled : Tabled running c) (now : Nat) : Tabled running { c with now } :=
  ⟨tabled.owned, tabled.live, tabled.spent, tabled.once, tabled.ended, tabled.others⟩

/-- A number is used up. -/
theorem issue (tabled : Tabled running c) : Tabled running { c with issued := c.issued + 1 } := by
  refine ⟨tabled.owned.issue (Nat.le_succ _), tabled.live, ?_, tabled.once, tabled.ended,
    tabled.others⟩
  intro x runs
  exact (tabled.spent x runs).mono (Nat.le_succ _) (fun w hw => Or.inl hw)

/-- What has run to its end leaves the table. -/
theorem prune (tabled : Tabled running c) :
    Tabled running { c with table := c.table.filter (fun t => !t.finished) } := by
  refine ⟨tabled.owned, ?_, tabled.spent, tabled.once, ?_, ?_⟩
  · intro w hw
    exact isLive_iff.mpr ((isLive_prune rfl).mpr (tabled.live w hw))
  · intro t ht
    exact tabled.ended t (List.mem_filter.mp ht).1
  · intro t ht
    exact tabled.others t (List.mem_filter.mp ht).1

/-- A new timer is put into a table in which nothing has run to its end, and waits. -/
theorem enroll (tabled : Tabled running c) (pruned : ∀ t ∈ c.table, t.finished = false)
    (deadline : Nat) (job : Job) :
    Tabled running { c with
      issued := c.issued + 1
      table := c.table ++ [⟨c.issued + 1, false⟩]
      timeouts := enqueue ⟨c.issued + 1, deadline, job⟩ c.timeouts } := by
  have unfinished : ∀ t ∈ c.table ++ [(⟨c.issued + 1, false⟩ : LiveTimer)], t.finished = false := by
    intro t ht
    rcases List.mem_append.mp ht with old | new
    · exact pruned t old
    · rw [List.mem_singleton.mp new]
  refine ⟨tabled.owned.join rfl rfl, ?_, ?_, tabled.once, ?_, ?_⟩
  · intro w hw
    rcases mem_enqueue.mp hw with rfl | old
    · exact isLive_iff.mpr ⟨_, List.mem_append_right _ List.mem_cons_self, rfl, rfl⟩
    · obtain ⟨t, ht, named⟩ := isLive_iff.mp (tabled.live w old)
      exact isLive_iff.mpr ⟨t, List.mem_append_left _ ht, named⟩
  · intro x runs
    refine (tabled.spent x runs).mono (Nat.le_succ _) ?_
    intro w hw
    rcases mem_enqueue.mp hw with rfl | old
    · exact Or.inr (Nat.lt_succ_self _)
    · exact Or.inl old
  · intro t ht finished
    rw [unfinished t ht] at finished
    cases finished
  · intro t ht unmarked
    rcases List.mem_append.mp ht with old | new
    · rcases tabled.others t old unmarked with runs | ⟨w, hw, named⟩
      · exact Or.inl runs
      · exact Or.inr ⟨w, mem_enqueue.mpr (Or.inr hw), named⟩
    · rw [List.mem_singleton.mp new]
      exact Or.inr ⟨_, mem_enqueue.mpr (Or.inl rfl), rfl⟩

theorem schedule (tabled : Tabled running c) (delay : Nat) (job : Job) :
    Tabled running (c.schedule delay job).1 := by
  rw [BrowserClock.schedule]
  cases c.deadline? delay with
  | none => exact tabled.prune.issue
  | some deadline =>
    refine tabled.prune.enroll ?_ deadline job
    intro t ht
    simpa using (List.mem_filter.mp ht).2

theorem cancel (tabled : Tabled running c) (x : Handle) : Tabled running (c.cancel x) := by
  have spent : ∀ y ∈ running, Spent y (c.cancel x) :=
    fun y hy => (tabled.spent y hy).cancel x
  by_cases named : c.isLive x = true
  · have taken : c.cancel x =
        { c with table := c.table.filter (fun t => t.handle ≠ x),
                 timeouts := dequeue x c.timeouts } := if_pos named
    have live : ∀ w ∈ dequeue x c.timeouts, (c.cancel x).isLive w.handle = true := by
      intro w hw
      obtain ⟨old, other⟩ := mem_dequeue.mp hw
      exact isLive_cancel.mpr ⟨tabled.live w old, other⟩
    rw [taken] at live spent ⊢
    refine ⟨tabled.owned.cancel (by simp), live, spent, tabled.once, ?_, ?_⟩
    · intro t ht finished
      obtain ⟨idle, gone⟩ := tabled.ended t (List.mem_filter.mp ht).1 finished
      exact ⟨idle, fun w hw => gone w (mem_dequeue.mp hw).1⟩
    · intro t ht unmarked
      obtain ⟨old, other⟩ := List.mem_filter.mp ht
      rcases tabled.others t old unmarked with runs | ⟨w, hw, same⟩
      · exact Or.inl runs
      · refine Or.inr ⟨w, mem_dequeue.mpr ⟨hw, ?_⟩, same⟩
        rw [same]
        simpa using other
  · have passed : c.cancel x = c := if_neg named
    rw [passed]
    exact tabled

/-- A timeout is run, whichever; its timer has not run to its end before. -/
theorem fire (tabled : Tabled running c) {before after : List (Waiting Job)} {w : Waiting Job}
    (waits : c.timeouts = before ++ w :: after) :
    Tabled (w.handle :: running) { c with timeouts := before ++ after } := by
  have owned := tabled.owned
  have fewer : (before ++ after).Sublist c.timeouts := by
    rw [waits]
    exact (List.sublist_cons_self w after).append_left before
  have member : w ∈ c.timeouts := by simp [waits]
  have others : ∀ v, v ∈ before ++ after ↔ v ∈ c.timeouts ∧ v.handle ≠ w.handle := by
    intro v
    rw [waits]
    exact mem_others_iff (waits ▸ owned.distinct)
  refine ⟨owned.shrink fewer (by simp [handlesOf]), ?_, ?_, ?_, ?_, ?_⟩
  · intro v hv
    exact tabled.live v (fewer.subset hv)
  · intro x runs
    rcases List.mem_cons.mp runs with rfl | runs
    · exact ⟨owned.below w member, fun v hv => ((others v).mp hv).2⟩
    · exact (tabled.spent x runs).mono (Nat.le_refl _) (fun v hv => Or.inl (fewer.subset hv))
  · refine List.nodup_cons.mpr ⟨?_, tabled.once⟩
    intro runs
    exact (tabled.spent _ runs).2 w member rfl
  · intro t ht finished
    obtain ⟨idle, gone⟩ := tabled.ended t ht finished
    refine ⟨?_, fun v hv => gone v (fewer.subset hv)⟩
    intro runs
    rcases List.mem_cons.mp runs with same | runs
    · exact gone w member same.symm
    · exact idle runs
  · intro t ht unmarked
    rcases tabled.others t ht unmarked with runs | ⟨v, hv, same⟩
    · exact Or.inl (List.mem_cons_of_mem _ runs)
    · by_cases fired : v.handle = w.handle
      · rw [← same, fired]
        exact Or.inl List.mem_cons_self
      · exact Or.inr ⟨v, (others v).mpr ⟨hv, fired⟩, same⟩

theorem finish {x : Handle} (tabled : Tabled (x :: running) c) : Tabled running (c.finish x) := by
  obtain ⟨idle, once⟩ := List.nodup_cons.mp tabled.once
  refine ⟨tabled.owned, ?_, ?_, once, ?_, ?_⟩
  · intro w hw
    exact isLive_finish.mpr
      ⟨tabled.live w hw, (tabled.spent x List.mem_cons_self).2 w hw⟩
  · intro y runs
    exact tabled.spent y (List.mem_cons_of_mem _ runs)
  · intro t ht finished
    obtain ⟨u, hu, rfl⟩ := List.mem_map.mp ht
    by_cases same : u.handle = x
    · have spent := tabled.spent x List.mem_cons_self
      rw [if_pos same]
      subst same
      exact ⟨idle, spent.2⟩
    · rw [if_neg same] at finished ⊢
      obtain ⟨idle, gone⟩ := tabled.ended u hu finished
      exact ⟨fun runs => idle (List.mem_cons_of_mem _ runs), gone⟩
  · intro t ht unmarked
    obtain ⟨u, hu, rfl⟩ := List.mem_map.mp ht
    by_cases same : u.handle = x
    · rw [if_pos same] at unmarked
      cases unmarked
    · rw [if_neg same] at unmarked ⊢
      rcases tabled.others u hu unmarked with runs | waits
      · rcases List.mem_cons.mp runs with named | runs
        · exact absurd named same
        · exact Or.inl runs
      · exact Or.inr waits

end Tabled

/-! ### A machine in a browser -/

/-- The timer whose payload runs above the frame. -/
def Frame.running? : Frame → Option Handle
  | .running handle => some handle
  | _ => none

namespace Machine

/-- The timers whose payloads run, innermost first. -/
def running (m : Machine BrowserClock) : List Handle := m.stack.filterMap Frame.running?

/-- How a machine can go on in a browser.  The operations that are innermost go on, and payloads
    run to their end.  The browser runs a timeout that is due, whichever it likes, or leaves what
    may still be due for later. -/
inductive Next : Machine BrowserClock → Machine BrowserClock → Prop where
  | operate (clock : BrowserClock Job) (log : List Record) (ops : List Op) (rest : List Frame) :
    Next ⟨clock, log, .script ops :: rest⟩
      ⟨(act (.script ops) clock).1, (act (.script ops) clock).2.1 ++ log,
        (act (.script ops) clock).2.2 ++ rest⟩
  | finish (clock : BrowserClock Job) (log : List Record) (handle : Handle) (rest : List Frame) :
    Next ⟨clock, log, .running handle :: rest⟩ ⟨clock.finish handle, log, rest⟩
  | fire (clock : BrowserClock Job) (log : List Record) (target : Nat) (rest : List Frame)
    (now : Nat) {before after : List (Waiting Job)} {w : Waiting Job}
    (waits : clock.timeouts = before ++ w :: after) (due : w.deadline ≤ target) :
    Next ⟨clock, log, .advancing target :: rest⟩
      ⟨{ clock with now, timeouts := before ++ after }, .fired w.payload.name :: log,
        .script w.payload.run :: .running w.handle :: .advancing target :: rest⟩
  | leave (clock : BrowserClock Job) (log : List Record) (target : Nat) (rest : List Frame)
    (now : Nat) :
    Next ⟨clock, log, .advancing target :: rest⟩ ⟨{ clock with now }, log, rest⟩

/-- What a machine does by itself is one way to go on. -/
theorem next_of_step {m m' : Machine BrowserClock} (hs : m.step = some m') : Next m m' := by
  obtain ⟨clock, log, stack⟩ := m
  cases stack with
  | nil => cases hs
  | cons frame rest =>
    rw [step_cons] at hs
    cases hs
    cases frame with
    | script ops => exact .operate clock log ops rest
    | running handle => exact .finish clock log handle rest
    | advancing target =>
      cases due : firstDue? target clock.timeouts with
      | none =>
        simp only [act, Scheduler.popDue, BrowserClock.popDue, due]
        exact .leave clock log target rest target
      | some first =>
        obtain ⟨w, others⟩ := first
        simp only [act, Scheduler.popDue, BrowserClock.popDue, due]
        have waits : clock.timeouts = [] ++ w :: others := eq_cons_of_firstDue? due
        exact .fire clock log target rest w.deadline waits (deadline_le_of_firstDue? due)

/-- A program can lead to that in a browser, whatever it does with the timeouts. -/
def Reachable (ops : List Op) (m : Machine BrowserClock) : Prop :=
  Relation.ReflTransGen Next (start Scheduler.initial ops) m

theorem reachable_runFor (ops : List Op) (n : Nat) :
    Reachable ops ((start Scheduler.initial ops).runFor n) := by
  induction n with
  | zero => exact .refl
  | succ n ih =>
    rw [runFor_succ]
    cases hs : ((start Scheduler.initial ops).runFor n : Machine BrowserClock).step with
    | none => exact ih
    | some m => exact ih.tail (next_of_step hs)

/-! ### What a step does to the table -/

/-- No operation starts a payload or ends one. -/
theorem running_operate (clock : BrowserClock Job) (ops : List Op) (rest : List Frame) :
    ((act (S := BrowserClock) (.script ops) clock).2.2 ++ rest).filterMap Frame.running? =
      (Frame.script ops :: rest).filterMap Frame.running? := by
  cases ops with
  | nil => rfl
  | cons op ops =>
    rw [act_script_cons]
    cases op with
    | after name delay run => rw [perform_after]; rfl
    | cancel handle => rfl
    | advance duration =>
      rw [perform_advance_eq]
      generalize (Scheduler.horizon? duration clock : Option Nat) = target
      cases target <;> rfl

theorem tabled_operate {clock : BrowserClock Job} {running : List Handle}
    (tabled : Tabled running clock) (ops : List Op) :
    Tabled running (act (.script ops) clock).1 := by
  cases ops with
  | nil => exact tabled
  | cons op ops =>
    rw [act_script_cons]
    cases op with
    | after name delay run =>
      rw [perform_after]
      exact tabled.schedule delay ⟨name, run⟩
    | cancel handle => exact tabled.cancel handle
    | advance duration =>
      rw [perform_advance_eq]
      exact tabled

theorem Next.tabled {m m' : Machine BrowserClock} (next : Next m m')
    (tabled : Tabled m.running m.clock) : Tabled m'.running m'.clock := by
  cases next with
  | operate clock log ops rest =>
    rw [running, running_operate]
    exact tabled_operate tabled ops
  | finish clock log handle rest => exact tabled.finish
  | fire clock log target rest now waits due => exact (tabled.fire waits).atTime now
  | leave clock log target rest now => exact tabled.atTime now

theorem Reachable.tabled {ops : List Op} {m : Machine BrowserClock} (reachable : Reachable ops m) :
    Tabled m.running m.clock := by
  induction reachable with
  | refl => exact .initial
  | tail _ next ih => exact next.tabled ih

/-- **Only to cancel it takes a running timer out of the table.** -/
theorem Next.stays {m m' : Machine BrowserClock} (next : Next m m')
    (tabled : Tabled m.running m.clock) {x : Handle} (runs : x ∈ m'.running)
    (entered : x ∈ m.running → x ∈ m.clock.entries)
    (spared : ∀ ops rest, m.stack = .script (.cancel x :: ops) :: rest → ¬ x ∈ m.running) :
    x ∈ m'.clock.entries := by
  cases next with
  | operate clock log ops rest =>
    rw [running, running_operate] at runs
    have ran : x ∈ running ⟨clock, log, .script ops :: rest⟩ := runs
    have live := tabled.isLive_of_running ran (entered ran)
    cases ops with
    | nil => exact entered ran
    | cons op ops =>
      rw [act_script_cons]
      cases op with
      | after name delay run =>
        rw [perform_after]
        exact mem_entries_schedule live delay ⟨name, run⟩
      | cancel y =>
        have other : x ≠ y := by
          rintro rfl
          exact spared ops rest rfl ran
        exact mem_entries_cancel other (entered ran)
      | advance duration =>
        rw [perform_advance_eq]
        exact entered ran
  | finish clock log handle rest =>
    have kept := entered (List.mem_cons_of_mem _ runs)
    rw [← entries_finish handle] at kept
    exact kept
  | fire clock log target rest now waits due =>
    rcases List.mem_cons.mp runs with rfl | ran
    · exact mem_entries_of_isLive (tabled.live _ (by simp [waits]))
    · exact entered ran
  | leave clock log target rest now => exact entered runs

/-! ### Which programs keep running timers in the table -/

/-- However a program goes on in a browser, a timer is in the table while its payload runs, and
    every other one in the table that has not run to its end waits for its timeout. -/
structure TimersStay (ops : List Op) : Prop where
  running : ∀ m, Reachable ops m → ∀ x ∈ m.running, x ∈ m.clock.entries
  others : ∀ m, Reachable ops m → ∀ t ∈ m.clock.table, t.finished = false →
    ¬ t.handle ∈ m.running → ∃ w ∈ m.clock.timeouts, w.handle = t.handle

/-- A timer is about to be cancelled while its payload runs. -/
def CancelsRunning (m : Machine BrowserClock) : Prop :=
  ∃ x ops rest, m.stack = .script (.cancel x :: ops) :: rest ∧ x ∈ m.running

theorem others_of_reachable {ops : List Op} {m : Machine BrowserClock}
    (reachable : Reachable ops m) : ∀ t ∈ m.clock.table, t.finished = false →
      ¬ t.handle ∈ m.running → ∃ w ∈ m.clock.timeouts, w.handle = t.handle := by
  intro t ht unmarked idle
  exact (reachable.tabled.others t ht unmarked).resolve_left idle

theorem running_of_spared {ops : List Op}
    (spared : ∀ m, Reachable ops m → ¬ m.CancelsRunning) {m : Machine BrowserClock}
    (reachable : Reachable ops m) : ∀ x ∈ m.running, x ∈ m.clock.entries := by
  induction reachable with
  | refl =>
    intro x runs
    cases runs
  | tail before next ih =>
    intro x runs
    refine next.stays (Reachable.tabled before) runs (ih x) ?_
    intro ops rest stack ran
    exact spared _ before ⟨x, ops, rest, stack, ran⟩

/-- A running timer that is cancelled is not in the table any more, if it was. -/
theorem exists_gone_of_cancelsRunning {ops : List Op} {m : Machine BrowserClock}
    (reachable : Reachable ops m) (cancels : m.CancelsRunning) :
    ∃ m', Reachable ops m' ∧ ∃ x ∈ m'.running, ¬ x ∈ m'.clock.entries := by
  obtain ⟨x, next, rest, stack, runs⟩ := cancels
  by_cases entered : x ∈ m.clock.entries
  · have live := reachable.tabled.isLive_of_running runs entered
    refine ⟨_, reachable.tail (next_of_step (step_of_stack stack)), x, ?_, ?_⟩
    · rw [running, stack] at runs
      rw [running, running_operate]
      exact runs
    · exact not_mem_entries_cancel live
  · exact ⟨m, reachable, x, runs, entered⟩

/-- **A timer stays in the table while its payload runs, unless it is cancelled from inside.**
    Programs for which that holds are those in which no timer is cancelled while its payload
    runs; and in every program, what is neither running nor at its end waits. -/
theorem timersStay_iff (ops : List Op) :
    (TimersStay ops ↔ ∀ m, Reachable ops m → ¬ m.CancelsRunning) ∧
      ∀ m, Reachable ops m → ∀ t ∈ m.clock.table, t.finished = false →
        ¬ t.handle ∈ m.running → ∃ w ∈ m.clock.timeouts, w.handle = t.handle := by
  refine ⟨⟨?_, ?_⟩, fun m reachable => others_of_reachable reachable⟩
  · intro stay m reachable cancels
    obtain ⟨m', reachable', x, runs, gone⟩ := exists_gone_of_cancelsRunning reachable cancels
    exact gone (stay.running m' reachable' x runs)
  · intro spared
    exact ⟨fun m reachable => running_of_spared spared reachable,
      fun m reachable => others_of_reachable reachable⟩

/-- A timer that cancels itself. -/
def selfCancelling : List Op :=
  [.after "a" (milliseconds 10) [.cancel 1], .advance (milliseconds 10)]

theorem not_timersStay_selfCancelling : ¬ TimersStay selfCancelling := by
  intro stay
  have reachable := reachable_runFor selfCancelling 4
  have entered := stay.running _ reachable 1 (by decide)
  exact absurd entered (by decide)

end Machine

end ResourceCatalog.Timer
