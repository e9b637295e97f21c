/-
  ResourceCatalog/Proofs/Timer/Timeouts.lean
  ==========================================
  **The timeouts of one owner, who has a browser to itself.**

  The owner remembers one handle at most.  `Timed` says that this is the one timeout
  that waits, and the one timer in the table whose payload has not run to its end;
  so to cancel it takes a timeout out that has not fired.
-/
import ResourceCatalog.Proofs.Timer.Ownership
import ResourceCatalog.Timer.BrowserClock

namespace ResourceCatalog.Timer

namespace BrowserClock

variable {α : Type} {c : BrowserClock α}

theorem isLive_iff {x : Handle} :
    c.isLive x = true ↔ ∃ t ∈ c.table, t.handle = x ∧ t.finished = false := by
  simp [isLive]

theorem isLive_cancel {x y : Handle} :
    (c.cancel x).isLive y = true ↔ c.isLive y = true ∧ y ≠ x := by
  unfold cancel
  by_cases live : c.isLive x = true
  · rw [if_pos live, isLive_iff, isLive_iff]
    simp only [List.mem_filter, decide_eq_true_eq]
    constructor
    · rintro ⟨t, ⟨ht, other⟩, rfl, running⟩
      exact ⟨⟨t, ht, rfl, running⟩, other⟩
    · rintro ⟨⟨t, ht, rfl, running⟩, other⟩
      exact ⟨t, ⟨ht, other⟩, rfl, running⟩
  · rw [if_neg live]
    constructor
    · intro running
      refine ⟨running, ?_⟩
      rintro rfl
      exact live running
    · exact And.left

theorem isLive_finish {x y : Handle} :
    (c.finish x).isLive y = true ↔ c.isLive y = true ∧ y ≠ x := by
  rw [isLive_iff, isLive_iff]
  simp only [finish, List.mem_map]
  constructor
  · rintro ⟨_, ⟨t, ht, rfl⟩, handle, running⟩
    by_cases same : t.handle = x
    · rw [if_pos same] at running
      cases running
    · rw [if_neg same] at handle running
      refine ⟨⟨t, ht, handle, running⟩, ?_⟩
      rwa [← handle]
  · rintro ⟨⟨t, ht, rfl, running⟩, other⟩
    exact ⟨t, ⟨t, ht, if_neg other⟩, rfl, running⟩

/-- The timers that are marked leave the table, which makes no difference to the others. -/
theorem isLive_prune {table : List LiveTimer}
    (pruned : table = c.table.filter (fun t => !t.finished)) {y : Handle} :
    (∃ t ∈ table, t.handle = y ∧ t.finished = false) ↔ c.isLive y = true := by
  rw [isLive_iff, pruned]
  constructor
  · rintro ⟨t, ht, same, running⟩
    exact ⟨t, (List.mem_filter.mp ht).1, same, running⟩
  · rintro ⟨t, ht, same, running⟩
    exact ⟨t, List.mem_filter.mpr ⟨ht, by simp [running]⟩, same, running⟩

end BrowserClock

/-- The one timeout that waits, and the one timer that has not run to its end, is the one
    whose handle is remembered. -/
structure Timed {α : Type} (timer : Option Handle) (c : BrowserClock α) : Prop where
  owned : Owned (fun _ => true) timer c.issued c.timeouts
  live : ∀ x, c.isLive x = true ↔ timer = some x

namespace Timed

variable {α : Type} {timer : Option Handle} {c : BrowserClock α}

theorem initial : Timed none ({} : BrowserClock α) where
  owned := Owned.nil _
  live := by simp [BrowserClock.isLive]

theorem cancel {x : Handle} (t : Timed (some x) c) : Timed none (c.cancel x) := by
  have live : c.isLive x = true := (t.live x).mpr rfl
  constructor
  · rw [BrowserClock.cancel, if_pos live]
    exact t.owned.release
  · intro y
    rw [BrowserClock.isLive_cancel, t.live]
    constructor
    · rintro ⟨same, other⟩
      exact absurd (Option.some.inj same).symm other
    · intro none
      cases none

/-- A timer that is scheduled is remembered, unless it is refused. -/
theorem schedule (t : Timed none c) (delay : Nat) (payload : α) :
    Timed (c.schedule delay payload).2 (c.schedule delay payload).1 := by
  unfold BrowserClock.schedule
  cases c.deadline? delay with
  | none =>
    constructor
    · exact t.owned.issue (Nat.le_succ _)
    · intro y
      rw [BrowserClock.isLive_iff, BrowserClock.isLive_prune rfl]
      exact t.live y
  | some deadline =>
    constructor
    · exact t.owned.start (w := ⟨c.issued + 1, deadline, payload⟩) rfl rfl
    · intro y
      rw [BrowserClock.isLive_iff]
      simp only [List.mem_append, List.mem_singleton]
      constructor
      · rintro ⟨timer, old | rfl, same, running⟩
        · have gone := (t.live y).mp ((BrowserClock.isLive_prune rfl).mp ⟨timer, old, same, running⟩)
          cases gone
        · exact congrArg some same
      · intro same
        cases same
        exact ⟨⟨c.issued + 1, false⟩, Or.inr rfl, rfl, rfl⟩

/-- The timeout that fires is the one whose handle is remembered.  When its payload has run
    to its end none is left. -/
theorem fire (t : Timed timer c) {target : Nat} {w : Waiting α} {c' : BrowserClock α}
    (hpop : c.popDue target = some (w, c')) : Timed none (c'.finish w.handle) := by
  unfold BrowserClock.popDue at hpop
  cases hdue : firstDue? target c.timeouts with
  | none =>
    rw [hdue] at hpop
    cases hpop
  | some due =>
    obtain ⟨v, rest⟩ := due
    rw [hdue] at hpop
    cases hpop
    have owned := t.owned
    rw [eq_cons_of_firstDue? hdue] at owned
    have named := owned.eq_timer List.mem_cons_self rfl
    constructor
    · exact owned.fire rfl
    · intro y
      rw [BrowserClock.isLive_finish]
      constructor
      · rintro ⟨running, other⟩
        have same := (t.live y).mp running
        rw [named] at same
        exact absurd (Option.some.inj same).symm other
      · intro none
        cases none

end Timed

end ResourceCatalog.Timer
