/-
  ResourceCatalog/Proofs/Timer/Additivity.lean
  ============================================
  **To advance twice is to advance once.**

  On a clock that is moved by hand, an advance by `a` and another by `b` come to what one
  advance by `a + b` comes to, whatever the timers do that fire on the way: set timers,
  cancel them, advance the clock themselves and leave it behind or ahead.

  Up to the first target the two run by the same steps.  There the first advance sets the
  clock to its target, which the single one does not; but an advance never looks at the
  clock: it sets it when it takes a timer out and when it arrives.
-/
import ResourceCatalog.Proofs.Timer.Machine

namespace ResourceCatalog.Timer

namespace Machine

variable {t n : Nat} {clock clock' : VirtualClock Job} {log log' : List Record}

/-! ### An advance from end to end -/

/-- An advance does not look at the clock. -/
theorem act_advancing_now (now target : Nat) :
    act (.advancing target) { clock with now } = act (.advancing target) clock := rfl

theorem runFor_advancing_now (now target : Nat) (rest : List Frame) :
    (⟨{ clock with now }, log, .advancing target :: rest⟩ : Machine VirtualClock).runFor (n + 1) =
      (⟨clock, log, .advancing target :: rest⟩ : Machine VirtualClock).runFor (n + 1) := by
  rw [runFor_cons, runFor_cons, act_advancing_now]

theorem Drains.arrives (d : Drains t [] clock log n clock' log') (rest : List Frame) :
    (⟨clock, log, .advancing t :: rest⟩ : Machine VirtualClock).runFor (n + 1) =
      ⟨{ clock' with now := t }, log', rest⟩ := by
  have there := d.runs t (Nat.le_refl t) rest
  rw [List.nil_append] at there
  rw [runFor_add, there, runFor_cons, act_advancing_of_none d.none_due]
  rfl

theorem Drains.settles (d : Drains t [] clock log n clock' log') :
    settle (⟨clock, log, [.advancing t]⟩ : Machine VirtualClock) =
      ⟨{ clock' with now := t }, log', []⟩ := by
  have ended := d.arrives []
  rw [settle_eq_of_ended (by rw [ended]), ended]

theorem Drains.call_advance {duration : Nat} (m : Machine VirtualClock)
    (inTime : m.clock.now + duration ≤ endOfTime)
    (d : Drains (m.clock.now + duration) [] m.clock [] n clock' log') :
    m.call (.advance duration) =
      (⟨{ clock' with now := m.clock.now + duration }, [], []⟩, none, log'.reverse) := by
  simp only [call, perform_advance inTime, d.settles]

theorem Drains.script_advance {duration : Nat} (inTime : clock.now + duration ≤ endOfTime)
    (d : Drains (clock.now + duration) [] clock log n clock' log') (ops : List Op)
    (rest : List Frame) :
    (⟨clock, log, .script (.advance duration :: ops) :: rest⟩ : Machine VirtualClock).runFor
      (n + 1 + 1) = ⟨{ clock' with now := clock.now + duration }, log', .script ops :: rest⟩ := by
  rw [runFor_cons, act_script_cons, perform_advance inTime]
  exact d.arrives (.script ops :: rest)

/-! ### Two advances -/

variable {a b k : Nat} {clock'' : VirtualClock Job} {log'' : List Record}

/-- One advance takes up where the first of two has come to its target. -/
theorem Drains.trans (le : t ≤ a) (first : Drains t [] clock log n clock' log')
    (second : Drains a [] { clock' with now := t } log' k clock'' log'') (rest : List Frame) :
    (⟨clock, log, .advancing a :: rest⟩ : Machine VirtualClock).runFor (n + (k + 1)) =
      ⟨{ clock'' with now := a }, log'', rest⟩ := by
  have there := first.runs a le rest
  rw [List.nil_append] at there
  rw [runFor_add, there, ← runFor_advancing_now t]
  exact second.arrives rest

/-- **Advancing is additive**, for a caller of the clock and inside of whatever is under way:
    the machine ends the same, and what was noted is the same, in the same order. -/
theorem advance_add (m : Machine VirtualClock) (a b : Nat)
    (inTime : m.clock.now + a + b ≤ endOfTime) :
    (let first := m.call (.advance a)
     let second := first.1.call (.advance b)
     let both := m.call (.advance (a + b))
     second.1 = both.1 ∧ first.2.2 ++ second.2.2 = both.2.2 ∧
       first.2.1 = none ∧ second.2.1 = none ∧ both.2.1 = none) ∧
    ∀ (log : List Record) (ops : List Op) (rest : List Frame), ∃ n k clock log',
      (⟨m.clock, log, .script (.advance a :: .advance b :: ops) :: rest⟩ :
          Machine VirtualClock).runFor n = ⟨clock, log', .script ops :: rest⟩ ∧
      (⟨m.clock, log, .script (.advance (a + b) :: ops) :: rest⟩ :
          Machine VirtualClock).runFor k = ⟨clock, log', .script ops :: rest⟩ := by
  have firstInTime : m.clock.now + a ≤ endOfTime := by omega
  have bothInTime : m.clock.now + (a + b) ≤ endOfTime := by omega
  have sum : m.clock.now + (a + b) = m.clock.now + a + b := by omega
  have sooner : m.clock.now + a ≤ m.clock.now + a + b := Nat.le_add_right _ _
  constructor
  · obtain ⟨n, c, l, first⟩ := exists_drains (m.clock.now + a) [] m.clock []
    obtain ⟨k, c', l', second⟩ :=
      exists_drains (m.clock.now + a + b) [] { c with now := m.clock.now + a } []
    have together := first.trans sooner (second.behind l) []
    have settled := settle_eq_of_ended (by rw [together])
    rw [together] at settled
    have once : m.call (.advance (a + b)) = (⟨{ c' with now := m.clock.now + a + b }, [], []⟩, none,
        l.reverse ++ l'.reverse) := by
      simp only [call, perform_advance bothInTime, sum, settled, List.reverse_append]
    have again := second.call_advance ⟨{ c with now := m.clock.now + a }, [], []⟩ inTime
    dsimp only at again ⊢
    rw [first.call_advance m firstInTime, once]
    -- the second advance starts where the first one has set the clock to
    dsimp only
    rw [again]
    exact ⟨rfl, rfl, rfl, rfl, rfl⟩
  · intro log ops rest
    obtain ⟨n, c, l, first⟩ := exists_drains (m.clock.now + a) [] m.clock log
    obtain ⟨k, c', l', second⟩ :=
      exists_drains (m.clock.now + a + b) [] { c with now := m.clock.now + a } l
    refine ⟨(n + 1 + 1) + (k + 1 + 1), n + (k + 1) + 1,
      { c' with now := m.clock.now + a + b }, l', ?_, ?_⟩
    · rw [runFor_add, first.script_advance firstInTime, second.script_advance inTime]
    · rw [runFor_cons, act_script_cons, perform_advance bothInTime, sum]
      exact first.trans sooner second (.script ops :: rest)

/-- A clock with a timer that, when it fires, sets another one and moves the clock past the
    time to which it is being moved. -/
def restless : Machine VirtualClock :=
  (initial.call (.after "tick" (milliseconds 5)
    [.after "tock" (milliseconds 3) [.cancel 1], .advance (milliseconds 2)])).1

theorem advance_add_restless :
    restless.clock.now + milliseconds 6 + milliseconds 4 ≤ endOfTime ∧
      (restless.call (.advance (milliseconds 6))).2.2 = [.fired "tick", .scheduled 2] ∧
      (restless.call (.advance (milliseconds 6 + milliseconds 4))).2.2 =
        [.fired "tick", .scheduled 2, .fired "tock"] ∧
      ((restless.call (.advance (milliseconds 6))).1.call (.advance (milliseconds 4))).1 =
        (restless.call (.advance (milliseconds 6 + milliseconds 4))).1 :=
  have inTime : restless.clock.now + milliseconds 6 + milliseconds 4 ≤ endOfTime := by decide
  ⟨inTime, by decide, by decide, (advance_add restless _ _ inTime).1.1⟩

end Machine

end ResourceCatalog.Timer
