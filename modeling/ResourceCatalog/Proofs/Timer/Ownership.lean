/-
  ResourceCatalog/Proofs/Timer/Ownership.lean
  ===========================================
  **One owner's timer among those that wait.**

  The owner of some timers remembers one handle at most.  `Owned` says that its
  timers among those that wait are the one with this handle, if it remembers one,
  and none otherwise.  Whatever the owner does keeps that: it takes its timer out,
  or has another one wait, or its timer fires.  So does whatever others do with
  timers of theirs.

  Handles are numbers that are never given twice, so no two timers share one.
-/
import Mathlib.Data.List.Nodup
import ResourceCatalog.Timer.Scheduler

namespace ResourceCatalog.Timer

variable {α : Type}

theorem enqueue_perm (w : Waiting α) (ws : List (Waiting α)) : (enqueue w ws).Perm (w :: ws) := by
  induction ws with
  | nil => exact List.Perm.refl _
  | cons v vs ih =>
    unfold enqueue
    split
    · exact (ih.cons v).trans (List.Perm.swap w v vs)
    · exact List.Perm.refl _

theorem mem_enqueue {v w : Waiting α} {ws : List (Waiting α)} :
    v ∈ enqueue w ws ↔ v = w ∨ v ∈ ws := by
  rw [(enqueue_perm w ws).mem_iff, List.mem_cons]

theorem mem_dequeue {x : Handle} {v : Waiting α} {ws : List (Waiting α)} :
    v ∈ dequeue x ws ↔ v ∈ ws ∧ v.handle ≠ x := by
  simp [dequeue]

theorem eq_cons_of_firstDue? {target : Nat} {w : Waiting α} {ws rest : List (Waiting α)}
    (h : firstDue? target ws = some (w, rest)) : ws = w :: rest := by
  cases ws with
  | nil => cases h
  | cons v vs =>
    rw [firstDue?] at h
    by_cases due : v.deadline ≤ target
    · rw [if_pos due] at h
      cases h
      rfl
    · rw [if_neg due] at h
      cases h

/-- The handles of an owner's timers. -/
def handlesOf (own : α → Bool) (ws : List (Waiting α)) : List Handle :=
  (ws.filter (fun w => own w.payload)).map Waiting.handle

theorem handlesOf_cons_own {own : α → Bool} {w : Waiting α} (mine : own w.payload = true)
    (ws : List (Waiting α)) : handlesOf own (w :: ws) = w.handle :: handlesOf own ws := by
  simp [handlesOf, mine]

theorem handlesOf_cons_foreign {own : α → Bool} {w : Waiting α} (foreign : own w.payload = false)
    (ws : List (Waiting α)) : handlesOf own (w :: ws) = handlesOf own ws := by
  simp [handlesOf, foreign]

theorem handlesOf_enqueue (own : α → Bool) (w : Waiting α) (ws : List (Waiting α)) :
    (handlesOf own (enqueue w ws)).Perm (handlesOf own (w :: ws)) :=
  ((enqueue_perm w ws).filter _).map _

theorem mem_handlesOf {own : α → Bool} {x : Handle} {ws : List (Waiting α)} :
    x ∈ handlesOf own ws ↔ ∃ w ∈ ws, w.handle = x ∧ own w.payload = true := by
  simp only [handlesOf, List.mem_map, List.mem_filter]
  constructor
  · rintro ⟨w, ⟨hw, mine⟩, rfl⟩
    exact ⟨w, hw, rfl, mine⟩
  · rintro ⟨w, hw, rfl, mine⟩
    exact ⟨w, ⟨hw, mine⟩, rfl⟩

/-- The timers of an owner that wait are the one whose handle it remembers. -/
structure Owned (own : α → Bool) (timer : Option Handle) (issued : Nat)
    (waiting : List (Waiting α)) : Prop where
  below : ∀ w ∈ waiting, w.handle ≤ issued
  distinct : (waiting.map Waiting.handle).Nodup
  handles : handlesOf own waiting = timer.toList

namespace Owned

variable {own : α → Bool} {timer : Option Handle} {issued : Nat} {waiting : List (Waiting α)}
  {w : Waiting α}

theorem nil (own : α → Bool) : Owned own none 0 [] := by
  constructor
  · intro w hw
    cases hw
  · exact List.nodup_nil
  · rfl

/-- The timer with the handle that the owner remembers waits, and no other has that handle. -/
theorem waits {x : Handle} (o : Owned own (some x) issued waiting) :
    ∃ w ∈ waiting, w.handle = x ∧ own w.payload = true ∧ ∀ v ∈ waiting, v.handle = x → v = w := by
  have remembered : x ∈ handlesOf own waiting := by simp [o.handles]
  obtain ⟨w, hw, rfl, mine⟩ := mem_handlesOf.mp remembered
  refine ⟨w, hw, rfl, mine, ?_⟩
  intro v hv same
  exact List.inj_on_of_nodup_map o.distinct hv hw same

theorem eq_timer (o : Owned own timer issued waiting) (hw : w ∈ waiting)
    (mine : own w.payload = true) : timer = some w.handle := by
  have remembered : w.handle ∈ handlesOf own waiting := mem_handlesOf.mpr ⟨w, hw, rfl, mine⟩
  rw [o.handles] at remembered
  simpa using remembered

/-- Fewer timers wait, and none of the owner's is among those that are gone. -/
theorem shrink (o : Owned own timer issued waiting) {waiting' : List (Waiting α)}
    (fewer : waiting'.Sublist waiting) {timer' : Option Handle}
    (handles : handlesOf own waiting' = timer'.toList) : Owned own timer' issued waiting' where
  below w hw := o.below w (fewer.subset hw)
  distinct := o.distinct.sublist (fewer.map _)
  handles := handles

/-! ### What the owner does -/

theorem release {x : Handle} (o : Owned own (some x) issued waiting) :
    Owned own none issued (dequeue x waiting) := by
  refine o.shrink List.filter_sublist ?_
  rw [Option.toList_none, List.eq_nil_iff_forall_not_mem]
  intro y hy
  obtain ⟨w, hw, rfl, mine⟩ := mem_handlesOf.mp hy
  obtain ⟨hw, other⟩ := mem_dequeue.mp hw
  exact other (Option.some.inj (o.eq_timer hw mine)).symm

/-- Handles are given out that no timer waits with. -/
theorem issue (o : Owned own timer issued waiting) {issued' : Nat} (more : issued ≤ issued') :
    Owned own timer issued' waiting where
  below w hw := Nat.le_trans (o.below w hw) more
  distinct := o.distinct
  handles := o.handles

theorem fresh (o : Owned own timer issued waiting) (new : w.handle = issued + 1) :
    ((enqueue w waiting).map Waiting.handle).Nodup := by
  rw [((enqueue_perm w waiting).map Waiting.handle).nodup_iff, List.map_cons, List.nodup_cons]
  refine ⟨?_, o.distinct⟩
  intro used
  obtain ⟨v, hv, same⟩ := List.mem_map.mp used
  have old := o.below v hv
  rw [same, new] at old
  exact Nat.not_succ_le_self issued old

theorem below_enqueue (o : Owned own timer issued waiting) (new : w.handle = issued + 1) :
    ∀ v ∈ enqueue w waiting, v.handle ≤ issued + 1 := by
  intro v hv
  rcases mem_enqueue.mp hv with rfl | old
  · exact Nat.le_of_eq new
  · exact Nat.le_succ_of_le (o.below v old)

theorem start (o : Owned own none issued waiting) (new : w.handle = issued + 1)
    (mine : own w.payload = true) :
    Owned own (some w.handle) (issued + 1) (enqueue w waiting) := by
  refine ⟨o.below_enqueue new, o.fresh new, ?_⟩
  have perm := handlesOf_enqueue own w waiting
  rw [handlesOf_cons_own mine, o.handles] at perm
  exact List.perm_singleton.mp perm

/-! ### What others do -/

theorem join (o : Owned own timer issued waiting) (new : w.handle = issued + 1)
    (foreign : own w.payload = false) :
    Owned own timer (issued + 1) (enqueue w waiting) := by
  refine ⟨o.below_enqueue new, o.fresh new, ?_⟩
  have perm := handlesOf_enqueue own w waiting
  rw [handlesOf_cons_foreign foreign, o.handles] at perm
  cases timer with
  | none => exact List.perm_nil.mp perm
  | some x => exact List.perm_singleton.mp perm

theorem cancel {x : Handle} (o : Owned own timer issued waiting) (other : timer ≠ some x) :
    Owned own timer issued (dequeue x waiting) := by
  refine o.shrink List.filter_sublist ?_
  rw [← o.handles, handlesOf, handlesOf, List.filter_filter]
  congr 1
  refine List.filter_congr ?_
  intro w hw
  cases mine : own w.payload with
  | false => rfl
  | true =>
    have named := o.eq_timer hw mine
    simp only [Bool.true_and, decide_eq_true_eq]
    rintro rfl
    exact other named

/-! ### Timers that fire -/

theorem fire (o : Owned own timer issued (w :: waiting)) (mine : own w.payload = true) :
    Owned own none issued waiting := by
  refine o.shrink (List.sublist_cons_self _ _) ?_
  have named := o.handles
  rw [o.eq_timer List.mem_cons_self mine, handlesOf_cons_own mine] at named
  exact (List.cons.inj named).2

theorem pass (o : Owned own timer issued (w :: waiting)) (foreign : own w.payload = false) :
    Owned own timer issued waiting := by
  refine o.shrink (List.sublist_cons_self _ _) ?_
  rw [← o.handles, handlesOf_cons_foreign foreign]

end Owned

end ResourceCatalog.Timer
