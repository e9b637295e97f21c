/-
  ResourceCatalog/Proofs/Timer/Queue.lean
  =======================================
  **The queue of the timers that wait.**

  Timers fire by deadline, and those with one deadline in the order of their handles.
  The queue is kept in that order: a timer that goes behind all that are due no later
  comes right if it has the greatest handle so far, as a new one has.

  Nothing about the queue depends on what the payloads are, so it can be kept with
  payloads put into another form.
-/
import Mathlib.Data.List.Basic
import ResourceCatalog.Proofs.Timer.Ownership

namespace ResourceCatalog.Timer

variable {α β : Type}

/-! ### What the timers weigh -/

@[simp] theorem totalWeight_nil (weight : α → Nat) : totalWeight weight [] = 0 := rfl

@[simp] theorem totalWeight_cons (weight : α → Nat) (x : α) (xs : List α) :
    totalWeight weight (x :: xs) = weight x + totalWeight weight xs := rfl

@[simp] theorem totalWeight_append (weight : α → Nat) (xs ys : List α) :
    totalWeight weight (xs ++ ys) = totalWeight weight xs + totalWeight weight ys := by
  induction xs with
  | nil => simp
  | cons x xs ih => simp [ih, Nat.add_assoc]

theorem totalWeight_map (weight : β → Nat) (f : α → β) (xs : List α) :
    totalWeight weight (xs.map f) = totalWeight (weight ∘ f) xs := by
  induction xs with
  | nil => rfl
  | cons x xs ih => simp [ih]

theorem totalWeight_enqueue (weight : Waiting α → Nat) (w : Waiting α) (ws : List (Waiting α)) :
    totalWeight weight (enqueue w ws) = weight w + totalWeight weight ws := by
  induction ws with
  | nil => rfl
  | cons v vs ih =>
    unfold enqueue
    split
    · rw [totalWeight_cons, ih, totalWeight_cons]
      omega
    · rfl

theorem totalWeight_dequeue_le (weight : Waiting α → Nat) (x : Handle) (ws : List (Waiting α)) :
    totalWeight weight (dequeue x ws) ≤ totalWeight weight ws := by
  unfold dequeue
  induction ws with
  | nil => exact Nat.le_refl _
  | cons v vs ih =>
    rw [List.filter_cons]
    split
    · simp only [totalWeight_cons]
      omega
    · simp only [totalWeight_cons]
      omega

/-! ### The order in which they fire -/

/-- A timer fires before another if it is due earlier, or due then too and scheduled earlier. -/
def Waiting.Before (v w : Waiting α) : Prop :=
  v.deadline < w.deadline ∨ (v.deadline = w.deadline ∧ v.handle < w.handle)

theorem Waiting.Before.deadline_le {v w : Waiting α} (h : v.Before w) :
    v.deadline ≤ w.deadline := by
  rcases h with earlier | ⟨same, -⟩
  · exact Nat.le_of_lt earlier
  · exact Nat.le_of_eq same

theorem pairwise_enqueue {w : Waiting α} {ws : List (Waiting α)}
    (ordered : ws.Pairwise Waiting.Before) (last : ∀ v ∈ ws, v.handle < w.handle) :
    (enqueue w ws).Pairwise Waiting.Before := by
  induction ws with
  | nil => exact List.pairwise_singleton _ _
  | cons v vs ih =>
    obtain ⟨first, ordered⟩ := List.pairwise_cons.mp ordered
    unfold enqueue
    split
    · rename_i due
      have placed := ih ordered (fun u hu => last u (List.mem_cons_of_mem _ hu))
      refine List.pairwise_cons.mpr ⟨?_, placed⟩
      intro u hu
      rcases mem_enqueue.mp hu with rfl | hu
      · have earlier : v.handle < u.handle := last v List.mem_cons_self
        rcases Nat.lt_or_eq_of_le due with sooner | same
        · exact Or.inl sooner
        · exact Or.inr ⟨same, earlier⟩
      · exact first u hu
    · rename_i later
      have sooner : w.deadline < v.deadline := Nat.lt_of_not_le later
      refine List.pairwise_cons.mpr ⟨?_, List.pairwise_cons.mpr ⟨first, ordered⟩⟩
      intro u hu
      rcases List.mem_cons.mp hu with rfl | hu
      · exact Or.inl sooner
      · exact Or.inl (Nat.lt_of_lt_of_le sooner (first u hu).deadline_le)

/-- If the first timer is not due, none is. -/
theorem lt_deadline_of_firstDue? {target : Nat} {ws : List (Waiting α)}
    (ordered : ws.Pairwise Waiting.Before) (none : firstDue? target ws = none) :
    ∀ w ∈ ws, target < w.deadline := by
  cases ws with
  | nil => simp
  | cons v vs =>
    have late : target < v.deadline := by
      rw [firstDue?] at none
      by_cases due : v.deadline ≤ target
      · rw [if_pos due] at none
        cases none
      · exact Nat.lt_of_not_le due
    intro w hw
    rcases List.mem_cons.mp hw with rfl | hw
    · exact late
    · exact Nat.lt_of_lt_of_le late ((List.pairwise_cons.mp ordered).1 w hw).deadline_le

theorem deadline_le_of_firstDue? {target : Nat} {w : Waiting α} {ws rest : List (Waiting α)}
    (due : firstDue? target ws = some (w, rest)) : w.deadline ≤ target := by
  cases ws with
  | nil => cases due
  | cons v vs =>
    rw [firstDue?] at due
    split at due
    · cases due
      assumption
    · cases due

/-- A timer that is due by a time is due by any later one. -/
theorem firstDue?_mono {target later : Nat} (after : target ≤ later) {ws : List (Waiting α)}
    {due : Waiting α × List (Waiting α)} (h : firstDue? target ws = some due) :
    firstDue? later ws = some due := by
  obtain ⟨w, rest⟩ := due
  have inTime := deadline_le_of_firstDue? h
  rw [eq_cons_of_firstDue? h, firstDue?, if_pos (Nat.le_trans inTime after)]

/-! ### Payloads in another form -/

/-- A timer with its payload put into another form. -/
def Waiting.map (f : α → β) (w : Waiting α) : Waiting β := ⟨w.handle, w.deadline, f w.payload⟩

theorem map_enqueue (f : α → β) (w : Waiting α) (ws : List (Waiting α)) :
    (enqueue w ws).map (Waiting.map f) = enqueue (w.map f) (ws.map (Waiting.map f)) := by
  induction ws with
  | nil => rfl
  | cons v vs ih =>
    simp only [enqueue, List.map_cons, Waiting.map]
    split
    · exact congrArg (List.cons _) ih
    · rfl

theorem map_dequeue (f : α → β) (x : Handle) (ws : List (Waiting α)) :
    (dequeue x ws).map (Waiting.map f) = dequeue x (ws.map (Waiting.map f)) := by
  rw [dequeue, dequeue, List.filter_map]
  rfl

theorem firstDue?_map (f : α → β) (target : Nat) (ws : List (Waiting α)) :
    firstDue? target (ws.map (Waiting.map f)) =
      (firstDue? target ws).map (fun due => (due.1.map f, due.2.map (Waiting.map f))) := by
  cases ws with
  | nil => rfl
  | cons w ws =>
    simp only [List.map_cons, firstDue?, Waiting.map]
    split <;> rfl

/-- What is not among the timers cannot be taken out. -/
theorem dequeue_eq_self {x : Handle} {ws : List (Waiting α)} (absent : ∀ w ∈ ws, w.handle ≠ x) :
    dequeue x ws = ws :=
  List.filter_eq_self.mpr (by simpa using absent)

end ResourceCatalog.Timer
