/-
  ResourceCatalog/Proofs/Sync/Attribution.lean
  ============================================
  **Which calls are made for what.**

  The host may call back in the middle of the calls of an operation, so the calls of
  several operations lie between each other in the journal.  A book kept along the
  run tells them apart: it puts down, for each call, the moment at which the
  operation was carried out or the quiet period ended that the call is made for.

  The book only adds to what the run shows, and what it has for a moment is what was
  to be called at that moment, in order (`Attributed`).
-/
import ResourceCatalog.Proofs.Sync.History

namespace ResourceCatalog.Sync

variable {σ β : Type}

/-- What has a label. -/
def labelled (m : Nat) (ps : List (Nat × β)) : List β :=
  ps.filterMap (fun p => if p.1 = m then some p.2 else none)

@[simp] theorem labelled_nil (m : Nat) : labelled m ([] : List (Nat × β)) = [] := rfl

@[simp] theorem labelled_cons (m k : Nat) (x : β) (ps : List (Nat × β)) :
    labelled m ((k, x) :: ps) = (if k = m then [x] else []) ++ labelled m ps := by
  rw [labelled, List.filterMap_cons]
  by_cases same : k = m
  · simp only [if_pos same]
    rfl
  · simp only [if_neg same]
    rfl

@[simp] theorem labelled_append (m : Nat) (ps qs : List (Nat × β)) :
    labelled m (ps ++ qs) = labelled m ps ++ labelled m qs := List.filterMap_append

theorem mem_labelled {m : Nat} {ps : List (Nat × β)} {x : β} :
    x ∈ labelled m ps ↔ (m, x) ∈ ps := by
  simp [labelled]

theorem labelled_eq_nil {m : Nat} {ps : List (Nat × β)} (other : ∀ p ∈ ps, p.1 ≠ m) :
    labelled m ps = [] := by
  rw [List.eq_nil_iff_forall_not_mem]
  exact fun x hx => other _ (mem_labelled.mp hx) rfl

/-! ### Books -/

/-- Calls, each with the moment at which it was decided: those that were made, and those that are
    still due, innermost first. -/
structure Book where
  made : List (Nat × Call) := []
  due : List (Nat × List Call) := []

namespace Book

/-- The book after the step that follows on a moment of a run. -/
def turn (moment : Nat) (r : Run σ) (b : Book) : Book :=
  match r.deed? with
  | some d => if d.inTime then { b with due := (moment, d.outcome.calls) :: b.due } else b
  | none =>
    match r.stack, b.due with
    | .calls [] :: _, _ :: rest => { b with due := rest }
    | .calls (call :: calls) :: _, (m, _) :: rest =>
      { made := b.made ++ [(m, call)], due := (m, calls) :: rest }
    | _, _ => b

theorem turn_of_still (b : Book) (moment : Nat) {r : Run σ} (deed : r.deed? = none)
    (top : r.dispatching = false) : b.turn moment r = b := by
  simp only [turn, deed]
  rw [Run.dispatching] at top
  split
  · rename_i stack _
    rw [stack] at top
    cases top
  · rename_i stack _
    rw [stack] at top
    cases top
  · rfl

/-- The calls that were decided at a moment: first those that were made. -/
def account (m : Nat) (b : Book) : List Call := labelled m b.made ++ (labelled m b.due).flatten

theorem mem_account {m : Nat} {b : Book} {c : Call} :
    c ∈ b.account m ↔ (m, c) ∈ b.made ∨ ∃ cs, (m, cs) ∈ b.due ∧ c ∈ cs := by
  simp only [account, List.mem_append, List.mem_flatten, mem_labelled]

/-- A call stays in its account when it is made. -/
theorem account_made {b : Book} {m : Nat} {c : Call} {cs : List Call}
    {rest : List (Nat × List Call)} (due : b.due = (m, c :: cs) :: rest) (k : Nat) :
    Book.account k { made := b.made ++ [(m, c)], due := (m, cs) :: rest } = b.account k := by
  rw [account, account, due]
  by_cases same : m = k <;> simp [same]

theorem account_closed {b : Book} {m : Nat} {rest : List (Nat × List Call)}
    (due : b.due = (m, []) :: rest) (k : Nat) :
    Book.account k { b with due := rest } = b.account k := by
  rw [account, account, due]
  by_cases same : m = k <;> simp [same]

end Book

/-- The book of a run after some steps. -/
def Run.book (h : Host σ) (r : Run σ) : Nat → Book
  | 0 => {}
  | n + 1 => (r.book h n).turn n (r.runFor h n)

/-! ### Books in order -/

/-- The calls of a book are those of the run, and it has for each moment before what was to be
    called then. -/
structure Attributed (deedAt : Nat → Option Deed) (n : Nat) (b : Book) (r : Run σ) : Prop where
  calls : b.made.map Prod.snd = r.calls
  pending : b.due.map Prod.snd = r.pendingCalls
  madeBefore : ∀ p ∈ b.made, p.1 < n ∧ ∃ d, deedAt p.1 = some d
  dueBefore : ∀ p ∈ b.due, p.1 < n ∧ ∃ d, deedAt p.1 = some d
  account : ∀ m < n, ∀ d, deedAt m = some d → b.account m = d.sent

namespace Attributed

variable {deedAt : Nat → Option Deed} {n : Nat} {b : Book} {r r' : Run σ}

theorem start (deedAt : Nat → Option Deed) (host : σ) (ops : List Op) :
    Attributed deedAt 0 {} (Run.start host ops) where
  calls := rfl
  pending := rfl
  madeBefore := by simp
  dueBefore := by simp
  account := fun m hm => absurd hm (Nat.not_lt_zero m)

/-- What is not done yet is not in the book. -/
theorem blank (a : Attributed deedAt n b r) :
    labelled n b.made = [] ∧ labelled n b.due = [] :=
  ⟨labelled_eq_nil (fun p hp => Nat.ne_of_lt (a.madeBefore p hp).1),
    labelled_eq_nil (fun p hp => Nat.ne_of_lt (a.dueBefore p hp).1)⟩

theorem madeEarlier (a : Attributed deedAt n b r) {p : Nat × Call} (made : p ∈ b.made) :
    p.1 < n + 1 ∧ ∃ d, deedAt p.1 = some d :=
  (a.madeBefore p made).imp_left Nat.lt_succ_of_lt

theorem dueEarlier (a : Attributed deedAt n b r) {p : Nat × List Call} (due : p ∈ b.due) :
    p.1 < n + 1 ∧ ∃ d, deedAt p.1 = some d :=
  (a.dueBefore p due).imp_left Nat.lt_succ_of_lt

/-- When nothing is decided, it is enough that no account changes. -/
theorem sameAccounts (a : Attributed deedAt n b r) (deed : deedAt n = none) {b' : Book}
    (same : ∀ k, b'.account k = b.account k) :
    ∀ k < n + 1, ∀ d, deedAt k = some d → b'.account k = d.sent := by
  intro k hk d hd
  rcases Nat.lt_succ_iff_lt_or_eq.mp hk with before | rfl
  · rw [same, a.account k before d hd]
  · rw [deed] at hd
    cases hd

/-- What is decided next opens an account of its own. -/
theorem opened (a : Attributed deedAt n b r) {d : Deed} (deed : deedAt n = some d)
    (inTime : d.inTime = true) (calls : r'.calls = r.calls)
    (pending : r'.pendingCalls = d.outcome.calls :: r.pendingCalls) :
    Attributed deedAt (n + 1) { b with due := (n, d.outcome.calls) :: b.due } r' where
  calls := a.calls.trans calls.symm
  pending := by rw [pending, ← a.pending, List.map_cons]
  madeBefore := fun _ => a.madeEarlier
  dueBefore := by
    intro p hp
    rcases List.mem_cons.mp hp with rfl | old
    · exact ⟨Nat.lt_succ_self n, d, deed⟩
    · exact a.dueEarlier old
  account := by
    intro m hm e he
    rw [Book.account, labelled_cons]
    rcases Nat.lt_succ_iff_lt_or_eq.mp hm with before | rfl
    · rw [if_neg (Nat.ne_of_gt before), List.nil_append]
      exact a.account m before e he
    · rw [deed] at he
      cases he
      rw [a.blank.1, a.blank.2, Deed.sent, if_pos inTime, if_pos rfl]
      simp

/-- A step that decides, makes and ends no calls leaves the book as it is. -/
theorem kept (a : Attributed deedAt n b r) (none : ∀ d, deedAt n = some d → d.sent = [])
    (calls : r'.calls = r.calls) (pending : r'.pendingCalls = r.pendingCalls) :
    Attributed deedAt (n + 1) b r' where
  calls := a.calls.trans calls.symm
  pending := a.pending.trans pending.symm
  madeBefore := fun _ => a.madeEarlier
  dueBefore := fun _ => a.dueEarlier
  account := by
    intro m hm d deed
    rcases Nat.lt_succ_iff_lt_or_eq.mp hm with before | rfl
    · exact a.account m before d deed
    · rw [Book.account, a.blank.1, a.blank.2, none d deed]
      rfl

/-- A call is made for what it is due for. -/
theorem made (a : Attributed deedAt n b r) (deed : deedAt n = none) {m : Nat} {c : Call}
    {cs : List Call} {rest : List (Nat × List Call)} (due : b.due = (m, c :: cs) :: rest)
    (calls : r'.calls = r.calls ++ [c]) (pending : r'.pendingCalls = cs :: rest.map Prod.snd) :
    Attributed deedAt (n + 1) { made := b.made ++ [(m, c)], due := (m, cs) :: rest } r' := by
  have owner := a.dueEarlier (p := (m, c :: cs)) (by rw [due]; exact List.mem_cons_self)
  refine ⟨by simp [calls, a.calls], by rw [pending, List.map_cons], ?_, ?_,
    a.sameAccounts deed (Book.account_made due)⟩
  · intro p hp
    rcases List.mem_append.mp hp with old | new
    · exact a.madeEarlier old
    · rw [List.mem_singleton.mp new]
      exact owner
  · intro p hp
    rcases List.mem_cons.mp hp with rfl | old
    · exact owner
    · exact a.dueEarlier (by rw [due]; exact List.mem_cons_of_mem _ old)

/-- What has made all its calls is taken out. -/
theorem closed (a : Attributed deedAt n b r) (deed : deedAt n = none) {m : Nat}
    {rest : List (Nat × List Call)} (due : b.due = (m, []) :: rest)
    (calls : r'.calls = r.calls) (pending : r'.pendingCalls = rest.map Prod.snd) :
    Attributed deedAt (n + 1) { b with due := rest } r' := by
  refine ⟨a.calls.trans calls.symm, pending.symm, fun _ => a.madeEarlier, fun p hp => ?_,
    a.sameAccounts deed (Book.account_closed due)⟩
  exact a.dueEarlier (by rw [due]; exact List.mem_cons_of_mem _ hp)

/-- **A book stays in order** at every step, whatever the host does. -/
theorem step {h : Host σ} (a : Attributed deedAt n b r) (deedNow : deedAt n = r.deed?)
    (hs : r.step h = some r') : Attributed deedAt (n + 1) (b.turn n r) r' := by
  cases Run.step_move hs with
  | act d below deed top sync stack rest calls =>
    rw [deed] at deedNow
    rw [Book.turn, deed]
    by_cases inTime : d.inTime = true
    · rw [if_pos inTime] at stack
      simp only [if_pos inTime]
      refine a.opened deedNow inTime calls ?_
      rw [Run.pendingCalls, stack, pendingOn_calls, rest, Run.pendingCalls]
    · rw [if_neg inTime] at stack
      simp only [if_neg inTime]
      refine a.kept ?_ calls (by rw [Run.pendingCalls, stack, rest, Run.pendingCalls])
      intro e he
      rw [deedNow] at he
      cases he
      rw [Deed.sent, if_neg inTime]
  | call c cs rest deed stack after sync calls =>
    have pending := a.pending
    rw [Run.pendingCalls, stack, pendingOn_calls] at pending
    obtain ⟨⟨m, due⟩, others, hdue, rfl, hothers⟩ := List.map_eq_cons_iff.mp pending
    simp only [Book.turn, deed, stack, hdue]
    refine a.made (deedNow.trans deed) hdue calls ?_
    rw [Run.pendingCalls, after, pendingOn_script, pendingOn_calls, hothers]
  | done rest deed stack after sync calls =>
    have pending := a.pending
    rw [Run.pendingCalls, stack, pendingOn_calls] at pending
    obtain ⟨⟨m, due⟩, others, hdue, rfl, hothers⟩ := List.map_eq_cons_iff.mp pending
    simp only [Book.turn, deed, stack, hdue]
    refine a.closed (deedNow.trans deed) hdue calls ?_
    rw [Run.pendingCalls, after, hothers]
  | still deed top pending sync calls =>
    rw [b.turn_of_still n deed top]
    refine a.kept ?_ calls pending
    intro d hd
    rw [deedNow, deed] at hd
    cases hd

end Attributed

/-- **Every call of a run is made for something that was done in it.** -/
theorem Run.attributed (h : Host σ) (host : σ) (ops : List Op) (n : Nat) :
    Attributed (fun m => ((start host ops).runFor h m).deed?) n ((start host ops).book h n)
      ((start host ops).runFor h n) := by
  induction n with
  | zero => exact Attributed.start _ host ops
  | succ n ih =>
    rw [runFor_succ, book]
    cases hs : ((start host ops).runFor h n).step h with
    | some r' => exact ih.step rfl hs
    | none =>
      have ended := step_none_iff.mp hs
      have deed : ((start host ops).runFor h n).deed? = none := by rw [deed?, ended]
      have top : ((start host ops).runFor h n).dispatching = false := by rw [dispatching, ended]
      rw [Book.turn_of_still _ n deed top]
      refine ih.kept ?_ rfl rfl
      intro d hd
      rw [deed] at hd
      cases hd

end ResourceCatalog.Sync
