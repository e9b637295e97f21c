/-
  ResourceCatalog/Proofs/Sync/Ignored.lean
  ========================================
  **Operations that are ignored leave no trace.**

  Edits before the query was read, the query read once more, the search text that
  is there already, the empty tag, reports under a ticket that is not waited for
  and failures to get the tags are ignored, and no other operations are
  (`ignored_iff`).
-/
import ResourceCatalog.Proofs.Sync.Rest
import ResourceCatalog.Proofs.Sync.Scripts

namespace ResourceCatalog.Sync

variable {σ : Type}

/-! ### What is ignored -/

def Deed.hydrates (d : Deed) : Bool :=
  match d.cause with
  | .action (.hydrate _) => true
  | _ => false

/-- The query has been read. -/
def Hydrated (past : List Deed) : Prop := ∃ d ∈ past, d.hydrates = true

/-- What a synchronizer passes over, given what it was made to do so far. -/
def Ignored (past : List Deed) (s : Synchronizer) : Action → Prop
  | .hydrate _ => Hydrated past
  | .setSearchText text => ¬ Hydrated past ∨ s.filters.searchText = text
  | .toggleTag tag => ¬ Hydrated past ∨ tag = ""
  | .toggleType _ => ¬ Hydrated past
  | .complete ticket _ => ¬ Awaited past ticket
  | .acceptTags (.ok _) => False
  | .acceptTags (.error _) => True

theorem hydrated_cons (d : Deed) (past : List Deed) :
    Hydrated (d :: past) ↔ d.hydrates = true ∨ Hydrated past := by
  simp only [Hydrated, List.mem_cons, exists_eq_or_imp]

/-- Only the first reading of the query makes a synchronizer hydrated. -/
theorem Deed.hydrated_after (d : Deed) :
    d.after.hydrated = true ↔ d.hydrates = true ∨ d.before.hydrated = true := by
  cases cause : d.cause with
  | timer =>
    rw [after, outcome, cause, hydrates, cause, Cause.apply, Synchronizer.fire_eq]
    simp
  | action a =>
    rw [after, outcome, cause, Cause.apply]
    cases a.effect d.before with
    | nothing edit h =>
      rw [h, Synchronizer.unchanged, hydrates, cause]
      cases a with
      | hydrate query => simpa [Action.isEffective] using edit
      | _ => simp
    | reads query edit ha first h =>
      rw [h, Synchronizer.hydrate_eq first, hydrates, cause, ha]
      simp
    | types text edit ha hydrated h =>
      rw [h, hydrates, cause, ha]
      simp
    | selects next edit ha changes h =>
      rw [h, Synchronizer.select_eq changes]
      simp [changes.1]
    | resolves ticket result filters edit ha awaited h =>
      rw [h, hydrates, cause, ha]
      simp
    | suggests tags edit ha h =>
      rw [h, hydrates, cause, ha]
      simp

namespace History

variable {past : List Deed} {s : Synchronizer}

theorem hydrated_iff (history : History past s) : s.hydrated = true ↔ Hydrated past := by
  induction history with
  | start => simp [Hydrated]
  | deed d timer history before ih =>
    rw [hydrated_cons, ← ih, ← before]
    exact d.hydrated_after

end History

/-- What starts a quiet period is not ignored. -/
theorem Transition.ne_unchanged {t : Transition} {s : Synchronizer} (restart : t.restart ≠ none) :
    t ≠ s.unchanged := by
  rintro rfl
  exact restart rfl

theorem Synchronizer.select_eq_unchanged_iff {next : FilterState} {s : Synchronizer} :
    s.select next = s.unchanged ↔ ¬ s.hydrated = true ∨ next = s.filters := by
  constructor
  · intro same
    by_contra changes
    obtain ⟨hydrated, differs⟩ := not_or.mp changes
    rw [select_eq ⟨not_not.mp hydrated, differs⟩] at same
    exact Transition.ne_unchanged (Option.some_ne_none _) same
  · intro none
    refine select_unchanged (fun changes => ?_)
    exact none.elim (fun first => first changes.1) changes.2

theorem toggleTag_eq_self_iff {tag : String} {s : FilterState} :
    s.toggleTag tag = s ↔ tag = "" := by
  rw [FilterState.toggleTag]
  split
  · rename_i empty
    exact ⟨fun _ => empty, fun _ => rfl⟩
  · rename_i some_tag
    refine ⟨fun same => ?_, fun empty => absurd empty some_tag⟩
    exact absurd (congrArg FilterState.tags same) (OrderedSet.toggle_ne tag s.tags)

theorem toggleType_ne_self (type : ResourceType) (s : FilterState) : s.toggleType type ≠ s :=
  fun same => OrderedSet.toggle_ne type s.types (congrArg FilterState.types same)

/-- **Exactly the operations that are ignored have no effect.** -/
theorem ignored_iff {past : List Deed} {s : Synchronizer} (history : History past s) (a : Action) :
    Ignored past s a ↔ a.apply s = s.unchanged := by
  cases a with
  | hydrate query =>
    rw [Ignored, ← history.hydrated_iff, Action.apply]
    constructor
    · exact fun hydrated => Synchronizer.hydrate_unchanged hydrated query
    · intro same
      by_contra first
      rw [Synchronizer.hydrate_eq (Bool.eq_false_iff.mpr first)] at same
      exact Transition.ne_unchanged (Option.some_ne_none _) same
  | setSearchText text =>
    rw [Ignored, ← history.hydrated_iff, Action.apply, Synchronizer.setSearchText,
      Bool.not_eq_true]
    split
    · rename_i passed
      exact ⟨fun _ => rfl, fun _ => passed⟩
    · rename_i counts
      exact ⟨fun passed => absurd passed counts,
        fun same => absurd same (Transition.ne_unchanged (Option.some_ne_none _))⟩
  | toggleTag tag =>
    rw [Ignored, ← history.hydrated_iff, Action.apply, Synchronizer.toggleTag,
      Synchronizer.select_eq_unchanged_iff, toggleTag_eq_self_iff]
  | toggleType type =>
    rw [Ignored, ← history.hydrated_iff, Action.apply, Synchronizer.toggleType,
      Synchronizer.select_eq_unchanged_iff]
    simp only [toggleType_ne_self, or_false]
  | complete ticket result =>
    rw [Ignored, ← history.outstanding_iff, Action.apply]
    constructor
    · intro superseded
      exact Synchronizer.complete_superseded (not_exists.mp superseded) result
    · rintro same ⟨filters, awaited⟩
      rw [Synchronizer.complete_awaited awaited] at same
      cases congrArg Transition.calls same
  | acceptTags result =>
    cases result with
    | error detail => exact ⟨fun _ => rfl, fun _ => trivial⟩
    | ok tags =>
      refine ⟨False.elim, fun same => ?_⟩
      cases congrArg Transition.calls same

/-! ### Scripts -/

/-- What a script comes to, with a host that lets runs end. -/
def comesTo (h : Host σ) (stock : σ → Nat) (host : σ) (ops : List Op) : Run σ :=
  (Run.start host ops).finish h stock

/-- What a script makes the synchronizer do, latest first. -/
def doneBy (h : Host σ) (stock : σ → Nat) (host : σ) (ops : List Op) : List Deed :=
  (Run.start host ops).trail h ((Run.start host ops).load stock)

theorem history_comesTo (h : Host σ) (stock : σ → Nat) (host : σ) (ops : List Op) :
    History (doneBy h stock host ops) (comesTo h stock host ops).sync :=
  History.of_run h host ops _

/-- Some operations that are ignored when they are made, behind those before, are deleted from
    the rest of a script. -/
inductive Thins (h : Host σ) (stock : σ → Nat) (host : σ) : List Op → List Op → List Op → Prop where
  | done (before : List Op) : Thins h stock host before [] []
  | keep {before ops kept : List Op} (op : Op) (rest : Thins h stock host (before ++ [op]) ops kept) :
    Thins h stock host before (op :: ops) (op :: kept)
  | delete {before ops kept : List Op} {via : Option Nat} {action : Action}
    (reached : (comesTo h stock host before).reaches via = true)
    (ignored : Ignored (doneBy h stock host before) (comesTo h stock host before).sync action)
    (rest : Thins h stock host (before ++ [.act via action]) ops kept) :
    Thins h stock host before (.act via action :: ops) kept

variable {h : Host σ} {stock : σ → Nat}

theorem comesTo_append (bounded : h.Bounded stock) (host : σ) (before ops : List Op) :
    comesTo h stock host (before ++ ops) =
      ops.foldl (Run.conduct h stock) (comesTo h stock host before) := by
  rw [comesTo, comesTo, Run.finish_start bounded, Run.finish_start bounded, List.foldl_append]

/-- An operation without an effect makes no calls and leaves everything as it was. -/
theorem step_unchanged (h : Host σ) {r : Run σ} {via : Option Nat} {action : Action} {ops : List Op}
    {rest : List Frame} (stack : r.stack = .script (.act via action :: ops) :: rest)
    (reached : r.reaches via = true) (same : action.apply r.sync = r.sync.unchanged) :
    r.step h = some { r with stack := .calls [] :: .script ops :: rest } := by
  rw [Run.step_action h stack reached, same, Run.carryOut_of_restart_none rfl]
  rfl

theorem conduct_unchanged (bounded : h.Bounded stock) {r : Run σ} (ended : r.stack = [])
    {via : Option Nat} {action : Action} (reached : r.reaches via = true)
    (same : action.apply r.sync = r.sync.unchanged) : r.conduct h stock (.act via action) = r := by
  have carried : r.carried (.act via action) = { r with stack := .calls [] :: r.stack } := by
    rw [Run.carried, Run.perform, if_pos reached, same, Run.begin,
      Run.carryOut_of_restart_none rfl]
    rfl
  rw [Run.conduct, carried]
  exact Run.finish_eq bounded (.of_step rfl) ended

/-- A thinned script comes to the same as the whole one, behind what was made before. -/
theorem Thins.foldl_eq (bounded : h.Bounded stock) {host : σ} {before ops kept : List Op}
    (thins : Thins h stock host before ops kept) :
    kept.foldl (Run.conduct h stock) (comesTo h stock host before) =
      ops.foldl (Run.conduct h stock) (comesTo h stock host before) := by
  induction thins with
  | done before => rfl
  | keep op rest ih =>
    rw [List.foldl_cons, List.foldl_cons]
    rw [comesTo_append bounded, List.foldl_cons, List.foldl_nil] at ih
    exact ih
  | @delete before ops kept via action reached ignored rest ih =>
    have ended : (comesTo h stock host before).stack = [] := Run.stack_finish bounded _
    have same := (ignored_iff (history_comesTo h stock host before) action).mp ignored
    rw [comesTo_append bounded, List.foldl_cons, List.foldl_nil,
      conduct_unchanged bounded ended reached same] at ih
    rw [List.foldl_cons, conduct_unchanged bounded ended reached same]
    exact ih

/-! ### Operations that are left out wherever they are made -/

namespace Run

/-- One step of a run without the operations on the synchronizer that are picked. -/
def stepOmitting (h : Host σ) (pick : Run σ → Bool) (r : Run σ) : Option (Run σ) :=
  match r.stack with
  | .script (.act _ _ :: ops) :: rest =>
    if pick r then some { r with stack := .script ops :: rest } else r.step h
  | _ => r.step h

def runOmitting (h : Host σ) (pick : Run σ → Bool) : Nat → Run σ → Run σ
  | 0, r => r
  | n + 1, r => ((runOmitting h pick n r).stepOmitting h pick).getD (runOmitting h pick n r)

/-- At this moment nothing is picked but an operation that is ignored. -/
def PicksIgnored (pick : Run σ → Bool) (past : List Deed) (r : Run σ) : Prop :=
  pick r = true → ∃ d action, r.deed? = some d ∧ d.cause = .action action ∧
    Ignored past d.before action

/-- Leaving an ignored operation out takes the place of making it and of making its calls, of
    which there are none. -/
theorem stepOmitting_eq (h : Host σ) {pick : Run σ → Bool} {past : List Deed} {r : Run σ}
    (history : History past r.sync) (picks : PicksIgnored pick past r) :
    r.stepOmitting h pick = r.step h ∨
      ∃ r₁ r₂, r.step h = some r₁ ∧ r₁.step h = some r₂ ∧ r.stepOmitting h pick = some r₂ := by
  by_cases picked : pick r = true
  · obtain ⟨d, action, deed, cause, ignored⟩ := picks picked
    obtain ⟨via, ops, rest, stack, reached⟩ := deed?_action deed cause
    rw [(deed?_before deed).1] at ignored
    have same := (ignored_iff history action).mp ignored
    refine Or.inr ⟨_, _, step_unchanged h stack reached same, rfl, ?_⟩
    rw [stepOmitting, stack]
    exact if_pos picked
  · refine Or.inl ?_
    rw [stepOmitting]
    split
    · exact if_neg picked
    · rfl

/-- **A run without ignored operations** passes through moments of the whole run, and through
    no others. -/
theorem exists_runFor_eq_runOmitting (host : σ) (ops : List Op) {pick : Run σ → Bool}
    (picks : ∀ n, PicksIgnored pick ((start host ops).trail h n) ((start host ops).runFor h n))
    (n : Nat) :
    ∃ m, n ≤ m ∧ (start host ops).runOmitting h pick n = (start host ops).runFor h m := by
  induction n with
  | zero => exact ⟨0, Nat.le_refl 0, rfl⟩
  | succ n ih =>
    obtain ⟨m, hnm, same⟩ := ih
    rw [runOmitting, same]
    rcases stepOmitting_eq h (History.of_run h host ops m) (picks m) with
      one | ⟨r₁, r₂, first, second, omitted⟩
    · exact ⟨m + 1, Nat.succ_le_succ hnm, by rw [one, runFor_succ]⟩
    · refine ⟨m + 2, by omega, ?_⟩
      rw [omitted, runFor_succ, runFor_succ, first]
      simp only [Option.getD_some, second]

theorem runFor_of_ended {r : Run σ} {n m : Nat} (ended : (r.runFor h n).stack = []) (hnm : n ≤ m) :
    r.runFor h m = r.runFor h n := by
  induction hnm with
  | refl => rfl
  | step _ ih => rw [runFor_succ, ih, step_none_iff.mpr ended, Option.getD_none]

end Run

/-! ### No trace -/

/-- Ignored operations can be left out of a run: the calls on the host with their times, the timers
    and the state of the synchronizer are the same without them.  They can be deleted from a
    script, and leaving them out wherever they are made, be it when the timer of someone else
    fires, leads through the same moments. -/
structure IgnoredInvisible (h : Host σ) (stock : σ → Nat) (host : σ) : Prop where
  ends : ∀ ops, (comesTo h stock host ops).stack = []
  deleted : ∀ ops kept, Thins h stock host [] ops kept →
    comesTo h stock host kept = comesTo h stock host ops
  omitted : ∀ ops pick,
    (∀ n, Run.PicksIgnored pick ((Run.start host ops).trail h n) ((Run.start host ops).runFor h n)) →
    (∀ n, ∃ m, n ≤ m ∧
      (Run.start host ops).runOmitting h pick n = (Run.start host ops).runFor h m) ∧
    (Run.start host ops).runOmitting h pick ((Run.start host ops).load stock) =
      comesTo h stock host ops

/-- **Ignored operations leave no trace**, with every host that lets runs end, as one does that
    only records. -/
theorem ignored_invisible (bounded : h.Bounded stock) (host : σ) : IgnoredInvisible h stock host where
  ends := fun _ => Run.stack_finish bounded _
  deleted := by
    intro ops kept thins
    have same := thins.foldl_eq bounded
    rw [← comesTo_append bounded, ← comesTo_append bounded] at same
    exact same
  omitted := by
    intro ops pick picks
    have moments := Run.exists_runFor_eq_runOmitting host ops picks
    refine ⟨moments, ?_⟩
    obtain ⟨m, enough, same⟩ := moments ((Run.start host ops).load stock)
    rw [same]
    exact Run.runFor_of_ended (Run.stack_finish bounded _) enough

/-- Each kind of operation that can be ignored, where it is. -/
def withIgnored : List Op :=
  [.act none (.setSearchText "early"), .act none (.toggleType .model), .act none (.hydrate "tags=a"),
    .act none (.hydrate "tags=b"), .act none (.toggleTag ""), .act none (.setSearchText "t"),
    .act none (.setSearchText "t"), .advance searchTextDelay, .act none (.complete 7 (.ok [])),
    .act none (.acceptTags (.error "gone")), .act none (.complete 1 (.ok [])),
    .act none (.complete 1 (.ok []))]

def withoutIgnored : List Op :=
  [.act none (.hydrate "tags=a"), .act none (.setSearchText "t"), .advance searchTextDelay,
    .act none (.complete 1 (.ok []))]

theorem ignored_invisible_deleted :
    Host.silent.Bounded (fun _ => 0) ∧
      comesTo .silent (fun _ => 0) () withoutIgnored = comesTo .silent (fun _ => 0) () withIgnored := by
  refine ⟨Host.silent_records.bounded,
    (ignored_invisible Host.silent_records.bounded ()).deleted _ _ ?_⟩
  have ignored : ∀ before action, (action.apply (comesTo .silent (fun _ => 0) () before).sync =
      (comesTo .silent (fun _ => 0) () before).sync.unchanged) →
      Ignored (doneBy .silent (fun _ => 0) () before) (comesTo .silent (fun _ => 0) () before).sync
        action :=
    fun before action same => (ignored_iff (history_comesTo _ _ _ before) action).mpr same
  refine .delete (by decide +kernel) (ignored _ _ (by decide +kernel)) ?_
  refine .delete (by decide +kernel) (ignored _ _ (by decide +kernel)) ?_
  refine .keep _ ?_
  refine .delete (by decide +kernel) (ignored _ _ (by decide +kernel)) ?_
  refine .delete (by decide +kernel) (ignored _ _ (by decide +kernel)) ?_
  refine .keep _ ?_
  refine .delete (by decide +kernel) (ignored _ _ (by decide +kernel)) ?_
  refine .keep _ ?_
  refine .delete (by decide +kernel) (ignored _ _ (by decide +kernel)) ?_
  refine .delete (by decide +kernel) (ignored _ _ (by decide +kernel)) ?_
  refine .keep _ ?_
  exact .delete (by decide +kernel) (ignored _ _ (by decide +kernel)) (.done _)

end ResourceCatalog.Sync
