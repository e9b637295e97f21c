/-
  ResourceCatalog/Proofs/Sync/ForeignParameters.lean
  ==================================================
  **What becomes of the parameters of others.**

  Every query that is written is a merge into the first one, which was kept without
  its question mark.  A merge leaves out a leading question mark too, so a first
  query with two of them loses both, and with the second one the name of its first
  foreign parameter (`keepsForeign_iff`).
-/
import ResourceCatalog.Proofs.Filter.QuestionMark
import ResourceCatalog.Proofs.Sync.AddressBar
import ResourceCatalog.Proofs.Sync.Recording

namespace ResourceCatalog.Sync

open FilterQuery (withoutMark merge foreignPairs ownPairs)

/-! ### Queries that are asked for -/

theorem Deed.query_of_rewrites {d : Deed} (other : d.hydration? = none) {query : String}
    (h : query ∈ queriesIn d.outcome.calls) :
    query = merge d.before.baseQuery (d.after.filters.withSearchText d.after.settledText) ∧
      query ≠ d.before.lastWritten := by
  obtain ⟨-, -, ⟨others, first, noOther⟩, -, merged, kept, -⟩ := Deed.rewrites other
  rw [first, queriesIn_append, noOther, List.append_nil, Synchronizer.writeCalls] at h
  split at h
  · cases h
  · rename_i new
    obtain rfl : query = d.after.lastWritten := List.mem_singleton.mp h
    refine ⟨?_, new⟩
    cases writes : d.isFiring || d.selects with
    | true => exact merged writes
    | false => exact absurd (kept writes).1 new

theorem Deed.queriesIn_of_reads {d : Deed} {q : String} (reading : d.hydration? = some q) :
    queriesIn d.outcome.calls = [] := by
  obtain ⟨unhydrated, -, -, outcome⟩ := Deed.reads reading
  rw [outcome, Synchronizer.hydrate_eq unhydrated]
  simp [queriesIn, Call.query?, List.filterMap_map]

/-- The queries of a run, written or still to be written. -/
def Run.allQueries {σ : Type} (r : Run σ) : List String :=
  queriesIn (r.calls ++ r.pendingCalls.flatten)

theorem Run.allQueries_of_deed {σ : Type} {r r' : Run σ} {d : Deed} (calls : r'.calls = r.calls)
    (pending : r'.pendingCalls =
      if d.inTime then d.outcome.calls :: r.pendingCalls else r.pendingCalls)
    {query : String} (h : query ∈ r'.allQueries) :
    query ∈ queriesIn d.outcome.calls ∨ query ∈ r.allQueries := by
  unfold allQueries at h ⊢
  rw [calls, pending] at h
  split at h
  · simp only [List.flatten_cons, queriesIn_append, List.mem_append] at h ⊢
    tauto
  · exact Or.inr h

/-- One of the deeds called for a query, for the filters that it left, with the text that
    had settled. -/
def AskedFor (past : List Deed) (query : String) : Prop :=
  ∃ d ∈ past, query ∈ queriesIn d.outcome.calls ∧
    query = merge (startQuery past) (d.after.filters.withSearchText d.after.settledText)

/-- The queries of a run are merges into the first one.  Before that has been read, all is as it
    was at the start. -/
structure Merging {σ : Type} (past : List Deed) (r : Run σ) : Prop where
  base : r.sync.baseQuery = startQuery past
  unread : r.sync.hydrated = false →
    r.sync.filters = {} ∧ r.sync.settledText = "" ∧ r.sync.lastWritten = "" ∧
      startQuery past = "" ∧ (∀ d ∈ past, d.hydration? = none) ∧ r.allQueries = []
  first : ∀ d ∈ past, ∀ q, d.hydration? = some q → startQuery past = withoutMark q
  asked : ∀ query ∈ r.allQueries, AskedFor past query

namespace Merging

variable {σ : Type} {past : List Deed} {r r' : Run σ} {d : Deed}

theorem start (host : σ) (ops : List Op) : Merging [] (Run.start host ops) where
  base := rfl
  unread := by
    intro _
    refine ⟨rfl, rfl, rfl, rfl, ?_, rfl⟩
    intro d hd
    cases hd
  first := by
    intro d hd
    cases hd
  asked := by
    intro query hquery
    cases hquery

theorem read (m : Merging past r) {q : String} (reading : d.hydration? = some q)
    (before : d.before = r.sync) (sync : r'.sync = { d.after with timer := r'.sync.timer })
    (due : ∀ query ∈ r'.allQueries, query ∈ queriesIn d.outcome.calls ∨ query ∈ r.allQueries) :
    Merging (d :: past) r' := by
  obtain ⟨unhydrated, -, -, outcome⟩ := Deed.reads reading
  obtain ⟨-, -, -, -, noReading, noQuery⟩ := m.unread (by rw [← before, unhydrated])
  have hstart : startQuery (d :: past) = withoutMark q := by rw [startQuery, reading]
  have hafter : d.after = (d.before.hydrate q).after := by rw [Deed.after, outcome]
  rw [Synchronizer.hydrate_eq unhydrated] at hafter
  constructor
  · rw [sync, hafter, hstart]
  · intro unread
    rw [sync, hafter] at unread
    cases unread
  · intro d' hd' q' reading'
    rcases List.mem_cons.mp hd' with rfl | old
    · rw [reading] at reading'
      cases reading'
      exact hstart
    · rw [noReading d' old] at reading'
      cases reading'
  · intro query hquery
    rcases due query hquery with new | old
    · rw [Deed.queriesIn_of_reads reading] at new
      cases new
    · rw [noQuery] at old
      cases old

theorem rewrite (m : Merging past r) (other : d.hydration? = none) (before : d.before = r.sync)
    (sync : r'.sync = { d.after with timer := r'.sync.timer })
    (due : ∀ query ∈ r'.allQueries, query ∈ queriesIn d.outcome.calls ∨ query ∈ r.allQueries) :
    Merging (d :: past) r' := by
  have hstart : startQuery (d :: past) = startQuery past := by rw [startQuery, other]
  obtain ⟨base, hydrated, -, settled, merged, kept, unread⟩ := Deed.rewrites other
  constructor
  · rw [sync, base, before, m.base, hstart]
  · intro unhydrated
    rw [sync, hydrated, before] at unhydrated
    obtain ⟨noFilters, noText, noneWritten, noStart, noReading, noQuery⟩ := m.unread unhydrated
    rw [← before] at unhydrated noFilters noText noneWritten
    obtain ⟨noSelection, sameFilters⟩ := unread unhydrated
    have noSettled : d.after.settledText = "" := by
      rw [settled, noFilters, noText]
      split <;> rfl
    -- a quiet period that ends before the query is read would write what is there
    have empty : merge d.before.baseQuery (d.after.filters.withSearchText d.after.settledText)
        = "" := by
      rw [before, m.base, noStart, sameFilters, noFilters, noSettled]
      decide +kernel
    refine ⟨by rw [sync, sameFilters, noFilters], by rw [sync, noSettled], ?_,
      by rw [hstart, noStart], ?_, ?_⟩
    · rw [sync]
      cases writes : d.isFiring || d.selects with
      | true => rw [merged writes, empty]
      | false => rw [(kept writes).1, noneWritten]
    · intro d' hd'
      rcases List.mem_cons.mp hd' with rfl | old
      · exact other
      · exact noReading d' old
    · apply List.eq_nil_iff_forall_not_mem.mpr
      intro query hquery
      rcases due query hquery with new | old
      · obtain ⟨same, changed⟩ := Deed.query_of_rewrites other new
        rw [same, empty, noneWritten] at changed
        exact changed rfl
      · rw [noQuery] at old
        cases old
  · intro d' hd' q reading
    rcases List.mem_cons.mp hd' with rfl | old
    · rw [other] at reading
      cases reading
    · rw [hstart, m.first d' old q reading]
  · intro query hquery
    unfold AskedFor
    rw [hstart]
    rcases due query hquery with new | old
    · refine ⟨d, List.mem_cons_self, new, ?_⟩
      rw [(Deed.query_of_rewrites other new).1, before, m.base]
    · obtain ⟨d', hd', called, same⟩ := m.asked query old
      exact ⟨d', List.mem_cons_of_mem d hd', called, same⟩

theorem step {h : Host σ} (m : Merging past r) (hs : r.step h = some r') :
    Merging (r.deed?.toList ++ past) r' := by
  rcases Run.step_deed_or_calls hs with
    ⟨d, deed, sync, calls, pending⟩ | ⟨deed, sync, made, calls, pending⟩
  · have before := (Run.deed?_before deed).1
    have due : ∀ query ∈ r'.allQueries,
        query ∈ queriesIn d.outcome.calls ∨ query ∈ r.allQueries :=
      fun query hquery => Run.allQueries_of_deed calls pending hquery
    rw [deed]
    cases reading : d.hydration? with
    | some q => exact m.read reading before sync due
    | none => exact m.rewrite reading before sync due
  · have same : r'.allQueries = r.allQueries := by
      unfold Run.allQueries
      rw [calls, pending, List.append_assoc]
    rw [deed]
    constructor
    · rw [sync]
      exact m.base
    · rw [sync, same]
      exact m.unread
    · exact m.first
    · rw [same]
      exact m.asked

theorem of_run (h : Host σ) (host : σ) (ops : List Op) (n : Nat) :
    Merging ((Run.start host ops).trail h n) ((Run.start host ops).runFor h n) := by
  have step : ∀ past r₁ r₂, Merging past r₁ → (∀ d, r₁.deed? = some d → True) →
      r₁.step h = some r₂ → Merging (r₁.deed?.toList ++ past) r₂ :=
    fun _ _ _ m _ hs => m.step hs
  exact Run.trail_induction (start host ops) step n (fun _ _ => trivial)

/-- The parameters of others in a query that was written are those of the first query
    without its question mark. -/
theorem read_eq (m : Merging past r) (hd : d ∈ past) {q : String}
    (reading : d.hydration? = some q) {query : String} (written : query ∈ queriesIn r.calls) :
    ∃ d' ∈ past, query ∈ queriesIn d'.outcome.calls ∧
      Text.Form.read query = foreignPairs (withoutMark q) ++
        ownPairs (d'.after.filters.withSearchText d'.after.settledText) := by
  obtain ⟨d', hd', called, same⟩ := m.asked query (by
    unfold Run.allQueries
    rw [queriesIn_append]
    exact List.mem_append_left _ written)
  refine ⟨d', hd', called, ?_⟩
  rw [same, m.first d hd q reading, FilterQuery.merge, Text.Form.read_write]

end Merging

/-! ### Two question marks -/

/-- Whatever is done after a query has been read, and whatever the host does: the queries that
    are written hold all its parameters of others, as they were, and behind them those of
    filters that one of the deeds called for. -/
def KeepsForeign (q : String) : Prop :=
  ∀ (σ : Type) (h : Host σ) (host : σ) (ops : List Op) (n : Nat),
    (∃ d ∈ (Run.start host ops).trail h n, d.hydration? = some q) →
      ∀ query ∈ queriesIn ((Run.start host ops).runFor h n).calls,
        ∃ d ∈ (Run.start host ops).trail h n, query ∈ queriesIn d.outcome.calls ∧
          Text.Form.read query = foreignPairs q ++
            ownPairs (d.after.filters.withSearchText d.after.settledText)

def selecting (q : String) : List Op := [.act none (.hydrate q), .act none (.toggleType .model)]

/-- A selection right after the query has been read writes a query, if the one kept still
    has a question mark in front. -/
theorem writes_of_selecting {q : String} (marked : (withoutMark q).toList.head? = some '?') :
    ∃ n query, query ∈ queriesIn ((Run.start () (selecting q)).runFor .silent n).calls ∧
      ∃ d ∈ (Run.start () (selecting q)).trail .silent n, d.hydration? = some q := by
  have early : (0 : Nat) + searchTextDelay ≤ Timer.endOfTime := by decide
  have hydrated := Synchronizer.hydrate_eq (s := {}) rfl q
  -- the query is read
  obtain ⟨r₁, reads, stack₁, sync₁, now₁, handles₁, calls₁⟩ := Run.Leads.act
    (r := Run.start () (selecting q)) Host.silent_records rfl rfl (Action.inTime_apply early _ _)
  rw [Action.apply, show (Run.start () (selecting q)).sync = {} from rfl, hydrated] at sync₁ calls₁
  -- the selection is another one, so the merged query is written, which has no mark in front
  have changes : r₁.sync.hydrated = true ∧
      r₁.sync.filters.toggleType .model ≠ r₁.sync.filters := by
    refine ⟨by rw [sync₁], ?_⟩
    intro same
    exact OrderedSet.toggle_ne _ _ (congrArg FilterState.types same)
  have new : merge r₁.sync.baseQuery
      ((r₁.sync.filters.toggleType .model).withSearchText r₁.sync.settledText)
        ≠ r₁.sync.lastWritten := by
    intro same
    have bare := Text.Form.write_head? (foreignPairs r₁.sync.baseQuery ++
      ownPairs ((r₁.sync.filters.toggleType .model).withSearchText r₁.sync.settledText))
    rw [← FilterQuery.merge, same, sync₁] at bare
    exact bare marked
  have selected := Synchronizer.select_eq changes
  obtain ⟨r₂, selects, -, -, -, -, calls₂⟩ := Run.Leads.act Host.silent_records stack₁
    (by rw [Run.reaches, handles₁]; rfl) (by rw [now₁]; exact Action.inTime_apply early _ _)
  have written : merge r₁.sync.baseQuery
      ((r₁.sync.filters.toggleType .model).withSearchText r₁.sync.settledText)
        ∈ queriesIn r₂.calls := by
    rw [calls₂, Action.apply, Synchronizer.toggleType, selected, Synchronizer.writeCalls,
      if_neg new, queriesIn_append]
    exact List.mem_append_right _ List.mem_cons_self
  obtain ⟨n, hn⟩ := reads.trans selects
  have begun : n ≠ 0 := by
    rintro rfl
    rw [← hn] at written
    cases written
  rw [← hn] at written
  exact ⟨n, _, written, _, Run.mem_trail_iff.mpr ⟨0, Nat.pos_of_ne_zero begun, rfl⟩, rfl⟩

/-- **The parameters of others are kept exactly when one question mark at most leads the
    query.** -/
theorem keepsForeign_iff (q : String) : KeepsForeign q ↔ ¬ ∃ rest, q = "??" ++ rest := by
  constructor
  · rintro keeps ⟨rest, rfl⟩
    obtain ⟨n, query, written, d, hd, reading⟩ := writes_of_selecting (q := "??" ++ rest) (by
      rw [FilterQuery.withoutMark_double_mark]
      simp)
    obtain ⟨_, -, -, kept⟩ := keeps Unit .silent () _ n ⟨d, hd, reading⟩ query written
    obtain ⟨_, -, -, found⟩ :=
      (Merging.of_run .silent () (selecting _) n).read_eq hd reading written
    have same := congrArg (List.filter (fun p => !FilterQuery.isOwnKey p.1)) (found.symm.trans kept)
    rw [FilterQuery.filter_foreign_append_own, FilterQuery.filter_foreign_append_own] at same
    exact (FilterQuery.foreignPairs_withoutMark_iff _).mp same ⟨rest, rfl⟩
  · intro single σ h host ops n ⟨d, hd, reading⟩ query written
    rw [← (FilterQuery.foreignPairs_withoutMark_iff q).mpr single]
    exact (Merging.of_run h host ops n).read_eq hd reading written

/-- A query that begins with two question marks has a parameter whose name begins with one.
    A selection writes it without. -/
theorem not_keepsForeign_doubleMark : ¬ KeepsForeign "??a=b" := by
  intro keeps
  have read : ∃ d ∈ (Run.start () (selecting "??a=b")).trail .silent 6,
      d.hydration? = some "??a=b" := by decide +kernel
  have written : "a=b&resourceTypes=MODEL" ∈
      queriesIn ((Run.start () (selecting "??a=b")).runFor .silent 6).calls := by decide +kernel
  obtain ⟨d, -, -, kept⟩ := keeps Unit .silent () (selecting "??a=b") 6 read _ written
  have first := congrArg List.head? kept
  rw [show foreignPairs "??a=b" = [("?a", "b")] by decide +kernel,
    show (Text.Form.read "a=b&resourceTypes=MODEL").head? = some ("a", "b") by decide +kernel]
    at first
  simp at first

end ResourceCatalog.Sync
