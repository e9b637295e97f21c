/-
  ResourceCatalog/Proofs/Sync/Hydration.lean
  ==========================================
  **The filters are read once, from the first parameters of their names.**

  Which parameters count is told in `Filter/FirstParameters`.  The first time that a
  synchronizer reads a query, its filters become what was read, each part that names no kind
  of resource is reported, and the tags are asked for.
-/
import ResourceCatalog.Proofs.Filter.FirstParameters
import ResourceCatalog.Proofs.Sync.Recording

namespace ResourceCatalog.Sync

open FilterQuery (Holds Inserts parse)
open Text (Form.read)

/-- What is read from a query, and what a synchronizer does that reads it first.  Behind one
    question mark, the first parameters of the filter's names are what is read; pieces that are
    empty or foreign or come too late make no difference.  The filters are what is read, and the
    calls are the notices, in order, and the one request for the tags. -/
structure ReadsFirst (query : String) : Prop where
  holds : ∃ text,
    (query = "?" ++ text ∨ (query = text ∧ query.toList.head? ≠ some '?')) ∧
      Holds (Form.read text) (parse query)
  idle : ∀ query', Relation.EqvGen Inserts query query' → parse query' = parse query
  hydrates : ∀ {σ : Type} {h : Host σ}, h.Records →
    ∀ {r : Run σ} {via : Option Nat} {ops : List Op} {below : List Frame},
      r.stack = .script (.act via (.hydrate query) :: ops) :: below → r.reaches via = true →
      r.sync.hydrated = false → r.clock.now + selectionDelay ≤ Timer.endOfTime →
      ∃ r', Run.Leads h r r' ∧ r'.stack = .script ops :: below ∧
        r'.sync.filters = (parse query).state ∧ r'.sync.hydrated = true ∧
        r'.calls = r.calls ++
          ((parse query).invalidTypes.map (fun s => .notify (.invalidType s)) ++ [.requestTags])

/-- **Hydration reads exactly the first parameters of the filter's names.** -/
theorem readsFirst (query : String) : ReadsFirst query where
  holds :=
    ⟨FilterQuery.withoutMark query, FilterQuery.withoutMark_spec query,
      FilterQuery.holds_iff.mpr rfl⟩
  idle := fun query' same => (FilterQuery.parse_eq_of_inserts same).symm
  hydrates := by
    intro σ h records r via ops below stack live first early
    have reads : (Action.hydrate query).apply r.sync = _ := Synchronizer.hydrate_eq first query
    have inTime : ((Action.hydrate query).apply r.sync).inTime r.clock.now = true := by
      rw [reads, Transition.inTime]
      exact decide_eq_true early
    obtain ⟨r', leads, stack', sync', -, -, calls'⟩ := Run.Leads.act records stack live inTime
    rw [reads] at sync' calls'
    refine ⟨r', leads, stack', ?_, ?_, calls'⟩
    · rw [sync']
    · rw [sync']

theorem readsFirst_repeated_key :
    parse "resourceTypes=MODEL,a,,a&%72esourceTypes=b" = parse "?resourceTypes=MODEL,a,,a" ∧
      ∃ r', Run.Leads .silent
          (Run.start () [.act none (.hydrate "?resourceTypes=MODEL,a,,a")]) r' ∧
        r'.sync.filters = ({} : FilterState).toggleType .model ∧
        r'.calls = [.notify (.invalidType "a"), .notify (.invalidType "a"), .requestTags] := by
  have reads := readsFirst "?resourceTypes=MODEL,a,,a"
  have read : parse "?resourceTypes=MODEL,a,,a" =
      { state := ({} : FilterState).toggleType .model, invalidTypes := ["a", "a"] } := by
    decide +kernel
  refine ⟨reads.idle _ (.rel _ _ ?_), ?_⟩
  · refine ⟨["resourceTypes=MODEL,a,,a".toList], "%72esourceTypes=b".toList, [], ?_, ?_, ?_⟩
    · decide +kernel
    · decide +kernel
    · have late : Form.read (String.ofList "%72esourceTypes=b".toList) =
          [("resourceTypes", "b")] := by
        decide +kernel
      have first : Form.read (String.ofList "resourceTypes=MODEL,a,,a".toList) =
          [("resourceTypes", "MODEL,a,,a")] := by
        decide +kernel
      exact .repeated late (List.mem_singleton.mpr rfl) first
  · obtain ⟨r', leads, -, filters, -, calls⟩ := reads.hydrates Host.silent_records
      (r := Run.start () [.act none (.hydrate "?resourceTypes=MODEL,a,,a")]) rfl rfl rfl (by decide)
    rw [read] at filters calls
    exact ⟨r', leads, filters, calls⟩

end ResourceCatalog.Sync
