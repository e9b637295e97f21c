/-
  ResourceCatalog/Proofs/Sync/Transitions.lean
  ============================================
  **What the operations of a synchronizer change, and what they call.**

  Each operation has one equation for its whole transition.  `Action.effect` says
  once what an operation can come to, whichever it is, and what later proofs need
  is read off that: which operations start a quiet period, write the query, ask for
  a listing or set rows, and what they leave as it was.

  The first reading of the query counts as an edit, and after it every operation
  that changes the filters.  An edit starts the quiet period anew; an operation
  that is none starts none.
-/
import ResourceCatalog.Sync.Synchronizer

namespace ResourceCatalog.Sync

/-! ### Kinds of calls -/

def Call.ticket? : Call → Option Ticket
  | requestResources ticket _ => some ticket
  | _ => none

def Call.request? : Call → Option ListRequest
  | requestResources _ request => some request
  | _ => none

def Call.rows? : Call → Option (List Resource)
  | setResources rows => some rows
  | _ => none

def Call.query? : Call → Option String
  | replaceQuery query => some query
  | _ => none

def ticketsIn (calls : List Call) : List Ticket := calls.filterMap Call.ticket?

def requestsIn (calls : List Call) : List ListRequest := calls.filterMap Call.request?

def rowsIn (calls : List Call) : List (List Resource) := calls.filterMap Call.rows?

def queriesIn (calls : List Call) : List String := calls.filterMap Call.query?

@[simp] theorem requestsIn_nil : requestsIn [] = [] := rfl

@[simp] theorem ticketsIn_append (as bs : List Call) :
    ticketsIn (as ++ bs) = ticketsIn as ++ ticketsIn bs := List.filterMap_append

@[simp] theorem requestsIn_append (as bs : List Call) :
    requestsIn (as ++ bs) = requestsIn as ++ requestsIn bs := List.filterMap_append

@[simp] theorem rowsIn_append (as bs : List Call) : rowsIn (as ++ bs) = rowsIn as ++ rowsIn bs :=
  List.filterMap_append

@[simp] theorem queriesIn_append (as bs : List Call) :
    queriesIn (as ++ bs) = queriesIn as ++ queriesIn bs := List.filterMap_append

namespace Synchronizer

/-! ### Equations -/

def writeCalls (query : String) (s : Synchronizer) : List Call :=
  if query = s.lastWritten then [] else [.replaceQuery query]

@[simp] theorem ticketsIn_writeCalls (query : String) (s : Synchronizer) :
    ticketsIn (s.writeCalls query) = [] := by
  rw [writeCalls]
  split <;> rfl

@[simp] theorem requestsIn_writeCalls (query : String) (s : Synchronizer) :
    requestsIn (s.writeCalls query) = [] := by
  rw [writeCalls]
  split <;> rfl

@[simp] theorem rowsIn_writeCalls (query : String) (s : Synchronizer) :
    rowsIn (s.writeCalls query) = [] := by
  rw [writeCalls]
  split <;> rfl

theorem writeQuery_eq (filters : FilterState) (s : Synchronizer) :
    writeQuery filters s =
      ({ s with lastWritten := FilterQuery.merge s.baseQuery filters },
        writeCalls (FilterQuery.merge s.baseQuery filters) s) := by
  rw [writeQuery, writeCalls]
  by_cases there : FilterQuery.merge s.baseQuery filters = s.lastWritten
  · simp only [if_pos there]
    rw [there]
  · simp only [if_neg there]

theorem fire_eq (s : Synchronizer) :
    s.fire =
      { after :=
          { s with
            timer := none
            settledText := s.filters.searchText
            lastWritten := FilterQuery.merge s.baseQuery s.filters
            lastTicket := s.lastTicket + 1
            outstanding := some (s.lastTicket + 1, s.filters) }
        calls := writeCalls (FilterQuery.merge s.baseQuery s.filters) s
          ++ (if s.isLoading then [] else [.setLoading true])
          ++ [.requestResources (s.lastTicket + 1) s.filters.listRequest] } := by
  simp only [fire, writeQuery_eq, writeCalls, isLoading]
  rfl

theorem select_eq {next : FilterState} {s : Synchronizer}
    (h : s.hydrated = true ∧ next ≠ s.filters) :
    s.select next =
      { after :=
          { s with
            filters := next
            lastWritten := FilterQuery.merge s.baseQuery (next.withSearchText s.settledText) }
        restart := some selectionDelay
        calls := writeCalls (FilterQuery.merge s.baseQuery (next.withSearchText s.settledText)) s } := by
  have effective : ¬ (s.hydrated = false ∨ next = s.filters) := by simpa using h
  simp only [select, if_neg effective, writeQuery_eq, writeCalls]

theorem select_unchanged {next : FilterState} {s : Synchronizer}
    (h : ¬ (s.hydrated = true ∧ next ≠ s.filters)) : s.select next = s.unchanged := by
  rw [select, if_pos]
  by_cases hydrated : s.hydrated = true
  · exact Or.inr (Decidable.byContradiction (fun changed => h ⟨hydrated, changed⟩))
  · exact Or.inl (Bool.eq_false_iff.mpr hydrated)

theorem complete_awaited {ticket : Ticket} {filters : FilterState} {s : Synchronizer}
    (h : s.outstanding = some (ticket, filters)) (result : Except String (List Resource)) :
    s.complete ticket result =
      { after := { s with outstanding := none }
        calls := .setLoading false :: outcomeCalls filters result } := by
  rw [complete, h]
  exact if_pos rfl

theorem complete_superseded {ticket : Ticket} {s : Synchronizer}
    (h : ∀ filters, s.outstanding ≠ some (ticket, filters))
    (result : Except String (List Resource)) : s.complete ticket result = s.unchanged := by
  rw [complete]
  split
  · rename_i latest filters ho
    exact if_neg (fun (e : latest = ticket) => h filters (by rw [ho, e]))
  · rfl

theorem hydrate_eq {s : Synchronizer} (h : s.hydrated = false) (query : String) :
    s.hydrate query =
      { after :=
          { s with
            filters := (FilterQuery.parse query).state
            hydrated := true
            baseQuery := FilterQuery.withoutMark query
            lastWritten := FilterQuery.withoutMark query
            settledText := (FilterQuery.parse query).state.searchText }
        restart := some selectionDelay
        calls := (FilterQuery.parse query).invalidTypes.map (fun t => .notify (.invalidType t))
          ++ [.requestTags] } := by
  rw [hydrate, if_neg (by simp [h])]

theorem hydrate_unchanged {s : Synchronizer} (h : s.hydrated = true) (query : String) :
    s.hydrate query = s.unchanged := if_pos h

/-- The end of a quiet period asks for one listing, for the filters there are. -/
theorem requestsIn_fire (s : Synchronizer) :
    requestsIn s.fire.calls = [s.filters.listRequest] := by
  rw [fire_eq]
  simp only [requestsIn_append, requestsIn_writeCalls]
  split <;> rfl

end Synchronizer

namespace Action

/-! ### Edits -/

/-- The filters that the operation selects, if it toggles a tag or a kind. -/
def selection? (a : Action) (s : Synchronizer) : Option FilterState :=
  match a with
  | toggleTag tag => some (s.filters.toggleTag tag)
  | toggleType type => some (s.filters.toggleType type)
  | _ => none

/-- The operation counts as an edit: the query is read for the first time, or the filters
    are changed after that. -/
def isEffective (a : Action) (s : Synchronizer) : Bool :=
  match a with
  | hydrate _ => !s.hydrated
  | setSearchText _ | toggleTag _ | toggleType _ =>
    s.hydrated && decide ((a.apply s).after.filters ≠ s.filters)
  | complete _ _ | acceptTags _ => false

/-- How long the filters have to be left alone after the operation. -/
def settleDelay : Action → Nat
  | setSearchText _ => Timer.milliseconds 400
  | _ => Timer.milliseconds 200

theorem settleDelay_pos (a : Action) : 0 < a.settleDelay := by
  cases a <;> simp [settleDelay, Timer.milliseconds]

/-! ### What an operation can come to -/

/-- What an operation comes to on a synchronizer.  It may change nothing and call for nothing.  It
    `reads` the query only the first time, and `resolves` a request only with the outcome that is
    waited for. -/
inductive Effect (a : Action) (s : Synchronizer) : Prop where
  | nothing (edit : a.isEffective s = false) (h : a.apply s = s.unchanged)
  | reads (query : String) (edit : a.isEffective s = true) (ha : a = hydrate query)
      (first : s.hydrated = false) (h : a.apply s = s.hydrate query)
  | types (text : String) (edit : a.isEffective s = true) (ha : a = setSearchText text)
      (hydrated : s.hydrated = true)
      (h : a.apply s =
        { after := { s with filters := s.filters.withSearchText text }
          restart := some searchTextDelay })
  | selects (next : FilterState) (edit : a.isEffective s = true) (ha : a.selection? s = some next)
      (changes : s.hydrated = true ∧ next ≠ s.filters) (h : a.apply s = s.select next)
  | resolves (ticket : Ticket) (result : Except String (List Resource)) (filters : FilterState)
      (edit : a.isEffective s = false) (ha : a = complete ticket result)
      (awaited : s.outstanding = some (ticket, filters))
      (h : a.apply s =
        { after := { s with outstanding := none }
          calls := .setLoading false :: Synchronizer.outcomeCalls filters result })
  | suggests (tags : List Tag) (edit : a.isEffective s = false) (ha : a = acceptTags (.ok tags))
      (h : a.apply s =
        { after := s, calls := [.setSuggestions (Synchronizer.suggestionsOf tags)] })

/-- A selection counts as an edit when it makes a difference. -/
theorem effect_of_selection {a : Action} {s : Synchronizer} {next : FilterState}
    (ha : a.selection? s = some next) (h : a.apply s = s.select next)
    (edit : a.isEffective s = (s.hydrated && decide ((a.apply s).after.filters ≠ s.filters))) :
    a.Effect s := by
  by_cases changes : s.hydrated = true ∧ next ≠ s.filters
  · refine .selects next ?_ ha changes h
    rw [edit, h, Synchronizer.select_eq changes]
    simp [changes]
  · have unchanged := Synchronizer.select_unchanged changes
    refine .nothing ?_ (h.trans unchanged)
    rw [edit, h, unchanged]
    simp [Synchronizer.unchanged]

/-- **What an operation can come to.** -/
theorem effect (a : Action) (s : Synchronizer) : a.Effect s := by
  cases a with
  | hydrate query =>
    by_cases hydrated : s.hydrated = true
    · exact .nothing (by simp [isEffective, hydrated]) (Synchronizer.hydrate_unchanged hydrated query)
    · exact .reads query (by simp [isEffective, hydrated]) rfl (Bool.eq_false_iff.mpr hydrated) rfl
  | setSearchText text =>
    by_cases same : s.hydrated = false ∨ s.filters.searchText = text
    · have h : (setSearchText text).apply s = s.unchanged := if_pos same
      exact .nothing (by rw [isEffective, h]; simp [Synchronizer.unchanged]) h
    · have h : (setSearchText text).apply s =
          { after := { s with filters := s.filters.withSearchText text }
            restart := some searchTextDelay } := if_neg same
      obtain ⟨hydrated, changed⟩ := not_or.mp same
      have hydrated : s.hydrated = true := by simpa using hydrated
      refine .types text ?_ rfl hydrated h
      rw [isEffective, h, hydrated, Bool.true_and, decide_eq_true_iff]
      intro unchanged
      exact changed (congrArg FilterState.searchText unchanged).symm
  | toggleTag tag => exact effect_of_selection rfl rfl rfl
  | toggleType type => exact effect_of_selection rfl rfl rfl
  | complete ticket result =>
    by_cases awaited : ∃ filters, s.outstanding = some (ticket, filters)
    · obtain ⟨filters, awaited⟩ := awaited
      exact .resolves ticket result filters rfl rfl awaited
        (Synchronizer.complete_awaited awaited result)
    · exact .nothing rfl (Synchronizer.complete_superseded (not_exists.mp awaited) result)
  | acceptTags result =>
    cases result with
    | error detail => exact .nothing rfl rfl
    | ok tags => exact .suggests tags rfl rfl rfl

/-! ### What is left alone -/

def isCompletion : Action → Bool
  | complete _ _ => true
  | _ => false

/-- Only firings and completions touch tickets and rows. -/
theorem apply_frame {a : Action} (h : a.isCompletion = false) (s : Synchronizer) :
    (a.apply s).after.lastTicket = s.lastTicket ∧
      (a.apply s).after.outstanding = s.outstanding ∧
      ticketsIn (a.apply s).calls = [] ∧ rowsIn (a.apply s).calls = [] := by
  cases a.effect s with
  | nothing edit eq =>
    rw [eq]
    exact ⟨rfl, rfl, rfl, rfl⟩
  | reads query edit ha first eq =>
    rw [eq, Synchronizer.hydrate_eq first]
    refine ⟨rfl, rfl, ?_, ?_⟩
    · simp [ticketsIn, Call.ticket?, List.filterMap_map]
    · simp [rowsIn, Call.rows?, List.filterMap_map]
  | types text edit ha hydrated eq =>
    rw [eq]
    exact ⟨rfl, rfl, rfl, rfl⟩
  | selects next edit ha changes eq =>
    rw [eq]
    simp only [Synchronizer.select_eq changes, Synchronizer.ticketsIn_writeCalls,
      Synchronizer.rowsIn_writeCalls, and_self]
  | resolves ticket result filters edit ha awaited eq =>
    rw [ha] at h
    cases h
  | suggests tags edit ha eq =>
    rw [eq]
    exact ⟨rfl, rfl, rfl, rfl⟩

/-- No operation touches the timer or asks for a listing by itself. -/
theorem apply_noFetch (a : Action) (s : Synchronizer) :
    (a.apply s).after.timer = s.timer ∧ requestsIn (a.apply s).calls = [] := by
  cases a.effect s with
  | nothing edit eq =>
    rw [eq]
    exact ⟨rfl, rfl⟩
  | reads query edit ha first eq =>
    rw [eq, Synchronizer.hydrate_eq first]
    refine ⟨rfl, ?_⟩
    simp [requestsIn, Call.request?, List.filterMap_map]
  | types text edit ha hydrated eq =>
    rw [eq]
    exact ⟨rfl, rfl⟩
  | selects next edit ha changes eq =>
    rw [eq]
    simp only [Synchronizer.select_eq changes, Synchronizer.requestsIn_writeCalls, and_self]
  | resolves ticket result filters edit ha awaited eq =>
    rw [eq]
    refine ⟨rfl, ?_⟩
    rcases result with detail | _ | ⟨row, rows⟩ <;> rfl
  | suggests tags edit ha eq =>
    rw [eq]
    exact ⟨rfl, rfl⟩

/-- An operation that does not count as an edit changes the awaited ticket at most. -/
theorem apply_of_not_effective {a : Action} {s : Synchronizer} (h : a.isEffective s = false) :
    (∃ outstanding, (a.apply s).after = { s with outstanding }) ∧
      (a.apply s).restart = none ∧ queriesIn (a.apply s).calls = [] := by
  cases a.effect s with
  | nothing edit eq =>
    rw [eq]
    exact ⟨⟨s.outstanding, rfl⟩, rfl, rfl⟩
  | resolves ticket result filters edit ha awaited eq =>
    rw [eq]
    refine ⟨⟨none, rfl⟩, rfl, ?_⟩
    rcases result with detail | _ | ⟨row, rows⟩ <;> rfl
  | suggests tags edit ha eq =>
    rw [eq]
    exact ⟨⟨s.outstanding, rfl⟩, rfl, rfl⟩
  | reads query edit | types text edit | selects next edit =>
    rw [h] at edit
    cases edit

/-- **An operation starts a quiet period exactly when it counts as an edit**, of its own
    length. -/
theorem restart_apply (a : Action) (s : Synchronizer) :
    (a.apply s).restart = if a.isEffective s then some a.settleDelay else none := by
  cases a.effect s with
  | nothing edit eq =>
    rw [eq, edit]
    rfl
  | reads query edit ha first eq =>
    rw [eq, edit, Synchronizer.hydrate_eq first, ha]
    rfl
  | types text edit ha hydrated eq =>
    rw [eq, edit, ha]
    rfl
  | selects next edit ha changes eq =>
    have delay : a.settleDelay = selectionDelay := by
      cases a with
      | toggleTag tag => rfl
      | toggleType type => rfl
      | _ => cases ha
    rw [eq, edit, Synchronizer.select_eq changes, delay]
    rfl
  | resolves ticket result filters edit ha awaited eq =>
    rw [eq, edit]
    rfl
  | suggests tags edit ha eq =>
    rw [eq, edit]
    rfl

end Action

end ResourceCatalog.Sync
