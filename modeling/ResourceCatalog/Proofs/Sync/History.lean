/-
  ResourceCatalog/Proofs/Sync/History.lean
  ========================================
  **What a synchronizer has said, told from its deeds alone.**

  Who keeps only the last word of a synchronizer on each matter, whether a listing is
  under way, which rows there are, and what an empty listing had been asked for, has
  what the synchronizer knows: the last words on the listing are those of the greatest
  ticket whose listing was applied.  The ticket that it waits for is told by its deeds
  as well (`History.outstanding_iff`).

  `Deed.bearing` says once what a deed can do to these matters.
-/
import Mathlib.Data.List.Pairwise
import ResourceCatalog.Proofs.Sync.Tickets

namespace ResourceCatalog.Sync

/-! ### Last words -/

/-- What some calls last said on a matter, or else what was said before them. -/
def lastSaid {β : Type} (said? : Call → Option β) (before : β) (calls : List Call) : β :=
  (calls.filterMap said?).getLast?.getD before

variable {β : Type} {said? : Call → Option β}

theorem lastSaid_append (before : β) (as bs : List Call) :
    lastSaid said? before (as ++ bs) = lastSaid said? (lastSaid said? before as) bs := by
  unfold lastSaid
  rw [List.filterMap_append, List.getLast?_append]
  cases (bs.filterMap said?).getLast? <;> rfl

theorem lastSaid_of_silent {calls : List Call} (silent : ∀ c ∈ calls, said? c = none)
    (before : β) : lastSaid said? before calls = before := by
  unfold lastSaid
  rw [List.filterMap_eq_nil_iff.mpr silent]
  rfl

def Call.loading? : Call → Option Bool
  | setLoading on => some on
  | _ => none

/-- Setting rows says that there is no empty listing, until the call that says what an empty
    one had been asked for. -/
def Call.summary? : Call → Option (Option EmptySummary)
  | setResources _ => some none
  | showEmptyResult summary => some (some summary)
  | _ => none

def Call.notice? : Call → Option Notice
  | notify notice => some notice
  | _ => none

def noticesIn (calls : List Call) : List Notice := calls.filterMap Call.notice?

/-- The call concerns neither tickets nor the listing. -/
def Call.isAside : Call → Bool
  | replaceQuery _ | notify _ | requestTags | setSuggestions _ => true
  | _ => false

theorem Call.silent_of_isAside {c : Call} (h : c.isAside = true) :
    c.loading? = none ∧ c.rows? = none ∧ c.summary? = none ∧ c.ticket? = none := by
  cases c <;> first | exact ⟨rfl, rfl, rfl, rfl⟩ | cases h

theorem isAside_writeCalls (query : String) (s : Synchronizer) :
    ∀ c ∈ s.writeCalls query, c.isAside = true := by
  unfold Synchronizer.writeCalls
  split
  · simp
  · simp [Call.isAside]

/-! ### What a deed can do to tickets and listing -/

namespace Deed

/-- The calls that are made for a deed: none when it starts a quiet period that would end past
    the end of time. -/
def sent (d : Deed) : List Call := if d.inTime then d.outcome.calls else []

theorem sent_of_restart_none {d : Deed} (h : d.outcome.restart = none) :
    d.sent = d.outcome.calls := if_pos (Transition.inTime_of_restart_none h d.time)

theorem mem_of_mem_sent {d : Deed} {c : Call} (h : c ∈ d.sent) : c ∈ d.outcome.calls := by
  unfold sent at h
  split at h
  · exact h
  · cases h

/-- What a deed does to tickets and listing: it asks for a listing, reports the outcome that is
    waited for, or leaves both alone. -/
inductive Bearing (d : Deed) : Prop where
  | asks (written : List Call) (aside : ∀ c ∈ written, c.isAside = true)
      (sent : d.sent = written ++ (if d.before.isLoading then [] else [.setLoading true])
        ++ [.requestResources (d.before.lastTicket + 1) d.before.filters.listRequest])
      (lastTicket : d.after.lastTicket = d.before.lastTicket + 1)
      (outstanding : d.after.outstanding = some (d.before.lastTicket + 1, d.before.filters))
      (applied : d.applied? = none)
  | resolves (ticket : Ticket) (filters : FilterState) (result : Except String (List Resource))
      (awaited : d.before.outstanding = some (ticket, filters))
      (sent : d.sent = .setLoading false :: Synchronizer.outcomeCalls filters result)
      (lastTicket : d.after.lastTicket = d.before.lastTicket)
      (outstanding : d.after.outstanding = none) (applied : d.applied? = some (ticket, result))
  | aside (sent : ∀ c ∈ d.sent, c.isAside = true)
      (lastTicket : d.after.lastTicket = d.before.lastTicket)
      (outstanding : d.after.outstanding = d.before.outstanding) (applied : d.applied? = none)

theorem bearing_timer {d : Deed} (cause : d.cause = .timer) : d.Bearing := by
  have outcome : d.outcome = d.before.fire := by rw [Deed.outcome, cause, Cause.apply]
  have sent : d.sent = d.before.fire.calls := by
    rw [sent_of_restart_none (by rw [outcome, Synchronizer.restart_fire]), outcome]
  have applied : d.applied? = none := by rw [applied?, cause]
  rw [Synchronizer.fire_eq] at outcome sent
  refine .asks _ (isAside_writeCalls _ _) sent ?_ ?_ applied
  · rw [after, outcome]
  · rw [after, outcome]

theorem bearing_action {d : Deed} {a : Action} (cause : d.cause = .action a) : d.Bearing := by
  have outcome : d.outcome = a.apply d.before := by rw [Deed.outcome, cause, Cause.apply]
  have notApplied : (∀ ticket result, a ≠ .complete ticket result) → d.applied? = none := by
    intro other
    rw [applied?, cause]
    cases a with
    | complete ticket result => exact absurd rfl (other ticket result)
    | _ => rfl
  cases a.effect d.before with
  | nothing _ h =>
    have same : d.outcome = d.before.unchanged := outcome.trans h
    refine .aside ?_ ?_ ?_ ?_
    · intro c hc
      have called := mem_of_mem_sent hc
      rw [same] at called
      cases called
    · rw [after, same, Synchronizer.unchanged]
    · rw [after, same, Synchronizer.unchanged]
    · rw [applied?, cause]
      cases a with
      | complete ticket result => exact if_neg (fun effect => effect same)
      | _ => rfl
  | reads query _ ha first h =>
    rw [h, Synchronizer.hydrate_eq first] at outcome
    refine .aside ?_ (by rw [after, outcome]) (by rw [after, outcome]) (notApplied (by simp [ha]))
    intro c hc
    have called := mem_of_mem_sent hc
    rw [outcome] at called
    rcases List.mem_append.mp called with notice | last
    · obtain ⟨token, -, rfl⟩ := List.mem_map.mp notice
      rfl
    · rw [List.mem_singleton.mp last]
      rfl
  | types text _ ha _ h =>
    rw [h] at outcome
    refine .aside ?_ (by rw [after, outcome]) (by rw [after, outcome]) (notApplied (by simp [ha]))
    intro c hc
    have called := mem_of_mem_sent hc
    rw [outcome] at called
    cases called
  | selects next _ ha changes h =>
    rw [h, Synchronizer.select_eq changes] at outcome
    refine .aside ?_ (by rw [after, outcome]) (by rw [after, outcome]) (notApplied ?_)
    · intro c hc
      have called := mem_of_mem_sent hc
      simp only [outcome] at called
      exact isAside_writeCalls _ _ c called
    · rintro ticket result rfl
      cases ha
  | resolves ticket result filters _ ha awaited h =>
    rw [h] at outcome
    have sent := sent_of_restart_none (d := d) (by rw [outcome])
    rw [ha] at cause
    refine .resolves ticket filters result awaited (by rw [sent, outcome]) (by rw [after, outcome])
      (by rw [after, outcome])
      (applied?_eq_some_iff.mpr ⟨cause, (hasEffect_iff_of_complete cause).mpr ⟨filters, awaited⟩⟩)
  | suggests tags _ ha h =>
    rw [h] at outcome
    refine .aside ?_ (by rw [after, outcome]) (by rw [after, outcome]) (notApplied (by simp [ha]))
    intro c hc
    have called := mem_of_mem_sent hc
    rw [outcome] at called
    rw [List.mem_singleton.mp called]
    rfl

/-- **What a deed can do to tickets and listing.** -/
theorem bearing (d : Deed) : d.Bearing := by
  cases cause : d.cause with
  | timer => exact bearing_timer cause
  | action a => exact bearing_action cause

end Deed

/-! ### Histories -/

/-- The calls made for some deeds, the first one first. -/
def callsOf : List Deed → List Call
  | [] => []
  | d :: past => callsOf past ++ d.sent

/-- A new synchronizer that was made to do some things, latest first, is in that state now. -/
inductive History : List Deed → Synchronizer → Prop where
  | start : History [] {}
  | deed (d : Deed) (timer : Option Timer.Handle) {past : List Deed} {s : Synchronizer}
      (history : History past s) (before : d.before = s) :
      History (d :: past) { d.after with timer := timer }

theorem lastSaid_callsOf_of_silent {d : Deed} (silent : ∀ c ∈ d.sent, said? c = none) (before : β)
    (past : List Deed) :
    lastSaid said? before (callsOf (d :: past)) = lastSaid said? before (callsOf past) := by
  rw [callsOf, lastSaid_append]
  exact lastSaid_of_silent silent _

/-- The rows of the greatest ticket whose listing was applied. -/
def Latest (past : List Deed) (ticket : Ticket) (rows : List Resource) : Prop :=
  (ticket, .ok rows) ∈ applied past ∧
    ∀ other rows', (other, .ok rows') ∈ applied past → other ≤ ticket

theorem applied_cons_of_none {past : List Deed} {d : Deed} (none : d.applied? = none) :
    applied (d :: past) = applied past := by
  rw [applied_cons, none, Option.toList_none, List.append_nil]

theorem latest_cons_of_none {past : List Deed} {d : Deed} (applied : d.applied? = none)
    {ticket : Ticket} {rows : List Resource} :
    Latest (d :: past) ticket rows ↔ Latest past ticket rows := by
  unfold Latest
  rw [applied_cons_of_none applied]

theorem latest_cons_of_error {past : List Deed} {d : Deed} {failed : Ticket} {detail : String}
    (applied : d.applied? = some (failed, .error detail)) {ticket : Ticket}
    {rows : List Resource} : Latest (d :: past) ticket rows ↔ Latest past ticket rows := by
  unfold Latest
  rw [applied_cons, applied]
  simp

/-- A listing that is applied under a greater ticket than all before it is the latest. -/
theorem latest_cons_of_ok {past : List Deed} {d : Deed} {newest : Ticket} {found : List Resource}
    (applied : d.applied? = some (newest, .ok found))
    (greater : ∀ p ∈ Sync.applied past, p.1 < newest) {ticket : Ticket} {rows : List Resource} :
    Latest (d :: past) ticket rows ↔ ticket = newest ∧ rows = found := by
  unfold Latest
  rw [applied_cons, applied, Option.toList_some]
  simp only [List.mem_append, List.mem_singleton]
  constructor
  · rintro ⟨old | new, greatest⟩
    · have below := greatest newest found (Or.inr rfl)
      exact absurd (greater _ old) (Nat.not_lt.mpr below)
    · cases new
      exact ⟨rfl, rfl⟩
  · rintro ⟨rfl, rfl⟩
    refine ⟨Or.inr rfl, ?_⟩
    rintro other rows' (old | new)
    · exact Nat.le_of_lt (greater _ old)
    · cases new
      exact Nat.le_refl _

/-- Rows and a summary that present the latest listing applied, if any, as it was asked for in
    some calls. -/
structure Presents (past : List Deed) (calls : List Call) (rows : List Resource)
    (summary : Option EmptySummary) : Prop where
  latest : ∀ ticket found, Latest past ticket found → rows = found ∧
    ∃ request, .requestResources ticket request ∈ calls ∧
      summary = if found.isEmpty then some request.emptySummary else none
  nothing : (∀ ticket found, ¬ Latest past ticket found) → rows = [] ∧ summary = none

theorem Presents.more {past past' : List Deed} {calls calls' : List Call} {rows : List Resource}
    {summary : Option EmptySummary} (presents : Presents past calls rows summary)
    (same : ∀ ticket found, Latest past' ticket found ↔ Latest past ticket found)
    (more : calls ⊆ calls') : Presents past' calls' rows summary := by
  constructor
  · intro ticket found latest
    obtain ⟨hrows, request, asked, hsummary⟩ :=
      presents.latest ticket found ((same ticket found).mp latest)
    exact ⟨hrows, request, more asked, hsummary⟩
  · intro none
    exact presents.nothing (fun ticket found latest => none _ _ ((same ticket found).mpr latest))

/-- What a synchronizer has said agrees with what it knows.  A ticket is waited for that was asked
    for, and that is greater than all before it. -/
structure Accounts (past : List Deed) (s : Synchronizer) : Prop where
  loading : lastSaid Call.loading? false (callsOf past) = s.isLoading
  tickets : ticketsIn (callsOf past) = List.range' 1 s.lastTicket
  awaited : ∀ ticket filters, s.outstanding = some (ticket, filters) →
    .requestResources ticket filters.listRequest ∈ callsOf past ∧
      ticket ≤ s.lastTicket ∧ ∀ p ∈ applied past, p.1 < ticket
  issued : ∀ p ∈ applied past, p.1 ≤ s.lastTicket
  presents : Presents past (callsOf past) (lastSaid Call.rows? [] (callsOf past))
    (lastSaid Call.summary? none (callsOf past))

namespace Accounts

variable {past : List Deed} {s : Synchronizer} {d : Deed}

theorem start : Accounts [] {} where
  loading := rfl
  tickets := rfl
  awaited := by
    intro ticket filters waiting
    cases waiting
  issued := by
    intro p hp
    cases hp
  presents := by
    constructor
    · rintro ticket found ⟨hfound, -⟩
      cases hfound
    · exact fun _ => ⟨rfl, rfl⟩

/-- What does not bear on the listing leaves it as it was presented. -/
theorem presents_of_silent (a : Accounts past d.before)
    (silent : ∀ c ∈ d.sent, c.rows? = none ∧ c.summary? = none)
    (same : ∀ ticket found, Latest (d :: past) ticket found ↔ Latest past ticket found) :
    Presents (d :: past) (callsOf (d :: past)) (lastSaid Call.rows? [] (callsOf (d :: past)))
      (lastSaid Call.summary? none (callsOf (d :: past))) := by
  rw [lastSaid_callsOf_of_silent (fun c hc => (silent c hc).1),
    lastSaid_callsOf_of_silent (fun c hc => (silent c hc).2)]
  exact a.presents.more same (List.subset_append_left _ _)

theorem aside (a : Accounts past d.before) (sent : ∀ c ∈ d.sent, c.isAside = true)
    (lastTicket : s.lastTicket = d.before.lastTicket)
    (outstanding : s.outstanding = d.before.outstanding) (applied : d.applied? = none) :
    Accounts (d :: past) s := by
  have silent := fun c hc => Call.silent_of_isAside (sent c hc)
  have noTicket : ticketsIn d.sent = [] :=
    List.filterMap_eq_nil_iff.mpr (fun c hc => (silent c hc).2.2.2)
  constructor
  · rw [lastSaid_callsOf_of_silent (fun c hc => (silent c hc).1), a.loading,
      Synchronizer.isLoading, Synchronizer.isLoading, outstanding]
  · rw [callsOf, ticketsIn_append, a.tickets, noTicket, List.append_nil, lastTicket]
  · rw [outstanding, applied_cons_of_none applied, lastTicket]
    intro ticket filters waiting
    obtain ⟨asked, below, greater⟩ := a.awaited ticket filters waiting
    exact ⟨List.mem_append_left _ asked, below, greater⟩
  · rw [applied_cons_of_none applied, lastTicket]
    exact a.issued
  · refine a.presents_of_silent ?_ (fun _ _ => latest_cons_of_none applied)
    intro c hc
    exact ⟨(silent c hc).2.1, (silent c hc).2.2.1⟩

theorem asks (a : Accounts past d.before) {written : List Call}
    (aside : ∀ c ∈ written, c.isAside = true)
    (sent : d.sent = written ++ (if d.before.isLoading then [] else [.setLoading true])
      ++ [.requestResources (d.before.lastTicket + 1) d.before.filters.listRequest])
    (lastTicket : s.lastTicket = d.before.lastTicket + 1)
    (outstanding : s.outstanding = some (d.before.lastTicket + 1, d.before.filters))
    (applied : d.applied? = none) : Accounts (d :: past) s := by
  have silent := fun c hc => Call.silent_of_isAside (aside c hc)
  have loading : lastSaid Call.loading? false (callsOf (d :: past)) = true := by
    rw [callsOf, lastSaid_append, sent, lastSaid_append, lastSaid_append, a.loading,
      lastSaid_of_silent (fun c hc => (silent c hc).1)]
    cases d.before.isLoading <;> rfl
  have tickets : ticketsIn d.sent = [d.before.lastTicket + 1] := by
    have none : ticketsIn written = [] :=
      List.filterMap_eq_nil_iff.mpr (fun c hc => (silent c hc).2.2.2)
    rw [sent, ticketsIn_append, ticketsIn_append, none]
    cases d.before.isLoading <;> rfl
  constructor
  · rw [loading, Synchronizer.isLoading, outstanding]
    rfl
  · rw [callsOf, ticketsIn_append, a.tickets, tickets, lastTicket, List.range'_1_concat,
      Nat.add_comm 1]
  · rw [outstanding, applied_cons_of_none applied, lastTicket]
    intro ticket filters waiting
    cases waiting
    refine ⟨?_, Nat.le_refl _, fun p hp => Nat.lt_succ_of_le (a.issued p hp)⟩
    rw [callsOf, sent]
    simp
  · rw [applied_cons_of_none applied, lastTicket]
    exact fun p hp => Nat.le_succ_of_le (a.issued p hp)
  · refine a.presents_of_silent ?_ (fun _ _ => latest_cons_of_none applied)
    intro c hc
    rw [sent] at hc
    rcases List.mem_append.mp hc with early | request
    · rcases List.mem_append.mp early with writes | loads
      · exact ⟨(silent c writes).2.1, (silent c writes).2.2.1⟩
      · split at loads
        · cases loads
        · rw [List.mem_singleton.mp loads]
          exact ⟨rfl, rfl⟩
    · rw [List.mem_singleton.mp request]
      exact ⟨rfl, rfl⟩

theorem resolves (a : Accounts past d.before) {ticket : Ticket} {filters : FilterState}
    {result : Except String (List Resource)}
    (awaited : d.before.outstanding = some (ticket, filters))
    (sent : d.sent = .setLoading false :: Synchronizer.outcomeCalls filters result)
    (lastTicket : s.lastTicket = d.before.lastTicket) (outstanding : s.outstanding = none)
    (applied : d.applied? = some (ticket, result)) : Accounts (d :: past) s := by
  obtain ⟨asked, below, greater⟩ := a.awaited ticket filters awaited
  have loading : lastSaid Call.loading? false (callsOf (d :: past)) = false := by
    rw [callsOf, lastSaid_append, sent]
    rcases result with detail | _ | ⟨row, rows⟩ <;> rfl
  have tickets : ticketsIn d.sent = [] := by
    rw [sent]
    rcases result with detail | _ | ⟨row, rows⟩ <;> rfl
  constructor
  · rw [loading, Synchronizer.isLoading, outstanding]
    rfl
  · rw [callsOf, ticketsIn_append, a.tickets, tickets, List.append_nil, lastTicket]
  · rw [outstanding]
    intro ticket filters waiting
    cases waiting
  · rw [applied_cons, applied, lastTicket]
    intro p hp
    rcases List.mem_append.mp hp with old | new
    · exact a.issued p old
    · rw [List.mem_singleton.mp new]
      exact below
  · cases result with
    | error detail =>
      refine a.presents_of_silent ?_ (fun _ _ => latest_cons_of_error applied)
      rw [sent]
      simp [Synchronizer.outcomeCalls, Call.rows?, Call.summary?]
    | ok found =>
      have latest := @latest_cons_of_ok past d ticket found applied greater
      constructor
      · intro newest rows hlatest
        obtain ⟨rfl, rfl⟩ := latest.mp hlatest
        rw [callsOf, lastSaid_append, lastSaid_append, sent]
        refine ⟨?_, filters.listRequest, List.mem_append_left _ asked, ?_⟩
        · cases rows <;> rfl
        · cases rows <;> rfl
      · intro none
        exact absurd (latest.mpr ⟨rfl, rfl⟩) (none ticket found)

end Accounts

/-- **What a synchronizer has said agrees with what it knows.** -/
theorem History.accounts {past : List Deed} {s : Synchronizer} (history : History past s) :
    Accounts past s := by
  induction history with
  | start => exact Accounts.start
  | deed d timer history before ih =>
    rw [← before] at ih
    cases d.bearing with
    | asks written aside sent lastTicket outstanding applied =>
      exact ih.asks aside sent lastTicket outstanding applied
    | resolves ticket filters result awaited sent lastTicket outstanding applied =>
      exact ih.resolves awaited sent lastTicket outstanding applied
    | aside sent lastTicket outstanding applied =>
      exact ih.aside sent lastTicket outstanding applied

/-- No ticket is used for two requests. -/
theorem Accounts.request_unique {past : List Deed} {s : Synchronizer} (a : Accounts past s)
    {ticket : Ticket} {request other : ListRequest}
    (h : .requestResources ticket request ∈ callsOf past)
    (h' : .requestResources ticket other ∈ callsOf past) : request = other := by
  have distinct : (ticketsIn (callsOf past)).Nodup := by
    rw [a.tickets]
    exact List.nodup_range'
  unfold List.Nodup ticketsIn at distinct
  rw [List.pairwise_filterMap] at distinct
  have symmetric : Std.Symm (fun c c' : Call =>
      ∀ t, c.ticket? = some t → ∀ t', c'.ticket? = some t' → t ≠ t') :=
    ⟨fun c c' apart t ht t' ht' same => apart t' ht' t ht same.symm⟩
  by_contra differ
  have other : Call.requestResources ticket request ≠ .requestResources ticket other := by
    intro same
    cases same
    exact differ rfl
  exact distinct.forall h h' other ticket rfl ticket rfl rfl

/-! ### Tickets as a history tells them -/

theorem Action.lastTicket_apply (a : Action) (s : Synchronizer) :
    (a.apply s).after.lastTicket = s.lastTicket := by
  cases a.effect s with
  | nothing _ h => rw [h, Synchronizer.unchanged]
  | reads query _ _ first h => rw [h, Synchronizer.hydrate_eq first]
  | types _ _ _ _ h => rw [h]
  | selects next _ _ changes h => rw [h, Synchronizer.select_eq changes]
  | resolves _ _ _ _ _ _ h => rw [h]
  | suggests _ _ _ h => rw [h]

namespace History

variable {past : List Deed} {s : Synchronizer}

theorem lastTicket_eq (history : History past s) : s.lastTicket = issued past := by
  induction history with
  | start => rfl
  | deed d timer history before ih =>
    rw [issued_cons, ← ih, ← before, Deed.isFiring]
    show d.after.lastTicket = _
    rw [Deed.after, Deed.outcome]
    cases d.cause with
    | timer => rw [Cause.apply, Synchronizer.fire_eq, if_pos rfl]
    | action a => exact a.lastTicket_apply d.before

/-- A ticket is waited for while it is the latest and no outcome has been reported under it. -/
theorem outstanding_iff (history : History past s) (ticket : Ticket) :
    (∃ filters, s.outstanding = some (ticket, filters)) ↔ Awaited past ticket := by
  induction history with
  | start =>
    constructor
    · rintro ⟨filters, waiting⟩
      cases waiting
    · rintro ⟨positive, latest, -⟩
      rw [latest] at positive
      exact absurd positive (Nat.lt_irrefl _)
  | @deed d timer past s history before ih =>
    show (∃ filters, d.after.outstanding = some (ticket, filters)) ↔ _
    rw [← before] at ih
    rw [Deed.after, Deed.outcome]
    cases cause : d.cause with
    | timer =>
      rw [awaited_cons_firing cause, ← history.lastTicket_eq, ← before, Cause.apply,
        Synchronizer.fire_eq]
      simp [eq_comm]
    | action a =>
      rw [awaited_cons_action cause, Deed.completes, cause, Cause.apply]
      cases a.effect d.before with
      | nothing edit h =>
        rw [h, Synchronizer.unchanged, ih]
        refine ⟨fun awaited => ⟨awaited, ?_⟩, And.left⟩
        cases a with
        | complete reported result =>
          -- the report would have counted
          refine decide_eq_false (fun same => ?_)
          obtain ⟨filters, waiting⟩ := ih.mpr awaited
          rw [← same] at waiting
          rw [Action.apply, Synchronizer.complete_awaited waiting] at h
          cases congrArg Transition.calls h
        | _ => rfl
      | reads query edit ha first h => rw [h, Synchronizer.hydrate_eq first, ih, ha]; simp
      | types text edit ha hydrated h => rw [h, ih, ha]; simp
      | selects next edit ha changes h =>
        rw [h, Synchronizer.select_eq changes, ih]
        cases a with
        | toggleTag tag => simp
        | toggleType type => simp
        | _ => cases ha
      | resolves reported result filters edit ha waiting h =>
        rw [h, ha]
        constructor
        · rintro ⟨filters, none⟩
          cases none
        · rintro ⟨awaited, other⟩
          obtain ⟨filters', waiting'⟩ := ih.mpr awaited
          rw [waiting] at waiting'
          cases waiting'
          simp at other
      | suggests tags edit ha h => rw [h, ih, ha]; simp

end History

end ResourceCatalog.Sync
