/-
  ResourceCatalog/Proofs/Sync/EmptyResults.lean
  =============================================
  **An empty listing is shown as what had been asked for.**

  The summary of an empty listing is put together when the listing comes in, from the
  filters that were kept with the ticket when it was issued.  The request with that
  ticket was made for the same filters, whatever became of the live ones since.

  The host may come back into the synchronizer from any call.  It may even report a
  listing before it has been handed the request, by guessing the ticket; the request
  is then still to be made, and is made when the calls that are due are.  So what is
  promised is said of the calls that a report leads to, told apart from all others by
  the book of the run, and of requests that were made or are due.
-/
import ResourceCatalog.Proofs.Sync.Attribution
import ResourceCatalog.Proofs.Sync.Rest

namespace ResourceCatalog.Sync

variable {σ : Type}

/-! ### Reports of empty listings -/

namespace Deed

variable {d : Deed} {past : List Deed} {ticket : Ticket}

/-- The deed is a report of an empty listing, under the ticket that is waited for after what had
    been done before. -/
def ReportsEmpty (d : Deed) (past : List Deed) (ticket : Ticket) : Prop :=
  d.cause = .action (.complete ticket (.ok [])) ∧ Awaited past ticket

/-- Three calls are made for an empty listing that was waited for. -/
theorem sent_of_reportsEmpty (history : History past d.before) (empty : d.ReportsEmpty past ticket) :
    ∃ filters, d.before.outstanding = some (ticket, filters) ∧
      d.sent = [.setLoading false, .setResources [], .showEmptyResult filters.emptySummary] := by
  obtain ⟨cause, awaited⟩ := empty
  obtain ⟨filters, waiting⟩ := (history.outstanding_iff ticket).mpr awaited
  refine ⟨filters, waiting, ?_⟩
  have outcome : d.outcome = d.before.complete ticket (.ok []) := by
    rw [Deed.outcome, cause, Cause.apply, Action.apply]
  rw [Synchronizer.complete_awaited waiting] at outcome
  rw [sent_of_restart_none (by rw [outcome]), outcome]
  rfl

/-- An empty result is shown for an empty listing that was waited for, and for nothing else. -/
theorem reportsEmpty_of_mem_sent (history : History past d.before) {summary : EmptySummary}
    (shown : .showEmptyResult summary ∈ d.sent) : ∃ ticket, d.ReportsEmpty past ticket := by
  cases d.bearing with
  | asks written aside sent =>
    rw [sent] at shown
    rcases List.mem_append.mp shown with early | request
    · rcases List.mem_append.mp early with writes | loads
      · cases aside _ writes
      · split at loads
        · cases loads
        · cases List.mem_singleton.mp loads
    · cases List.mem_singleton.mp request
  | aside sent => cases sent _ shown
  | resolves ticket filters result waiting sent _ _ applied =>
    rw [sent] at shown
    rcases result with detail | _ | ⟨row, rows⟩
    · simp [Synchronizer.outcomeCalls] at shown
    · have awaited := (history.outstanding_iff ticket).mp ⟨filters, waiting⟩
      exact ⟨ticket, (applied?_eq_some_iff.mp applied).1, awaited⟩
    · simp [Synchronizer.outcomeCalls] at shown

end Deed

/-! ### Calls of a run and calls for its deeds -/

theorem mem_callsOf {past : List Deed} {c : Call} : c ∈ callsOf past ↔ ∃ d ∈ past, c ∈ d.sent := by
  induction past with
  | nil => simp [callsOf]
  | cons d past ih => simp [callsOf, ih, or_comm]

/-- What was called for the deeds of a run was made or is due. -/
theorem Run.mem_callsOf_trail {h : Host σ} {host : σ} {ops : List Op} {n : Nat} {c : Call} :
    c ∈ callsOf ((start host ops).trail h n) ↔
      c ∈ ((start host ops).runFor h n).calls ++
        ((start host ops).runFor h n).pendingCalls.flatten := by
  have a := attributed h host ops n
  rw [← a.calls, ← a.pending, mem_callsOf]
  simp only [List.mem_append, List.mem_flatten, List.mem_map]
  constructor
  · rintro ⟨d, hd, sent⟩
    obtain ⟨m, hm, deed⟩ := mem_trail_iff.mp hd
    rw [← a.account m hm d deed, Book.mem_account] at sent
    rcases sent with made | ⟨cs, due, hc⟩
    · exact Or.inl ⟨_, made, rfl⟩
    · exact Or.inr ⟨cs, ⟨_, due, rfl⟩, hc⟩
  · rintro (⟨⟨m, c⟩, made, rfl⟩ | ⟨cs, ⟨⟨m, cs⟩, due, rfl⟩, hc⟩)
    · obtain ⟨hm, d, deed⟩ := a.madeBefore _ made
      refine ⟨d, mem_trail_iff.mpr ⟨m, hm, deed⟩, ?_⟩
      rw [← a.account m hm d deed]
      exact Book.mem_account.mpr (Or.inl made)
    · obtain ⟨hm, d, deed⟩ := a.dueBefore _ due
      refine ⟨d, mem_trail_iff.mpr ⟨m, hm, deed⟩, ?_⟩
      rw [← a.account m hm d deed]
      exact Book.mem_account.mpr (Or.inr ⟨cs, due, hc⟩)

theorem Run.trail_subset (h : Host σ) (r : Run σ) {m n : Nat} (hmn : m ≤ n) :
    r.trail h m ⊆ r.trail h n := by
  intro d hd
  obtain ⟨k, hk, deed⟩ := mem_trail_iff.mp hd
  exact mem_trail_iff.mpr ⟨k, Nat.lt_of_lt_of_le hk hmn, deed⟩

/-! ### What is shown -/

/-- What is shown of empty listings in some steps of a run.  The book of the run has its calls, in
    order, and the calls that are `due`.  For an empty listing that was waited for, a request with
    its ticket was made or is due, no other request has that ticket, and the empty result is
    `shown` once, behind the empty rows, as the one for the tags and kinds of that request.  An
    empty result is shown for that `only`.  When nothing is due any more, `atRest`, the request
    has been made and the empty result shown. -/
structure EmptyResults (h : Host σ) (r : Run σ) (n : Nat) : Prop where
  calls : (r.book h n).made.map Prod.snd = (r.runFor h n).calls
  due : (r.book h n).due.map Prod.snd = (r.runFor h n).pendingCalls
  shown : ∀ m < n, ∀ d ticket, (r.runFor h m).deed? = some d → d.ReportsEmpty (r.trail h m) ticket →
    ∃ request,
      .requestResources ticket request ∈ (r.runFor h n).calls ++ (r.runFor h n).pendingCalls.flatten ∧
      (∀ other, .requestResources ticket other ∈ (r.runFor h n).calls → other = request) ∧
      (r.book h n).account m =
        [.setLoading false, .setResources [], .showEmptyResult ⟨request.tags, request.types⟩]
  only : ∀ m summary, (m, .showEmptyResult summary) ∈ (r.book h n).made →
    m < n ∧ ∃ d ticket, (r.runFor h m).deed? = some d ∧ d.ReportsEmpty (r.trail h m) ticket
  atRest : (r.runFor h n).pendingCalls = [] →
    ∀ m < n, ∀ d ticket, (r.runFor h m).deed? = some d → d.ReportsEmpty (r.trail h m) ticket →
    ∃ request,
      .requestResources ticket request ∈ (r.runFor h n).calls ∧
      (∀ other, .requestResources ticket other ∈ (r.runFor h n).calls → other = request) ∧
      labelled m (r.book h n).made =
        [.setLoading false, .setResources [], .showEmptyResult ⟨request.tags, request.types⟩]

/-- What a run has done to its synchronizer, told before one of its deeds. -/
theorem history_before (h : Host σ) (host : σ) (ops : List Op) {m : Nat} {d : Deed}
    (deed : ((Run.start host ops).runFor h m).deed? = some d) :
    History ((Run.start host ops).trail h m) d.before := by
  rw [(Run.deed?_before deed).1]
  exact History.of_run h host ops m

/-- An empty listing that was waited for has one request. -/
theorem request_of_reportsEmpty (h : Host σ) (host : σ) (ops : List Op) {m n : Nat} (hmn : m < n)
    {d : Deed} {ticket : Ticket} (deed : ((Run.start host ops).runFor h m).deed? = some d)
    (empty : d.ReportsEmpty ((Run.start host ops).trail h m) ticket) :
    ∃ request,
      .requestResources ticket request ∈ callsOf ((Run.start host ops).trail h n) ∧
      (∀ other, .requestResources ticket other ∈ callsOf ((Run.start host ops).trail h n) →
        other = request) ∧
      d.sent =
        [.setLoading false, .setResources [], .showEmptyResult ⟨request.tags, request.types⟩] := by
  have history := history_before h host ops deed
  obtain ⟨filters, waiting, sent⟩ := Deed.sent_of_reportsEmpty history empty
  -- the filters that were kept with the ticket are those of the request
  have asked := (history.accounts.awaited ticket filters waiting).1
  obtain ⟨asking, hasking, called⟩ := mem_callsOf.mp asked
  have later : .requestResources ticket filters.listRequest ∈
      callsOf ((Run.start host ops).trail h n) :=
    mem_callsOf.mpr ⟨asking, Run.trail_subset h _ (Nat.le_of_lt hmn) hasking, called⟩
  refine ⟨filters.listRequest, later, fun other hother => ?_, ?_⟩
  · exact (History.of_run h host ops n).accounts.request_unique hother later
  · rw [sent, ← FilterState.emptySummary_listRequest, ListRequest.emptySummary]

/-- **Empty results name their own request**, whatever the host does when it is called. -/
theorem empty_results_named (h : Host σ) (host : σ) (ops : List Op) (n : Nat) :
    EmptyResults h (Run.start host ops) n := by
  have a := Run.attributed h host ops n
  have shown : ∀ m < n, ∀ d ticket, ((Run.start host ops).runFor h m).deed? = some d →
      d.ReportsEmpty ((Run.start host ops).trail h m) ticket → ∃ request,
        .requestResources ticket request ∈ ((Run.start host ops).runFor h n).calls ++
          ((Run.start host ops).runFor h n).pendingCalls.flatten ∧
        (∀ other, .requestResources ticket other ∈ ((Run.start host ops).runFor h n).calls →
          other = request) ∧
        ((Run.start host ops).book h n).account m =
          [.setLoading false, .setResources [], .showEmptyResult ⟨request.tags, request.types⟩] := by
    intro m hm d ticket deed empty
    obtain ⟨request, asked, one, sent⟩ := request_of_reportsEmpty h host ops hm deed empty
    refine ⟨request, Run.mem_callsOf_trail.mp asked, fun other hother => ?_, ?_⟩
    · exact one other (Run.mem_callsOf_trail.mpr (List.mem_append_left _ hother))
    · rw [a.account m hm d deed, sent]
  refine ⟨a.calls, a.pending, shown, ?_, ?_⟩
  · intro m summary made
    obtain ⟨hm, d, deed⟩ := a.madeBefore _ made
    have sent : .showEmptyResult summary ∈ d.sent := by
      rw [← a.account m hm d deed]
      exact Book.mem_account.mpr (Or.inl made)
    obtain ⟨ticket, empty⟩ := Deed.reportsEmpty_of_mem_sent (history_before h host ops deed) sent
    exact ⟨hm, d, ticket, deed, empty⟩
  · intro rest m hm d ticket deed empty
    obtain ⟨request, asked, one, account⟩ := shown m hm d ticket deed empty
    have nothingDue : ((Run.start host ops).book h n).due = [] :=
      List.map_eq_nil_iff.mp (a.pending.trans rest)
    rw [rest, List.flatten_nil, List.append_nil] at asked
    rw [Book.account, nothingDue] at account
    exact ⟨request, asked, one, by simpa using account⟩

/-- A host that, given rows, selects a tag and lets the quiet period after that end. -/
def selectsAtRows : List Reaction :=
  [{ on := .resources, ops := [.act none (.toggleTag "c"), .advance selectionDelay] }]

/-- A listing turns out to be empty when a tag and a text have been added to the filters. -/
def emptyAfterEdits : List Op :=
  [.act none (.hydrate "?tags=a"), .advance selectionDelay, .act none (.toggleTag "b"),
    .act none (.setSearchText "x"), .act none (.complete 1 (.ok []))]

/-- The empty result is for the first request, also when another one has been made before it is
    shown. -/
theorem empty_results_named_edited :
    ((Run.start selectsAtRows emptyAfterEdits).runFor .scripted 18).sync.filters =
        ⟨"x", .ofList ["a", "b"], .empty⟩ ∧
      requestsIn ((Run.start selectsAtRows emptyAfterEdits).runFor .scripted 41).calls =
        [⟨[], ["a"], "", 0, 100⟩, ⟨[], ["a", "b", "c"], "x", 0, 100⟩] ∧
      ∃ d, ((Run.start selectsAtRows emptyAfterEdits).runFor .scripted 18).deed? = some d ∧
        d.ReportsEmpty ((Run.start selectsAtRows emptyAfterEdits).trail .scripted 18) 1 ∧
        labelled 18 ((Run.start selectsAtRows emptyAfterEdits).book .scripted 41).made =
          [.setLoading false, .setResources [], .showEmptyResult ⟨["a"], []⟩] := by
  have reported : ((Run.start selectsAtRows emptyAfterEdits).runFor .scripted 18).report? =
      some (1, .ok []) := by decide +kernel
  have history := History.of_run .scripted selectsAtRows emptyAfterEdits 18
  obtain ⟨d, deed, empty⟩ := (Run.report?_eq_some_iff history.outstanding_iff).mp reported
  obtain ⟨request, -, one, account⟩ :=
    (empty_results_named .scripted selectsAtRows emptyAfterEdits 41).atRest (by decide +kernel)
      18 (by decide) d 1 deed empty
  have first : request = ⟨[], ["a"], "", 0, 100⟩ := (one _ (by decide +kernel)).symm
  refine ⟨by decide +kernel, by decide +kernel, d, deed, empty, ?_⟩
  rw [account, first]

end ResourceCatalog.Sync
