/-
  ResourceCatalog/Session/Settled.lean
  ====================================
  **After an operation no call waits for the page.**

  A session settles in two rounds.  The first empties the channel of the page;
  what may come into it meanwhile are the calls for errands that failed at once.
  These are quiet: the page acts on them by itself and asks for nothing.  So the
  second round empties the channel for good (`settle_drained`).
-/
import ResourceCatalog.Session.Session

namespace ResourceCatalog

/-! ### Quiet calls -/

/-- A call on which the page acts by itself. -/
def Sync.Call.isQuiet : Sync.Call → Bool
  | .replaceQuery _ => false
  | .requestResources _ _ => false
  | .requestTags => false
  | _ => true

/-- What comes into a channel was in it or was sent. -/
theorem Sync.Channel.mem_queue_sendAll {x : Sync.Call} {calls : List Sync.Call}
    {c : Sync.Channel} (h : x ∈ (c.sendAll calls).queue) : x ∈ c.queue ∨ x ∈ calls := by
  induction calls generalizing c with
  | nil => exact Or.inl h
  | cons call calls ih =>
    rcases ih (c := c.send call) h with h | h
    · rw [Sync.Channel.send] at h
      split at h
      · rcases List.mem_append.mp h with h | h
        · exact Or.inl h
        · exact Or.inr (List.mem_cons.mpr (Or.inl (List.mem_singleton.mp h)))
      · exact Or.inl h
    · exact Or.inr (List.mem_cons_of_mem _ h)

namespace ListingPage

/-- No call in the channel asks for anything. -/
def Quiet (p : ListingPage) : Prop := ∀ c ∈ p.channel.queue, c.isQuiet = true

theorem channel_handle (call : Sync.Call) (p : ListingPage) :
    (handle call p).1.channel = p.channel := by
  cases call <;> rfl

theorem handle_of_isQuiet {call : Sync.Call} (h : call.isQuiet = true) (p : ListingPage) :
    (handle call p).2 = none := by
  cases call <;> simp_all [handle, Sync.Call.isQuiet]

theorem receive_of_queue {p : ListingPage} {call : Sync.Call} {rest : List Sync.Call}
    (h : p.channel.queue = call :: rest) :
    p.receive = handle call { p with channel := { p.channel with queue := rest } } := by
  rw [receive, Sync.Channel.receive?, h]

/-- Acting on all calls empties the channel. -/
theorem queue_drain (p : ListingPage) : p.drain.1.channel.queue = [] := by
  rw [drain]
  generalize hq : p.channel.queue = queue
  induction queue generalizing p with
  | nil => exact hq
  | cons call rest ih =>
    rw [List.length_cons, receiveMany, receive_of_queue hq]
    exact ih _ (congrArg Sync.Channel.queue (channel_handle call _))

/-- Quiet calls lead to no demand. -/
theorem drain_of_quiet {p : ListingPage} (h : p.Quiet) : p.drain.2 = [] := by
  rw [drain]
  generalize hq : p.channel.queue = queue
  induction queue generalizing p with
  | nil => rfl
  | cons call rest ih =>
    have quiet : call.isQuiet = true := h call (hq ▸ List.mem_cons_self)
    have later : ∀ c ∈ rest, c.isQuiet = true := fun c hc =>
      h c (hq ▸ List.mem_cons_of_mem _ hc)
    rw [List.length_cons, receiveMany, receive_of_queue hq]
    have empty := ih (p := (handle call { p with channel := { p.channel with queue := rest } }).1)
      (by rw [Quiet, channel_handle]; exact later)
      (congrArg Sync.Channel.queue (channel_handle call _))
    simp only [handle_of_isQuiet quiet, Option.toList_none, List.nil_append]
    exact empty

/-- The failure of a listing leaves quiet calls behind. -/
theorem quiet_listingArrived {p : ListingPage} (h : p.Quiet) (ticket : Sync.Ticket)
    (detail : String) : (p.listingArrived ticket (.error detail)).Quiet := by
  have calls : ∀ c ∈ (p.sync.complete ticket (.error detail)).calls, c.isQuiet = true := by
    intro c hc
    rw [Sync.Synchronizer.complete] at hc
    split at hc
    · split at hc
      · simp only [Sync.Synchronizer.outcomeCalls, List.mem_cons, List.not_mem_nil,
          or_false] at hc
        rcases hc with rfl | rfl <;> rfl
      · exact absurd hc List.not_mem_nil
    · exact absurd hc List.not_mem_nil
  have noRestart : (p.sync.complete ticket (.error detail)).restart = none := by
    rw [Sync.Synchronizer.complete]
    split
    · split <;> rfl
    · rfl
  intro c hc
  rw [listingArrived, act, Sync.Transition.carryOut, noRestart] at hc
  rcases Sync.Channel.mem_queue_sendAll hc with hc | hc
  · exact h c hc
  · exact calls c hc

/-- The failure of a request for the tags leaves nothing behind. -/
theorem quiet_tagsArrived {p : ListingPage} (h : p.Quiet) (detail : String) :
    (p.tagsArrived (.error detail)).Quiet := by
  intro c hc
  rcases Sync.Channel.mem_queue_sendAll hc with hc | hc
  · exact h c hc
  · exact absurd hc List.not_mem_nil

end ListingPage

/-! ### Errands that fail at once -/

/-- An outcome that is a failure. -/
def Outcome.IsFailure : Outcome → Prop
  | .listing _ result => ∃ detail, result = .error detail
  | .tags result => ∃ detail, result = .error detail
  | .chat result => ∃ detail, result = .error detail

/-- An errand for which nothing goes out fails, whatever is said to it. -/
theorem Errand.outcome_of_request_error {config : Config} {errand : Errand}
    {cause : Service.Failure} (h : errand.request config = .error cause) (reply : Http.Reply) :
    (errand.outcome config reply).IsFailure := by
  cases errand with
  | listing ticket request =>
    rw [Errand.request] at h
    exact ⟨cause.message, by rw [Service.Call.outcome, h]; rfl⟩
  | tags =>
    rw [Errand.request] at h
    exact ⟨cause.message, by rw [Service.Call.outcome, h]; rfl⟩
  | chat message =>
    rw [Errand.request] at h
    exact ⟨cause.message, by rw [Service.Call.outcome, h]; rfl⟩

namespace Screen

/-- No call that waits for the page asks for anything. -/
def Quiet : Screen → Prop
  | listing page => page.Quiet
  | _ => True

/-- No call waits for the page. -/
def Drained : Screen → Prop
  | listing page => page.channel.queue = []
  | _ => True

theorem Drained.quiet {s : Screen} (h : s.Drained) : s.Quiet := by
  cases s with
  | listing page => exact fun c hc => absurd (h ▸ hc) List.not_mem_nil
  | chat _ => trivial
  | lost _ => trivial

theorem drained_drain (s : Screen) : s.drain.1.Drained := by
  cases s with
  | listing page => exact page.queue_drain
  | chat _ => trivial
  | lost _ => trivial

theorem drain_of_quiet {s : Screen} (h : s.Quiet) : s.drain.2 = [] := by
  cases s with
  | listing page => exact ListingPage.drain_of_quiet h
  | chat _ => rfl
  | lost _ => rfl

theorem quiet_deliver {s : Screen} (h : s.Quiet) {outcome : Outcome} (failed : outcome.IsFailure) :
    (s.deliver outcome).Quiet := by
  cases s with
  | chat _ => trivial
  | lost _ => trivial
  | listing page =>
    cases outcome with
    | chat _ => exact h
    | listing ticket result =>
      obtain ⟨detail, rfl⟩ := failed
      exact ListingPage.quiet_listingArrived h ticket detail
    | tags result =>
      obtain ⟨detail, rfl⟩ := failed
      exact ListingPage.quiet_tagsArrived h detail

end Screen

/-! ### Rounds -/

namespace Session

theorem quiet_attend {s : Session} (h : s.screen.Quiet) (demand : Demand) :
    (s.attend demand).screen.Quiet := by
  cases demand with
  | replaceQuery query => exact h
  | run errand =>
    cases hr : errand.request s.config with
    | ok request =>
      simp only [attend, hr]
      exact h
    | error cause =>
      simp only [attend, hr]
      exact Screen.quiet_deliver h (Errand.outcome_of_request_error hr .closed)

theorem quiet_foldl_attend (demands : List Demand) {s : Session} (h : s.screen.Quiet) :
    (demands.foldl attend s).screen.Quiet := by
  induction demands generalizing s with
  | nil => exact h
  | cons demand demands ih => exact ih (quiet_attend h demand)

/-- A round leaves quiet calls at most. -/
theorem quiet_round (s : Session) : s.round.screen.Quiet :=
  quiet_foldl_attend s.screen.drain.2 (s.screen.drained_drain).quiet

/-- A round that starts with quiet calls leaves none. -/
theorem round_drained {s : Session} (h : s.screen.Quiet) : s.round.screen.Drained := by
  show (s.screen.drain.2.foldl attend { s with screen := s.screen.drain.1 }).screen.Drained
  rw [Screen.drain_of_quiet h]
  exact s.screen.drained_drain

/-- A session that has settled has acted on every call. -/
theorem settle_drained (s : Session) : s.settle.screen.Drained := round_drained s.quiet_round

end Session

end ResourceCatalog
