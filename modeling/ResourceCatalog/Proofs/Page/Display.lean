/-
  ResourceCatalog/Proofs/Page/Display.lean
  ========================================
  **The page shows what the synchronizer knows.**

  What the synchronizer says reaches the page through a channel only, one call at a
  time, while edits, timeouts and replies go on.  The calls that the page has acted on
  and those still in its channel are together the calls that were made, in order
  (`shown_visit`).  The page keeps the last word on each matter; so when no call is
  left in the channel it shows what the synchronizer knows.
-/
import ResourceCatalog.Proofs.Page.Visit

namespace ResourceCatalog

open Sync (Call callsOf History lastSaid Latest noticesIn Presents Synchronizer)

/-- Toasts for some notices, numbered in their order. -/
def numbered (notices : List Notice) : List Toast := notices.mapIdx Toast.mk

theorem numbered_concat (notices : List Notice) (notice : Notice) :
    numbered (notices ++ [notice]) = numbered notices ++ [⟨notices.length, notice⟩] :=
  List.mapIdx_concat

theorem ids_numbered (notices : List Notice) :
    (numbered notices).map Toast.id = List.range notices.length := by
  apply List.ext_getElem
  · simp [numbered]
  · intro i hi hi'
    simp [numbered]

namespace ListingPage

variable {p p' : ListingPage} {handled : List Call} {dismissed : List Nat}

theorem sync_handle (call : Call) (p : ListingPage) : (handle call p).1.sync = p.sync := by
  cases call <;> rfl

/-- The deeds of a visit are a history of the synchronizer. -/
theorem history_visit (query : String) (steps : List Step) :
    History (deeds query steps) (visit query steps).sync := by
  induction steps with
  | nil =>
    obtain ⟨timer, sync⟩ := (acts_load query).sync
    rw [deeds, visit, sync]
    exact .deed _ timer .start rfl
  | cons s earlier ih =>
    have isOpen := isOpen_visit query earlier
    rw [deeds, visit]
    generalize visit query earlier = p at ih isOpen ⊢
    cases step_move s isOpen with
    | act d deed keeps acts =>
      obtain ⟨timer, sync⟩ := acts.sync
      rw [deed, sync]
      exact .deed d timer ih acts.before
    | receive call rest deed keeps queue after =>
      rw [deed, after, sync_handle]
      exact ih
    | dismiss toast deed dismisses after =>
      rw [deed, after]
      exact ih
    | still deed keeps after =>
      rw [deed, after]
      exact ih

/-! ### What the page has acted on -/

/-- What is on display comes from the calls that the page has acted on, and from the toasts that
    were dismissed.  Only toasts that have been on display were. -/
structure Shown (handled : List Call) (dismissed : List Nat) (p : ListingPage) : Prop where
  loading : p.loading = lastSaid Call.loading? false handled
  rows : p.rows = lastSaid Call.rows? [] handled
  summary : p.summary = lastSaid Call.summary? none handled
  nextToast : p.nextToast = (noticesIn handled).length
  toasts : p.toasts = (numbered (noticesIn handled)).filter (fun t => t.id ∉ dismissed)
  before : ∀ id ∈ dismissed, id < p.nextToast

theorem Shown.start : Shown [] [] {} where
  loading := rfl
  rows := rfl
  summary := rfl
  nextToast := rfl
  toasts := rfl
  before := by
    intro id hid
    cases hid

theorem noticesIn_concat (handled : List Call) (call : Call) :
    noticesIn (handled ++ [call]) = noticesIn handled ++ call.notice?.toList := by
  unfold noticesIn
  rw [List.filterMap_append]
  cases call <;> rfl

theorem Shown.toasts_handle (shown : Shown handled dismissed p) (call : Call) :
    (ListingPage.handle call p).1.toasts =
      (numbered (noticesIn (handled ++ [call]))).filter (fun t => t.id ∉ dismissed) := by
  rw [noticesIn_concat]
  cases notice : call.notice? with
  | none =>
    have same : (ListingPage.handle call p).1.toasts = p.toasts := by
      cases call <;> first | rfl | cases notice
    rw [Option.toList_none, List.append_nil, same, shown.toasts]
  | some notice' =>
    -- the number of the new toast has not been dismissed, for it was on display never before
    have fresh : p.nextToast ∉ dismissed := fun old => Nat.lt_irrefl _ (shown.before _ old)
    have added : (ListingPage.handle call p).1.toasts = p.toasts ++ [⟨p.nextToast, notice'⟩] := by
      cases call <;> first | cases notice; done | (cases notice; rfl)
    rw [Option.toList_some, numbered_concat, List.filter_append, ← shown.toasts, ← shown.nextToast,
      added]
    simp [fresh]

/-- Acting on a call puts its word on display. -/
theorem Shown.handle (shown : Shown handled dismissed p) (call : Call) :
    Shown (handled ++ [call]) dismissed (handle call p).1 := by
  constructor
  · rw [Sync.lastSaid_append, ← shown.loading]
    cases call <;> rfl
  · rw [Sync.lastSaid_append, ← shown.rows]
    cases call <;> rfl
  · rw [Sync.lastSaid_append, ← shown.summary]
    cases call <;> rfl
  · rw [noticesIn_concat, List.length_append, ← shown.nextToast]
    cases call <;> rfl
  · exact shown.toasts_handle call
  · intro id hid
    have later : p.nextToast ≤ (ListingPage.handle call p).1.nextToast := by
      cases call <;> simp [ListingPage.handle]
    exact Nat.lt_of_lt_of_le (shown.before id hid) later

theorem Shown.acts (shown : Shown handled dismissed p) {d : Sync.Deed} (acts : Acts d p p') :
    Shown handled dismissed p' where
  loading := by rw [acts.loading, shown.loading]
  rows := by rw [acts.rows, shown.rows]
  summary := by rw [acts.summary, shown.summary]
  nextToast := by rw [acts.nextToast, shown.nextToast]
  toasts := by rw [acts.toasts, shown.toasts]
  before := by
    rw [acts.nextToast]
    exact shown.before

/-- A toast that is on display is gone when it has been dismissed. -/
theorem Shown.dismiss_toast (shown : Shown handled dismissed p) {toast : Nat}
    (displayed : toast ∈ p.toasts.map Toast.id) :
    Shown handled (toast :: dismissed) (p.dismiss toast) where
  loading := shown.loading
  rows := shown.rows
  summary := shown.summary
  nextToast := shown.nextToast
  toasts := by
    rw [dismiss, shown.toasts, List.filter_filter]
    refine List.filter_congr ?_
    intro t ht
    simp [not_or]
  before := by
    intro id hid
    rcases List.mem_cons.mp hid with rfl | old
    · rw [shown.toasts] at displayed
      obtain ⟨t, ht, rfl⟩ := List.mem_map.mp displayed
      have number := List.mem_map_of_mem (f := Toast.id) (List.mem_filter.mp ht).1
      rw [ids_numbered, List.mem_range, ← shown.nextToast] at number
      exact number
    · exact shown.before id old

theorem dismiss_of_not_displayed {toast : Nat} (absent : toast ∉ p.toasts.map Toast.id) :
    p.dismiss toast = p := by
  have same : p.toasts.filter (fun t => t.id ≠ toast) = p.toasts := by
    refine List.filter_eq_self.mpr ?_
    intro t ht
    simp only [ne_eq, decide_not, Bool.not_eq_eq_eq_not, Bool.not_true, decide_eq_false_iff_not]
    rintro rfl
    exact absent (List.mem_map_of_mem ht)
  rw [dismiss, same]

/-- The numbers of the toasts that were dismissed while they were on display. -/
def dismissedOn (query : String) : List Step → List Nat
  | [] => []
  | s :: earlier =>
    match s.dismissed? with
    | some toast =>
      if toast ∈ (visit query earlier).toasts.map Toast.id then toast :: dismissedOn query earlier
      else dismissedOn query earlier
    | none => dismissedOn query earlier

/-- **The page has acted on the calls that were made, in order**, but for those still in its
    channel. -/
theorem shown_visit (query : String) (steps : List Step) :
    ∃ handled, handled ++ (visit query steps).channel.queue = callsOf (deeds query steps) ∧
      Shown handled (dismissedOn query steps) (visit query steps) := by
  induction steps with
  | nil =>
    have acts := acts_load query
    refine ⟨[], ?_, Shown.start.acts acts⟩
    rw [visit, acts.channel, deeds, callsOf, callsOf]
    generalize Sync.Deed.sent _ = sent
    rfl
  | cons s earlier ih =>
    have isOpen := isOpen_visit query earlier
    obtain ⟨handled, due, shown⟩ := ih
    rw [deeds, visit, dismissedOn]
    generalize visit query earlier = p at due shown isOpen ⊢
    cases step_move s isOpen with
    | act d deed keeps acts =>
      refine ⟨handled, ?_, ?_⟩
      · rw [deed, acts.channel, ← List.append_assoc, due]
        rfl
      · rw [keeps]
        exact shown.acts acts
    | receive call rest deed keeps queue after =>
      rw [deed, after, keeps]
      refine ⟨handled ++ [call], ?_, ?_⟩
      · rw [channel_handle, ← List.append_cons, ← queue]
        exact due
      · exact Shown.handle (p := { p with channel := { p.channel with queue := rest } })
          ⟨shown.1, shown.2, shown.3, shown.4, shown.5, shown.6⟩ call
    | dismiss toast deed dismisses after =>
      rw [deed, after, dismisses]
      refine ⟨handled, due, ?_⟩
      by_cases displayed : toast ∈ p.toasts.map Toast.id
      · simp only [if_pos displayed]
        exact shown.dismiss_toast displayed
      · simp only [if_neg displayed, dismiss_of_not_displayed displayed]
        exact shown
    | still deed keeps after =>
      rw [deed, after, keeps]
      exact ⟨handled, due, shown⟩

end ListingPage

/-! ### Filters and search box -/

namespace Sync.Synchronizer

theorem view_setSearchText {s : Synchronizer} (hydrated : s.hydrated = true) (text : String) :
    (s.setSearchText text).after.hydrated = true ∧
      (s.setSearchText text).after.filters.searchText = text := by
  unfold setSearchText
  by_cases same : s.filters.searchText = text
  · rw [if_pos (Or.inr same)]
    exact ⟨hydrated, same⟩
  · rw [if_neg (by simp [hydrated, same])]
    exact ⟨hydrated, rfl⟩

theorem view_select {s : Synchronizer} (hydrated : s.hydrated = true) (next : FilterState)
    (sameText : next.searchText = s.filters.searchText) :
    (s.select next).after.hydrated = true ∧
      (s.select next).after.filters.searchText = s.filters.searchText := by
  by_cases changes : s.hydrated = true ∧ next ≠ s.filters
  · rw [select_eq changes]
    exact ⟨hydrated, sameText⟩
  · rw [select_unchanged changes]
    exact ⟨hydrated, rfl⟩

end Sync.Synchronizer

namespace ListingPage

/-- The filters and the text in the search box are those of the synchronizer. -/
structure InView (p : ListingPage) : Prop where
  hydrated : p.sync.hydrated = true
  filters : p.filters = p.sync.filters
  searchInput : p.searchInput = p.sync.filters.searchText

variable {t : Synchronizer → Sync.Transition} {p : ListingPage}

theorem sync_act (t : Synchronizer → Sync.Transition) (p : ListingPage) :
    ∃ timer, (p.act t).sync = { (t p.sync).after with timer := timer } := by
  unfold act Sync.Transition.carryOut
  cases (t p.sync).restart with
  | none => exact ⟨(t p.sync).after.timer, rfl⟩
  | some delay =>
    simp only
    split
    · exact ⟨_, rfl⟩
    · exact ⟨none, rfl⟩

/-- An edit is followed by a look at the filters. -/
theorem inView_edit (hydrated : (t p.sync).after.hydrated = true)
    (text : p.searchInput = (t p.sync).after.filters.searchText) : InView (p.act t).showFilters := by
  obtain ⟨timer, sync⟩ := sync_act t p
  constructor
  · exact (congrArg Synchronizer.hydrated sync).trans hydrated
  · rfl
  · exact text.trans (congrArg (fun s => s.filters.searchText) sync).symm

/-- What does not change the filters leaves the view as it is. -/
theorem InView.keep (view : InView p) (hydrated : (t p.sync).after.hydrated = p.sync.hydrated)
    (filters : (t p.sync).after.filters = p.sync.filters) : InView (p.act t) := by
  obtain ⟨timer, sync⟩ := sync_act t p
  have same : (p.act t).sync.filters = p.sync.filters :=
    (congrArg Synchronizer.filters sync).trans filters
  constructor
  · exact (congrArg Synchronizer.hydrated sync).trans (hydrated.trans view.hydrated)
  · rw [same]
    exact view.filters
  · rw [same]
    exact view.searchInput

/-- Reports of outcomes do not change the filters. -/
theorem InView.report (view : InView p) {a : Sync.Action} (does : ∀ s, t s = a.apply s)
    (report : a.isEffective p.sync = false) : InView (p.act t) := by
  obtain ⟨⟨outstanding, after⟩, -⟩ := Sync.Action.apply_of_not_effective report
  have same : (t p.sync).after = { p.sync with outstanding := outstanding } := by
    rw [does, after]
  refine view.keep ?_ ?_
  · rw [same]
  · rw [same]

theorem InView.timeout (view : InView p) (target : Nat) :
    InView ((p.runTimeout? target).getD p) := by
  have kept : p.sync.fire.after.hydrated = p.sync.hydrated ∧
      p.sync.fire.after.filters = p.sync.filters := by
    rw [Synchronizer.fire_eq]
    exact ⟨rfl, rfl⟩
  unfold runTimeout?
  cases p.clock.popDue target with
  | none => exact view
  | some due =>
    obtain ⟨w, clock⟩ := due
    generalize Synchronizer.fire = fire at kept ⊢
    have fired : InView (act fire { p with clock := clock }) :=
      InView.keep (p := { p with clock := clock }) ⟨view.hydrated, view.filters, view.searchInput⟩
        kept.1 kept.2
    exact ⟨fired.hydrated, fired.filters, fired.searchInput⟩

theorem InView.receive (view : InView p) : InView p.receive.1 := by
  unfold ListingPage.receive
  cases p.channel.receive? with
  | none => exact view
  | some taken =>
    obtain ⟨call, channel⟩ := taken
    cases call <;> exact ⟨view.hydrated, view.filters, view.searchInput⟩

theorem inView_load (query : String) : InView (load query) := by
  have fresh : ({} : ListingPage).sync.hydrated = false := rfl
  unfold load
  generalize ({} : ListingPage) = p at fresh ⊢
  obtain ⟨timer, sync⟩ := sync_act (·.hydrate query) p
  constructor
  · refine (congrArg Synchronizer.hydrated sync).trans ?_
    rw [Synchronizer.hydrate_eq fresh]
  · rfl
  · rfl

theorem inView_visit (query : String) (steps : List Step) : InView (visit query steps) := by
  induction steps with
  | nil => exact inView_load query
  | cons s earlier ih =>
    rw [visit]
    generalize visit query earlier = p at ih ⊢
    cases s with
    | editSearch text =>
      obtain ⟨hydrated, searchText⟩ := Synchronizer.view_setSearchText ih.hydrated text
      exact inView_edit (t := (·.setSearchText text)) (p := { p with searchInput := text })
        hydrated searchText.symm
    | toggleTag tag =>
      obtain ⟨hydrated, searchText⟩ := Synchronizer.view_select ih.hydrated _
        (FilterState.searchText_toggleTag p.sync.filters tag)
      exact inView_edit (t := (·.toggleTag tag)) hydrated (ih.searchInput.trans searchText.symm)
    | toggleType type =>
      obtain ⟨hydrated, searchText⟩ :=
        Synchronizer.view_select ih.hydrated (p.sync.filters.toggleType type) rfl
      exact inView_edit (t := (·.toggleType type)) hydrated (ih.searchInput.trans searchText.symm)
    | dismiss toast => exact ⟨ih.hydrated, ih.filters, ih.searchInput⟩
    | timeout target => exact ih.timeout target
    | receive => exact ih.receive
    | listing ticket result =>
      exact ih.report (t := (·.complete ticket result)) (a := .complete ticket result)
        (fun _ => rfl) rfl
    | tags result =>
      exact ih.report (t := (·.acceptTags result)) (a := .acceptTags result) (fun _ => rfl) rfl

/-! ### An empty channel -/

/-- The page shows what its synchronizer knows after some deeds.  A summary is there exactly when
    the latest listing is empty, and sums up the one request that was made with the ticket of that
    listing. -/
structure Faithful (past : List Sync.Deed) (dismissed : List Nat) (p : ListingPage) : Prop where
  loading : p.loading = p.sync.isLoading
  filters : p.filters = p.sync.filters
  searchInput : p.searchInput = p.sync.filters.searchText
  rows : ∀ ticket found, Latest past ticket found → p.rows = found
  noRows : (∀ ticket found, ¬ Latest past ticket found) → p.rows = []
  isEmpty : p.summary.isSome = true ↔ ∃ ticket, Latest past ticket []
  summary : ∀ ticket, Latest past ticket [] →
    ∃ request, .requestResources ticket request ∈ callsOf past ∧
      (∀ other, .requestResources ticket other ∈ callsOf past → other = request) ∧
      p.summary = some request.emptySummary
  toasts : p.toasts = (numbered (noticesIn (callsOf past))).filter (fun t => t.id ∉ dismissed)
  distinct : (p.toasts.map Toast.id).Nodup

theorem nodup_of_filter_numbered (notices : List Notice) (keep : Toast → Bool) :
    (((numbered notices).filter keep).map Toast.id).Nodup := by
  have distinct : ((numbered notices).map Toast.id).Nodup := by
    rw [ids_numbered]
    exact List.nodup_range
  exact distinct.sublist (List.filter_sublist.map Toast.id)

theorem isSome_summary_iff {past : List Sync.Deed} {calls : List Call} {rows : List Resource}
    {summary : Option EmptySummary} (presents : Presents past calls rows summary) :
    summary.isSome = true ↔ ∃ ticket, Latest past ticket [] := by
  constructor
  · intro shown
    by_contra other
    have silent : summary = none := by
      by_cases any : ∃ ticket found, Latest past ticket found
      · obtain ⟨ticket, found, latest⟩ := any
        obtain ⟨-, request, -, hsummary⟩ := presents.latest ticket found latest
        cases found with
        | nil => exact absurd ⟨ticket, latest⟩ other
        | cons row rows => exact hsummary
      · exact (presents.nothing (fun ticket found latest => any ⟨ticket, found, latest⟩)).2
    rw [silent] at shown
    cases shown
  · rintro ⟨ticket, latest⟩
    obtain ⟨-, request, -, hsummary⟩ := presents.latest ticket [] latest
    rw [hsummary]
    rfl

/-- **When no call is left in its channel, the page shows what the synchronizer knows.** -/
theorem display_faithful (query : String) (steps : List Step)
    (empty : (visit query steps).channel.queue = []) :
    Faithful (deeds query steps) (dismissedOn query steps) (visit query steps) := by
  obtain ⟨handled, due, shown⟩ := shown_visit query steps
  rw [empty, List.append_nil] at due
  subst due
  have accounts := (history_visit query steps).accounts
  have view := inView_visit query steps
  have presents := accounts.presents
  rw [← shown.rows, ← shown.summary] at presents
  constructor
  · rw [shown.loading, accounts.loading]
  · exact view.filters
  · exact view.searchInput
  · intro ticket found latest
    exact (presents.latest ticket found latest).1
  · intro none
    exact (presents.nothing none).1
  · exact isSome_summary_iff presents
  · intro ticket latest
    obtain ⟨-, request, asked, summary⟩ := presents.latest ticket [] latest
    exact ⟨request, asked, fun other asked' => accounts.request_unique asked' asked, summary⟩
  · exact shown.toasts
  · rw [shown.toasts]
    exact nodup_of_filter_numbered _ _

/-- A visit whose requests overlap, latest step first.  The second listing comes before the
    first one, the third one fails, and the toast for a kind that there is not is dismissed. -/
def hurriedVisit : List Step :=
  List.replicate 2 .receive ++
    [.listing 3 (.error "offline"), .dismiss 0] ++
  List.replicate 12 .receive ++
    [.timeout (Timer.milliseconds 800), .editSearch "s", .listing 1 (.error "late"),
      .listing 2 (.ok []), .timeout (Timer.milliseconds 400), .toggleTag "x",
      .timeout (Timer.milliseconds 200), .toggleType .notebook, .receive]

theorem display_faithful_hurried :
    (visit "?resourceTypes=LAMP" hurriedVisit).channel.queue = [] ∧
      (visit "?resourceTypes=LAMP" hurriedVisit).toasts = [⟨1, .fetchFailed "offline"⟩] ∧
      (visit "?resourceTypes=LAMP" hurriedVisit).summary = some ⟨["x"], [.notebook]⟩ ∧
      Faithful (deeds "?resourceTypes=LAMP" hurriedVisit)
        (dismissedOn "?resourceTypes=LAMP" hurriedVisit)
        (visit "?resourceTypes=LAMP" hurriedVisit) :=
  ⟨by decide +kernel, by decide +kernel, by decide +kernel,
    display_faithful _ _ (by decide +kernel)⟩

end ListingPage

end ResourceCatalog
