/-
  ResourceCatalog/Proofs/Page/Visit.lean
  ======================================
  **What was done to a page since it was loaded.**

  A visit is the page after any steps, in any order.  What they do to its
  synchronizer are deeds as in any run of one, except that the timers are those of a
  browser and that all calls go into a channel.
-/
import ResourceCatalog.Page.Listing
import ResourceCatalog.Proofs.Sync.History
import ResourceCatalog.Proofs.Timer.Timeouts
import ResourceCatalog.Session.Settled

namespace ResourceCatalog

open Timer (BrowserClock Timed)

namespace Sync

theorem Channel.sendAll_of_isOpen {c : Channel} (h : c.isOpen = true) (calls : List Call) :
    c.sendAll calls = { c with queue := c.queue ++ calls } := by
  unfold sendAll
  induction calls generalizing c with
  | nil => simp
  | cons call calls ih =>
    have sent : c.send call = { c with queue := c.queue ++ [call] } := if_pos h
    rw [List.foldl_cons, sent, ih (c := { c with queue := c.queue ++ [call] }) h]
    simp

theorem Cause.restart_eq {cause : Cause} {s : Synchronizer} {delay : Nat}
    (h : (cause.apply s).restart = some delay) : delay = selectionDelay ∨ delay = searchTextDelay := by
  cases cause with
  | timer =>
    rw [apply, Synchronizer.restart_fire] at h
    cases h
  | action a =>
    rw [apply, a.restart_apply] at h
    split at h
    · cases h
      cases a with
      | setSearchText text => exact Or.inr rfl
      | _ => exact Or.inl rfl
    · cases h

/-- The quiet periods are whole numbers of milliseconds, as a browser counts them. -/
theorem deadline?_of_restart {cause : Cause} {s : Synchronizer} {delay : Nat}
    (h : (cause.apply s).restart = some delay) (clock : BrowserClock Unit) :
    clock.deadline? delay = Timer.inTime? (clock.now + delay) := by
  have whole : Timer.inTime? delay = some delay ∧ BrowserClock.wholeDelay delay = delay := by
    rcases Cause.restart_eq h with rfl | rfl <;> decide
  rw [BrowserClock.deadline?, whole.1, Option.bind_some, whole.2]

theorem now_cancel (x : Timer.Handle) (clock : BrowserClock Unit) :
    (clock.cancel x).now = clock.now := by
  unfold BrowserClock.cancel
  split <;> rfl

/-- What becomes of a deed in a browser. -/
theorem carryOut_browser (cause : Cause) (s : Synchronizer) (clock : BrowserClock Unit) :
    ∃ timer clock' calls, clock'.now = clock.now ∧
      (cause.apply s).carryOut () clock =
        ({ (cause.apply s).after with timer := timer }, clock', calls) ∧
      calls.getD [] = (Deed.mk clock.now false s cause).sent := by
  unfold Deed.sent Deed.inTime Deed.outcome Transition.carryOut Transition.inTime
  cases restart : (cause.apply s).restart with
  | none => exact ⟨(cause.apply s).after.timer, clock, _, rfl, rfl, rfl⟩
  | some delay =>
    have due := deadline?_of_restart restart
    simp only [Timer.Scheduler.schedule, Timer.Scheduler.cancel, BrowserClock.schedule]
    cases timer : (cause.apply s).after.timer with
    | none =>
      by_cases inTime : clock.now + delay ≤ Timer.endOfTime
      · simp [due, Timer.inTime?, inTime]
      · simp [due, Timer.inTime?, inTime]
    | some x =>
      by_cases inTime : clock.now + delay ≤ Timer.endOfTime
      · simp [due, Timer.inTime?, inTime, now_cancel]
      · simp [due, Timer.inTime?, inTime, now_cancel]

end Sync

/-- A synchronizer that has a browser to itself keeps track of its timeout. -/
theorem Timer.Timed.carryOut {t : Sync.Transition} {clock : BrowserClock Unit}
    (timed : Timed t.after.timer clock) :
    Timed (t.carryOut () clock).1.timer (t.carryOut () clock).2.1 := by
  rw [Sync.Transition.carryOut]
  cases t.restart with
  | none => exact timed
  | some delay =>
    simp only [Timer.Scheduler.schedule, Timer.Scheduler.cancel]
    cases timer : t.after.timer with
    | none =>
      rw [timer] at timed
      have scheduled := timed.schedule delay ()
      generalize BrowserClock.schedule delay () _ = result at scheduled ⊢
      obtain ⟨clock', _ | x⟩ := result
      · exact scheduled
      · exact scheduled
    | some x =>
      rw [timer] at timed
      have scheduled := timed.cancel.schedule delay ()
      generalize BrowserClock.schedule delay () _ = result at scheduled ⊢
      obtain ⟨clock', _ | x⟩ := result
      · exact scheduled
      · exact scheduled

namespace ListingPage

open Sync (Deed Cause)

/-- The page after some steps since it was loaded, latest first. -/
def visit (query : String) : List Step → ListingPage
  | [] => load query
  | s :: earlier => ((visit query earlier).step s).1

/-- What a step does to the synchronizer, if anything. -/
def deed? (s : Step) (p : ListingPage) : Option Deed :=
  match s with
  | .editSearch text => some ⟨p.clock.now, false, p.sync, .action (.setSearchText text)⟩
  | .toggleTag tag => some ⟨p.clock.now, false, p.sync, .action (.toggleTag tag)⟩
  | .toggleType type => some ⟨p.clock.now, false, p.sync, .action (.toggleType type)⟩
  | .timeout target => (p.clock.popDue target).map (fun due => ⟨due.2.now, false, p.sync, .timer⟩)
  | .listing ticket result => some ⟨p.clock.now, false, p.sync, .action (.complete ticket result)⟩
  | .tags result => some ⟨p.clock.now, false, p.sync, .action (.acceptTags result)⟩
  | .dismiss _ => none
  | .receive => none

/-- What was done to the synchronizer of the page, latest first. -/
def deeds (query : String) : List Step → List Deed
  | [] => [⟨0, false, {}, .action (.hydrate query)⟩]
  | s :: earlier => (deed? s (visit query earlier)).toList ++ deeds query earlier

/-! ### What a step can do -/

/-- What a deed leaves of the page: its calls go into the channel, and what the page shows of
    the calls before stays as it is. -/
structure Acts (d : Deed) (p p' : ListingPage) : Prop where
  before : d.before = p.sync
  sync : ∃ timer, p'.sync = { d.after with timer := timer }
  channel : p'.channel = { p.channel with queue := p.channel.queue ++ d.sent }
  loading : p'.loading = p.loading
  rows : p'.rows = p.rows
  summary : p'.summary = p.summary
  toasts : p'.toasts = p.toasts
  nextToast : p'.nextToast = p.nextToast

variable {t : Sync.Synchronizer → Sync.Transition} {cause : Cause} {p p' : ListingPage}

theorem act_eq (does : ∀ s, t s = cause.apply s) (isOpen : p.channel.isOpen = true) :
    ∃ timer clock, p.act t =
      { p with
        sync := { (cause.apply p.sync).after with timer := timer }
        clock := clock
        channel := { p.channel with
          queue := p.channel.queue ++ (Deed.mk p.clock.now false p.sync cause).sent } } := by
  obtain ⟨timer, clock, calls, -, carried, sent⟩ := Sync.carryOut_browser cause p.sync p.clock
  refine ⟨timer, clock, ?_⟩
  unfold act
  rw [does, carried, ← sent]
  simp only [Sync.Channel.sendAll_of_isOpen isOpen]

/-- The filters on display, the search box and the clock of the page are left aside. -/
theorem acts_act {q : ListingPage} (does : ∀ s, t s = cause.apply s)
    (isOpen : p.channel.isOpen = true)
    (start : q = { p with filters := q.filters, searchInput := q.searchInput, clock := q.clock })
    (after : p' = { q.act t with
      filters := p'.filters, searchInput := p'.searchInput, clock := p'.clock }) :
    Acts ⟨q.clock.now, false, p.sync, cause⟩ p p' := by
  have channel : q.channel = p.channel := by rw [start]
  have sync : q.sync = p.sync := by rw [start]
  obtain ⟨timer, clock, acted⟩ := act_eq does (by rw [channel, isOpen])
  rw [after, acted, ← sync]
  constructor
  · exact sync
  · exact ⟨timer, rfl⟩
  · rw [channel]
  all_goals rw [start]

/-- The toast that a step dismisses. -/
def Step.dismissed? : Step → Option Nat
  | .dismiss toast => some toast
  | _ => none

/-- What a step of a page can do. -/
inductive Move (s : Step) (p p' : ListingPage) : Prop where
  | act (d : Deed) (deed : deed? s p = some d) (keeps : s.dismissed? = none) (acts : Acts d p p')
  | receive (call : Sync.Call) (rest : List Sync.Call) (deed : deed? s p = none)
      (keeps : s.dismissed? = none) (queue : p.channel.queue = call :: rest)
      (after : p' = (handle call { p with channel := { p.channel with queue := rest } }).1)
  | dismiss (toast : Nat) (deed : deed? s p = none) (dismisses : s.dismissed? = some toast)
      (after : p' = p.dismiss toast)
  | still (deed : deed? s p = none) (keeps : s.dismissed? = none) (after : p' = p)

theorem step_move (s : Step) (isOpen : p.channel.isOpen = true) : Move s p (p.step s).1 := by
  cases s with
  | editSearch text =>
    exact .act _ rfl rfl (acts_act (t := (·.setSearchText text))
      (q := { p with searchInput := text }) (fun _ => rfl) isOpen rfl rfl)
  | toggleTag tag =>
    exact .act _ rfl rfl (acts_act (t := (·.toggleTag tag)) (fun _ => rfl) isOpen rfl rfl)
  | toggleType type =>
    exact .act _ rfl rfl (acts_act (t := (·.toggleType type)) (fun _ => rfl) isOpen rfl rfl)
  | dismiss toast => exact .dismiss toast rfl rfl rfl
  | timeout target =>
    cases hpop : p.clock.popDue target with
    | none =>
      refine .still ?_ rfl ?_
      · rw [deed?, hpop]
        rfl
      · rw [step, runTimeout?, hpop]
        rfl
    | some due =>
      obtain ⟨w, clock⟩ := due
      refine .act ⟨clock.now, false, p.sync, .timer⟩ ?_ rfl ?_
      · rw [deed?, hpop]
        rfl
      · have does : ∀ s, Sync.Synchronizer.fire s = Cause.timer.apply s := fun _ => rfl
        rw [step, runTimeout?, hpop]
        generalize Sync.Synchronizer.fire = fire at does ⊢
        exact acts_act (t := fire) (p := p) (q := { p with clock := clock }) does isOpen rfl rfl
  | receive =>
    cases hqueue : p.channel.queue with
    | nil =>
      refine .still rfl rfl ?_
      rw [step, receive, Sync.Channel.receive?, hqueue]
    | cons call rest =>
      refine .receive call rest rfl rfl hqueue ?_
      rw [step, receive_of_queue hqueue]
  | listing ticket result =>
    exact .act _ rfl rfl (acts_act (t := (·.complete ticket result)) (fun _ => rfl) isOpen rfl rfl)
  | tags result =>
    exact .act _ rfl rfl (acts_act (t := (·.acceptTags result)) (fun _ => rfl) isOpen rfl rfl)

theorem acts_load (query : String) :
    Acts ⟨0, false, {}, .action (.hydrate query)⟩ {} (load query) := by
  have fresh : ({} : ListingPage).channel.isOpen = true := rfl
  unfold load
  generalize hp : ({} : ListingPage) = p at fresh ⊢
  have started : Deed.mk 0 false {} (.action (.hydrate query)) =
      ⟨p.clock.now, false, p.sync, .action (.hydrate query)⟩ := by rw [← hp]
  rw [started]
  exact acts_act (t := (·.hydrate query)) (q := p) (fun _ => rfl) fresh rfl rfl

theorem isOpen_of_move {s : Step} {p p' : ListingPage} (m : Move s p p')
    (isOpen : p.channel.isOpen = true) : p'.channel.isOpen = true := by
  cases m with
  | act d deed keeps acts => rw [acts.channel, isOpen]
  | receive call rest deed keeps queue after => rw [after, channel_handle, isOpen]
  | dismiss toast deed dismisses after => rw [after, dismiss, isOpen]
  | still deed keeps after => rw [after, isOpen]

/-- The page is there as long as the visit lasts. -/
theorem isOpen_visit (query : String) (steps : List Step) :
    (visit query steps).channel.isOpen = true := by
  induction steps with
  | nil => rw [visit, (acts_load query).channel]
  | cons s earlier ih => exact isOpen_of_move (step_move s ih) ih

end ListingPage

end ResourceCatalog
