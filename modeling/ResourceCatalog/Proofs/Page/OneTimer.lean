/-
  ResourceCatalog/Proofs/Page/OneTimer.lean
  =========================================
  **One timer, and always its own.**

  A synchronizer has one quiet period waiting at most, which is the one whose handle
  it remembers, and what it cancels is a timer that it started itself and that has
  waited ever since.  That holds on a clock that is moved by hand and that others use
  too, whatever the host does when it is called, and on the timeouts of a page.
-/
import ResourceCatalog.Proofs.Page.Visit
import ResourceCatalog.Proofs.Sync.OwnTimer
import ResourceCatalog.Sync.Script

namespace ResourceCatalog

open Timer (Timed Waiting handlesOf)

namespace Sync

theorem Synchronizer.phase_debouncing_iff {s : Synchronizer} :
    s.phase = .debouncing ↔ s.timer.toList ≠ [] := by
  unfold phase
  cases s.timer with
  | none =>
    simp
    split <;> simp
  | some x => simp

/-- What a run promises of the timer of its synchronizer at one of its moments.  The quiet periods
    that wait are the one whose handle is remembered.  What the synchronizer is about to cancel is
    a quiet period that it started itself and that has been waiting since, and no other timer has
    its handle. -/
structure OwnTimer {σ : Type} (h : Host σ) (start : Run σ) (n : Nat) : Prop where
  waiting : handlesOf Task.isQuiet (start.runFor h n).clock.waiting =
    (start.runFor h n).sync.timer.toList
  phase : (start.runFor h n).sync.phase = .debouncing ↔
    handlesOf Task.isQuiet (start.runFor h n).clock.waiting ≠ []
  started : ∀ w ∈ (start.runFor h n).clock.waiting, w.payload.isQuiet = true →
    Run.StartedSince h start n w
  cancels : ∀ d x, (start.runFor h n).deed? = some d → d.cancels? = some x →
    ∃ w ∈ (start.runFor h n).clock.waiting, w.handle = x ∧ w.payload.isQuiet = true ∧
      Run.StartedSince h start n w ∧
      ∀ v ∈ (start.runFor h n).clock.waiting, v.handle = x → v = w

theorem Deed.timer_of_cancels {d : Deed} {x : Timer.Handle} (cancels : d.cancels? = some x) :
    d.before.timer = some x := by
  obtain ⟨delay, starts, named⟩ := Option.bind_eq_some_iff.mp cancels
  rw [← d.timer_of_restart starts, named]

theorem ownTimer_of_run {σ : Type} (h : Host σ) (host : σ) (ops : List Op) (n : Nat)
    (alive : ((Run.start host ops).runFor h n).alive = true)
    (spared : ∀ m < n, ((Run.start host ops).runFor h m).meddles = false) :
    OwnTimer h (Run.start host ops) n := by
  have owned := Run.ownsTimer_of_run h host ops n alive spared
  have since := fun w hw quiet => Run.startedSince_of_waiting h host ops n (w := w) hw quiet
  constructor
  · exact owned.handles
  · rw [Synchronizer.phase_debouncing_iff, owned.handles]
  · exact since
  · intro d x deed cancels
    have named := Deed.timer_of_cancels cancels
    rw [(Run.deed?_before deed).1] at named
    unfold Run.OwnsTimer at owned
    rw [named] at owned
    obtain ⟨w, hw, handle, quiet, only⟩ := owned.waits
    exact ⟨w, hw, handle, quiet, since w hw quiet, only⟩

end Sync

namespace ListingPage

/-! ### The timeout of a page -/

variable {t : Sync.Synchronizer → Sync.Transition} {p : ListingPage}

theorem timed_act (timed : Timed p.sync.timer p.clock)
    (same : (t p.sync).after.timer = p.sync.timer) :
    Timed (p.act t).sync.timer (p.act t).clock := by
  rw [← same] at timed
  exact timed.carryOut

theorem timed_timeout {target : Nat} (timed : Timed p.sync.timer p.clock) :
    Timed ((p.runTimeout? target).getD p).sync.timer ((p.runTimeout? target).getD p).clock := by
  unfold runTimeout?
  cases hpop : p.clock.popDue target with
  | none => exact timed
  | some due =>
    obtain ⟨w, clock⟩ := due
    have fired : (p.sync.fire).carryOut () clock =
        ((p.sync.fire).after, clock, some (p.sync.fire).calls) := by
      rw [Sync.Transition.carryOut, Sync.Synchronizer.restart_fire]
    have cleared : p.sync.fire.after.timer = none := by rw [Sync.Synchronizer.fire_eq]
    simp only [Option.getD_some, act, fired, cleared]
    exact timed.fire hpop

theorem timed_receive (timed : Timed p.sync.timer p.clock) :
    Timed p.receive.1.sync.timer p.receive.1.clock := by
  unfold receive
  cases p.channel.receive? with
  | none => exact timed
  | some taken =>
    obtain ⟨call, channel⟩ := taken
    cases call <;> exact timed

theorem timed_visit (query : String) (steps : List Step) :
    Timed (visit query steps).sync.timer (visit query steps).clock := by
  have kept : ∀ (a : Sync.Action) (s : Sync.Synchronizer), (a.apply s).after.timer = s.timer :=
    fun a s => (a.apply_noFetch s).1
  induction steps with
  | nil =>
    have fresh : Timed ({} : ListingPage).sync.timer ({} : ListingPage).clock := Timed.initial
    unfold visit load
    generalize ({} : ListingPage) = p at fresh ⊢
    exact timed_act fresh (kept (.hydrate query) _)
  | cons s earlier ih =>
    unfold visit
    cases s with
    | editSearch text =>
      exact timed_act (p := { visit query earlier with searchInput := text }) ih
        (kept (.setSearchText text) _)
    | toggleTag tag => exact timed_act ih (kept (.toggleTag tag) _)
    | toggleType type => exact timed_act ih (kept (.toggleType type) _)
    | dismiss toast => exact ih
    | timeout target => exact timed_timeout ih
    | receive => exact timed_receive ih
    | listing ticket result => exact timed_act ih (kept (.complete ticket result) _)
    | tags result => exact timed_act ih (kept (.acceptTags result) _)

/-- What a page promises of the timer of its synchronizer.  The timeouts that wait are the one
    whose handle is remembered.  What the synchronizer is about to cancel is a timeout that waits,
    and that the table does not pass over. -/
structure OwnTimeout (p : ListingPage) : Prop where
  waiting : p.clock.timeouts.map Waiting.handle = p.sync.timer.toList
  phase : p.sync.phase = .debouncing ↔ p.clock.timeouts ≠ []
  cancels : ∀ s d x, deed? s p = some d → d.cancels? = some x →
    p.clock.isLive x = true ∧ ∃ w, p.clock.timeouts = [w] ∧ w.handle = x

theorem before_of_deed? {s : Step} {d : Sync.Deed} (deed : deed? s p = some d) :
    d.before = p.sync := by
  cases s with
  | timeout target =>
    obtain ⟨due, -, rfl⟩ := Option.map_eq_some_iff.mp deed
    rfl
  | dismiss toast => cases deed
  | receive => cases deed
  | _ =>
    cases deed
    rfl

theorem ownTimeout_visit (query : String) (steps : List Step) :
    OwnTimeout (visit query steps) := by
  have timed := timed_visit query steps
  generalize visit query steps = p at timed
  have waiting : p.clock.timeouts.map Waiting.handle = p.sync.timer.toList := by
    rw [← timed.owned.handles, handlesOf, List.filter_true]
  constructor
  · exact waiting
  · rw [Sync.Synchronizer.phase_debouncing_iff, ← waiting]
    simp
  · intro s d x deed cancels
    have named := Sync.Deed.timer_of_cancels cancels
    rw [before_of_deed? deed] at named
    refine ⟨(timed.live x).mpr named, ?_⟩
    rw [named] at waiting
    exact List.map_eq_singleton_iff.mp waiting

end ListingPage

/-- **One timer, and always its own**: of a synchronizer on a shared clock, whose timer nobody
    else cancels, and of the one on a page. -/
theorem one_timer :
    (∀ {σ : Type} (h : Sync.Host σ) (host : σ) (ops : List Sync.Op) (n : Nat),
      ((Sync.Run.start host ops).runFor h n).alive = true →
      (∀ m < n, ((Sync.Run.start host ops).runFor h m).meddles = false) →
      Sync.OwnTimer h (Sync.Run.start host ops) n) ∧
    ∀ query steps, (ListingPage.visit query steps).OwnTimeout :=
  ⟨Sync.ownTimer_of_run, ListingPage.ownTimeout_visit⟩

/-- A host that, when it is handed a query, sets a timer of its own, edits the text and lets
    time pass, so that its timer fires meanwhile and selects. -/
def nestingReactions : List Sync.Reaction :=
  [{ on := .query
     ops := [.later (Timer.milliseconds 50) [.act none (.toggleTag "b")],
       .act none (.setSearchText "s"), .advance (Timer.milliseconds 100)] }]

def sharedClock : List Sync.Op :=
  [.act none (.hydrate ""), .later (Timer.milliseconds 900) [], .cancel none 2,
    .act none (.toggleTag "a"), .advance (Timer.milliseconds 200)]

/-- The timer of someone else is about to select, within a call on the host. -/
theorem one_timer_nested :
    ((Sync.Run.start nestingReactions sharedClock).runFor .scripted 13).alive = true ∧
      (∀ m < 13, ((Sync.Run.start nestingReactions sharedClock).runFor .scripted m).meddles
        = false) ∧
      ((Sync.Run.start nestingReactions sharedClock).runFor .scripted 13).sync.timer = some 5 ∧
      Sync.OwnTimer .scripted (Sync.Run.start nestingReactions sharedClock) 13 ∧
      (ListingPage.visit "?tags=a" [.editSearch "s", .receive]).OwnTimeout :=
  ⟨by decide +kernel, by decide +kernel, by decide +kernel,
    one_timer.1 _ _ _ _ (by decide +kernel) (by decide +kernel), one_timer.2 _ _⟩

end ResourceCatalog
