/-
  ResourceCatalog/Session/Scene.lean
  ==================================
  **What can be put on display by itself, and what can be done to it.**

  Beside the whole application a scene may be a still view or a boundary around
  one part that may fail.  A boundary shows its part until the part fails, and
  from then on a panel with the cause; only the panel of a single part can be
  made to try again.
-/
import ResourceCatalog.Session.Session

namespace ResourceCatalog

/-- What a boundary stands around: a whole page, by the name of the boundary, or
    one part of a page, by its label. -/
inductive Enclosure where
  | page (name : String)
  | part (label : String)
deriving DecidableEq, Repr

/-- A boundary around something that may fail, with the message with which that
    will fail when it is shown next, and the one with which it failed when it was
    shown last. -/
structure Boundary where
  encloses : Enclosure
  failing : Option String := none
  failed : Option String := none
deriving DecidableEq, Repr

namespace Boundary

/-- Show what is inside. -/
def render (b : Boundary) : Boundary := { b with failed := b.failing }

/-- What stands inside a boundary that has nothing to show. -/
def child : View.Node := View.plain "p" [.text "fine"]

def view (b : Boundary) : List View.Node :=
  match b.encloses, b.failed with
  | .page _, none => [child]
  | .page name, some message => [View.globalPanel name (.failed message)]
  | .part _, none => [View.part [child]]
  | .part label, some message => [View.partPanel label (.failed message)]

/-- The user does something at a control. -/
def operate (control : View.Control) (event : View.Event) (b : Boundary) : Boundary :=
  match control, event with
  | .retry, .click _ _ => b.render
  | _, _ => b

end Boundary

/-- What is on display. -/
inductive Scene where
  | application (session : Session)
  | still (view : List View.Node)
  | boundary (b : Boundary)
deriving Repr

namespace Scene

def view : Scene → List View.Node
  | application session => session.view
  | still view => view
  | boundary b => b.view

/-- Something that happens to a scene.  An event is at the n-th control that
    listens to its kind, of those with that label if one is given.  With `failing`
    the part inside a boundary will fail with a message, or will not fail. -/
inductive Op where
  | event (event : View.Event) (label : Option String) (n : Nat)
  | wait (duration : Nat)
  | reply (n : Nat) (reply : Http.Reply)
  | browser (mode : Browser.Mode)
  | failing (message : Option String)
deriving Repr

/-- What an operation gives back.  An event that is `prevented` goes no further.
    There may be no such control, or no such request that has not been answered.
    -/
inductive Result where
  | done
  | prevented
  | noTarget
  | noRequest
deriving DecidableEq, Repr

/-- An event at a control that is on display. -/
def operate (control : View.Control) (event : View.Event) : Scene → Scene × Result
  | application session =>
    let (session, stopped) := session.operate control event
    (.application session, if stopped then .prevented else .done)
  | still view => (.still view, .done)
  | boundary b => (.boundary (b.operate control event), .done)

/-- The scene after something happened to it. -/
def act (op : Op) (s : Scene) : Scene × Result :=
  match op with
  | .event event label n =>
    match View.Node.findControl event.kind label n s.view with
    | some control => s.operate control event
    | none => (s, .noTarget)
  | .wait duration =>
    match s with
    | .application session => (.application (session.pass duration), .done)
    | _ => (s, .done)
  | .reply n reply =>
    match s with
    | .application session =>
      match session.reply? n reply with
      | some session => (.application session, .done)
      | none => (s, .noRequest)
    | _ => (s, .noRequest)
  | .browser mode =>
    match s with
    | .application session => (.application (session.setMode mode), .done)
    | _ => (s, .done)
  | .failing message =>
    match s with
    | .boundary b => (.boundary { b with failing := message }, .done)
    | _ => (s, .done)

end Scene

end ResourceCatalog
