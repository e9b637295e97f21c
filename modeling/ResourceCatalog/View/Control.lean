/-
  ResourceCatalog/View/Control.lean
  =================================
  **What the user can operate, and what operating it means.**

  A control says what it is for; the kinds of event that it listens to follow
  from that.
-/
import ResourceCatalog.Catalog.ResourceType
import ResourceCatalog.Page.Route

namespace ResourceCatalog.View

/-- A kind of event. -/
inductive EventKind where
  | click
  | input
  | keydown
deriving DecidableEq, Repr

def EventKind.name : EventKind → String
  | click => "click"
  | input => "input"
  | keydown => "keydown"

/-- Something the user does at an element; with `input` the element holds another
    text now. -/
inductive Event where
  | click (shift ctrl : Bool)
  | input (text : String)
  | keydown (key : String) (shift ctrl : Bool)
deriving DecidableEq, Repr

def Event.kind : Event → EventKind
  | click _ _ => .click
  | input _ => .input
  | keydown _ _ _ => .keydown

/-- What an element is for.  The `draft` is the text to be sent to the bot;
    `close` takes a toast away, and `retry` shows again what failed. -/
inductive Control where
  | link (route : Route)
  | searchBox
  | tagChip (tag : String)
  | typeChip (type : ResourceType)
  | close (toast : Nat)
  | draft
  | send
  | retry
deriving DecidableEq, Repr

/-- The kinds of event that a control listens to, sorted by name. -/
def Control.listens : Control → List EventKind
  | searchBox => [.input]
  | draft => [.input, .keydown]
  | _ => [.click]

end ResourceCatalog.View
