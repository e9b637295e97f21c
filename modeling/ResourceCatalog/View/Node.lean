/-
  ResourceCatalog/View/Node.lean
  ==============================
  **Documents: elements, texts and icons.**

  Elements are made by `element`, which joins texts that stand side by side and
  leaves empty ones out.  Everything that is asked about a document is asked
  about its nodes in document order.
-/
import ResourceCatalog.View.Control

namespace ResourceCatalog.View

/-- The value of an attribute. -/
inductive Value where
  | text (s : String)
  | flag (b : Bool)
deriving DecidableEq, Repr

/-- What an element has beside its children. -/
structure Attributes where
  style : Option String := none
  others : List (String × Value) := []
  control : Option Control := none
deriving DecidableEq, Repr

/-- A node of a document. -/
inductive Node where
  | text (s : String)
  | icon (name : String) (style : String)
  | element (tag : String) (attributes : Attributes) (children : List Node)
deriving Repr

namespace Node

/-- Nodes in which no two texts stand side by side and none is empty. -/
def joinTexts : List Node → List Node
  | [] => []
  | .text s :: rest =>
    match joinTexts rest with
    | .text t :: rest => .text (s ++ t) :: rest
    | rest => if s = "" then rest else .text s :: rest
  | n :: rest => n :: joinTexts rest

end Node

/-- An element with attributes. -/
def element (tag : String) (attributes : Attributes) (children : List Node) : Node :=
  .element tag attributes (Node.joinTexts children)

/-- An element that has a style at most. -/
def styled (tag : String) (style : String) (children : List Node) : Node :=
  element tag { style } children

/-- An element without attributes. -/
def plain (tag : String) (children : List Node) : Node := element tag {} children

/-- A node, if a condition holds. -/
def nodeIf (shown : Bool) (n : Node) : List Node := if shown then [n] else []

namespace Node

mutual

/-- A node and all nodes in it, in document order. -/
def all : Node → List Node
  | .text s => [.text s]
  | .icon name style => [.icon name style]
  | .element tag attributes children => .element tag attributes children :: allOf children

/-- All nodes of a document, in document order. -/
def allOf : List Node → List Node
  | [] => []
  | n :: rest => n.all ++ allOf rest

end

def text? : Node → Option String
  | .text s => some s
  | _ => none

def iconName? : Node → Option String
  | .icon name _ => some name
  | _ => none

def control? : Node → Option Control
  | .element _ attributes _ => attributes.control
  | _ => none

def hasId (id : String) : Node → Bool
  | .element _ attributes _ => attributes.others.contains ("id", .text id)
  | _ => false

/-- What a node is called: all the text in it, or else the names of its icons. -/
def label (n : Node) : String :=
  let text := "".intercalate (n.all.filterMap text?)
  if text = "" then "".intercalate (n.all.filterMap iconName?) else text

/-- A control that listens to a kind of event, in a node of that label if one is given. -/
def target? (kind : EventKind) (wanted : Option String) (n : Node) : Option Control :=
  match n.control? with
  | some c => if c.listens.contains kind && (wanted.getD n.label = n.label) then some c else none
  | none => none

/-- The n-th of these controls in a document. -/
def findControl (kind : EventKind) (wanted : Option String) (n : Nat) (document : List Node) :
    Option Control :=
  ((allOf document).filterMap (target? kind wanted))[n]?

/-- The element with an identifier. -/
def findId (id : String) (document : List Node) : Option Node :=
  (allOf document).find? (hasId id)

end Node

end ResourceCatalog.View
