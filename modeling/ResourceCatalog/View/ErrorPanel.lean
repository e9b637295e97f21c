/-
  ResourceCatalog/View/ErrorPanel.lean
  ====================================
  **What is shown in place of something that failed.**

  A panel has a title, a way on, and details to unfold.  The outermost panels
  lead back to the start by a plain link, since there may be no router around
  them; the panel of a single part offers to try again.
-/
import ResourceCatalog.Page.Route
import ResourceCatalog.Text.Literal
import ResourceCatalog.View.Node

namespace ResourceCatalog.View

/-- Why something could not be shown: a part of the page failed with a message, or
    the path leads to no page. -/
inductive Trouble where
  | failed (message : String)
  | unknownRoute (cause : Route.Unknown)
deriving DecidableEq, Repr

namespace Trouble

/-- The cause with its fields, a line each, at a depth of indentation. -/
def lines : Trouble → List String
  | failed message => [Text.Literal.write message]
  | unknownRoute cause =>
    ["ParseRouteError \x7b", "    message: " ++ Text.Literal.write cause.message ++ ",", "\x7d"]

/-- Put lines into a named pair of brackets, each indented by four. -/
def bracketed (front close : String) (inner : List String) : List String :=
  front :: inner.map ("    " ++ ·) ++ [close]

/-- Put a comma behind the last line. -/
def withComma : List String → List String
  | [] => []
  | [l] => [l ++ ","]
  | l :: ls => l :: withComma ls

/-- The cause inside all that holds it. -/
def context (t : Trouble) : List String :=
  bracketed "ErrorContext \x7b" "\x7d"
    (withComma (bracketed "error: RefCell \x7b" "\x7d"
      (withComma (bracketed "value: Some(" ")"
        (withComma (bracketed "CapturedError(" ")" (withComma t.lines)))))))

/-- Details for the panel around a whole page. -/
def globalDetail (boundary : String) (t : Trouble) : String :=
  "Boundary: " ++ boundary ++ "\n\n" ++ "\n".intercalate t.context

/-- Details for the panel around one part. -/
def partDetail (t : Trouble) : String := "\n".intercalate t.lines

end Trouble

/-- The look of the way on. -/
def actionStyle : String :=
  "color: #4F46E5; background: white; font-size: 16px; border: 1px solid #4F46E5; "
    ++ "padding: 8px 14px; border-radius: 8px; cursor: pointer; text-decoration: none;"

def errorPanel (title detail : String) (action : Node) : Node :=
  styled "div"
    ("display: flex; flex-direction: column; align-items: flex-start; gap: 12px; margin: 16px; "
      ++ "padding: 16px 20px; border: 1px solid #FCA5A5; border-radius: 12px; "
      ++ "background: #FEF2F2;")
    [styled "div" "color: #B91C1C; font-size: 22px; font-weight: 600;" [.text title],
     action,
     plain "details"
       [styled "summary" "color: #7F1D1D; cursor: pointer;" [.text "Details"],
        styled "pre"
          ("color: #450A0A; text-wrap: auto; max-width: 700px; max-height: 400px; "
            ++ "overflow-y: auto;")
          [.text detail]]]

/-- The panel around a whole page. -/
def globalPanel (boundary : String) (t : Trouble) : Node :=
  errorPanel "The research catalog hit an error" (t.globalDetail boundary)
    (element "a" { style := actionStyle, others := [("href", .text Route.listing.path)] }
      [.text "Return to Resources"])

/-- The panel around one part. -/
def partPanel (label : String) (t : Trouble) : Node :=
  errorPanel ("Could not show the " ++ label) t.partDetail
    (element "button" { style := actionStyle, control := some .retry } [.text "Try Again"])

/-- What the boundary around one part adds to it. -/
def part (children : List Node) : Node := styled "div" "width: 100%;" children

end ResourceCatalog.View
