/-
  ResourceCatalog/View/Message.lean
  =================================
  **A formatted chat reply.**
-/
import ResourceCatalog.Chat.Format
import ResourceCatalog.View.Node

namespace ResourceCatalog.View

def span (s : Chat.Span) : Node := if s.isBold then plain "strong" [.text s.text] else .text s.text

/-- An item of a list with its marker. -/
def listItem (markerStyle marker text : String) : Node :=
  styled "div"
    "margin-left: 16px; margin-bottom: 4px; display: flex; align-items: flex-start;"
    [styled "span" markerStyle [.text marker], plain "span" [.text text]]

def block : Chat.Block → Node
  | .blank => plain "br" []
  | .paragraph spans => styled "div" "margin-bottom: 8px; line-height: 1.5;" (spans.map span)
  | .bullet text => listItem "margin-right: 8px; color: #666;" "•" text
  | .numbered marker text =>
    listItem "margin-right: 8px; color: #666; font-weight: bold;" marker text
  | .header level text =>
    let (size, weight) := Chat.headerStyle level
    styled "div"
      ("font-size: " ++ size ++ "; font-weight: " ++ weight
        ++ "; margin-top: 16px; margin-bottom: 8px; color: #333;")
      [.text text]

def message (text : String) : Node :=
  styled "div" "white-space: normal; word-wrap: break-word; max-width: 100%;"
    ((Chat.format text).map block)

end ResourceCatalog.View
