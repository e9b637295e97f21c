/-
  ResourceCatalog/View/Frame.lean
  ===============================
  **What all pages share: the frame with the links between them, the spinner.**
-/
import ResourceCatalog.View.Node

namespace ResourceCatalog.View

/-- Shown while an answer is waited for. -/
def spinner : Node := element "div" { others := [("class", .text "x-spinner")] } []

/-- A link to a page, which says so when that is the page on display. -/
def link (current route : Route) (children : List Node) : Node :=
  element "a"
    { others := ("href", .text route.path)
        :: (if route = current then [("aria-current", .text "page")] else [])
      control := some (.link route) }
    children

def logo (current : Route) : Node :=
  link current .listing
    [styled "div"
      ("width: 38px; height: 38px; border-radius: 10px; background: #4F46E5; color: white; "
        ++ "font-weight: 700; display: flex; align-items: center; justify-content: center;")
      [.text "RC"]]

def iconLink (current route : Route) (icon label : String) : Node :=
  link current route
    [element "span" { style := "color:white;", others := [("title", .text label)] }
      [.icon icon "width: 26px; height: 26px;"]]

def sidebar (current : Route) : Node :=
  element "div"
    { style := "display:flex; flex-direction: column; gap: 40px; width: 70px; height: 100%; "
        ++ "background-color: #1C212D; border: 1px solid #000000; padding: 16px;"
      others := [("id", .text "x-nav-sidebar")] }
    [logo current,
     styled "div"
       ("display:flex; flex-direction: column; gap: 24px; width: 38px; align-items: center; "
         ++ "justify-content: center;")
       [iconLink current .listing "MdSearch" "Resources",
        iconLink current .chat "MdChat" "Chatbot"],
     styled "div" "flex-grow:1;" []]

/-- A page in its frame. -/
def frame (current : Route) (page : Node) : Node :=
  element "div"
    { style := "display:flex; flex-direction: row; width: 100%; height: 100%;"
      others := [("id", .text "x-nav-container")] }
    [sidebar current,
     element "div"
       { style := "flex-grow:1; min-width: 100px;", others := [("id", .text "x-page-container")] }
       [page]]

end ResourceCatalog.View
