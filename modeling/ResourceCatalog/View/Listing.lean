/-
  ResourceCatalog/View/Listing.lean
  =================================
  **The page that lists resources, as it is shown.**

  The filters stand above the cards: the search box, a chip for each tag and for
  each kind of resource, and below them a spinner while a listing is waited for,
  the toasts, and what an empty listing had been asked for.
-/
import ResourceCatalog.Page.Listing
import ResourceCatalog.View.Card
import ResourceCatalog.View.ErrorPanel
import ResourceCatalog.View.Frame

namespace ResourceCatalog.View

def sectionLabel (text : String) : Node :=
  styled "div" "font-size: 13px; font-weight: 700; color: #6B7280;" [.text text]

def searchBox (text : String) : Node :=
  styled "div"
    ("display:flex; align-items:center; gap: 10px; background-color: white; "
      ++ "border: 1px solid #D1D5DB; border-radius: 10px; padding: 8px 12px;")
    [.icon "MdSearch" "width: 20px; height: 20px; color:#6B7280;",
     element "input"
       { style := "flex:1; border: none; outline: none; background: transparent; "
           ++ "color: #111827; font-size: 15px;"
         others := [("type", .text "text"), ("placeholder", .text "Search by resource title"),
                    ("value", .text text)]
         control := some .searchBox } []]

/-- A chip that can be selected. -/
def chip (style : String) (control : Control) (children : List Node) : Node :=
  element "button" { style, others := [("class", .text "x-filter-chip")], control } children

def tagChip (filters : FilterState) (tag : String) : Node :=
  chip
    ("cursor: pointer; font-size: 12px; padding: 3px 10px; border-radius: 8px; "
      ++ "border: 1px solid #60A5FA; color: #2563EB; background: "
      ++ (if filters.hasTag tag then "#BFDBFE" else "transparent") ++ ";")
    (.tagChip tag) [.text tag]

def typeChip (filters : FilterState) (type : ResourceType) : Node :=
  let selected := filters.hasType type
  chip
    ("cursor: pointer; display: flex; align-items: center; gap: 6px; font-size: 14px; "
      ++ "padding: 6px 12px; border-radius: 8px; border: 1px solid " ++ type.hue.light
      ++ "; color: " ++ type.hue.strong ++ "; background: "
      ++ (if selected then type.hue.light else "white") ++ ";")
    (.typeChip type)
    (.text type.token
      :: nodeIf selected
        (.icon "MdCheck" ("width: 16px; height: 16px; color: " ++ type.hue.strong ++ ";")))

def filterPanel (p : ListingPage) : Node :=
  element "div"
    { style := "display: flex; flex-direction: column; gap: 14px; max-width: 1000px; "
        ++ "margin: 16px auto 0 auto;"
      others := [("id", .text "x-resource-filters")] }
    [sectionLabel "Search by resource title",
     searchBox p.searchInput,
     sectionLabel "Tags Filter",
     styled "div" "display:flex; flex-direction: row; flex-wrap: wrap; gap: 6px;"
       (p.suggestions.map (tagChip p.filters)),
     sectionLabel "Resource Filter",
     styled "div" "display:flex; flex-direction: row; flex-wrap: wrap; gap: 8px;"
       (ResourceType.all.map (typeChip p.filters))]

def toast (t : Toast) : Node :=
  styled "div"
    ("display: flex; flex-direction: row; align-items: flex-start; gap: 10px; width: 360px; "
      ++ "padding: 12px 14px; border-radius: 10px; background: #DC2626; color: white; "
      ++ "box-shadow: 0 6px 16px rgba(0,0,0,0.2);")
    [styled "div" "display:flex; flex-direction: column; gap: 4px; flex: 1;"
       [styled "div" "font-weight: 700;" [.text t.notice.title],
        styled "div" "font-size: 14px;" [.text t.notice.description]],
     element "button"
       { style := "cursor: pointer; border: none; background: transparent; color: white;"
         control := some (.close t.id) }
       [.icon "MdClose" "width: 18px; height: 18px;"]]

def toastStack (ts : List Toast) : Node :=
  styled "div"
    ("position: fixed; bottom: 20px; right: 20px; display: flex; flex-direction: column; "
      ++ "gap: 10px; z-index: 1000;")
    (ts.map toast)

/-- A line of an empty result: what was asked for, or that it was nothing. -/
def summaryLine (lead : String) (values : List String) : Node :=
  plain "div"
    (.text lead :: nodeIf values.isEmpty (plain "span" [.text "None"])
      ++ values.map (fun v =>
        styled "code"
          "color: #1D4ED8; background: #EFF6FF; padding: 1px 4px; margin-right: 4px;"
          [.text v]))

def emptyNotice (s : EmptySummary) : Node :=
  styled "div"
    ("text-align: center; color: #6B7280; margin-top: 32px; display:flex; "
      ++ "flex-direction: column; gap: 6px;")
    [styled "div" "margin-bottom: 8px;" [.text EmptySummary.headline],
     summaryLine "Tags: " s.tags,
     summaryLine "Resource Types: " (s.types.map ResourceType.token)]

/-- All that stands above the cards. -/
def filters (p : ListingPage) : List Node :=
  filterPanel p
    :: nodeIf p.loading
      (styled "div" "display:flex; justify-content:center; margin-top: 12px;" [spinner])
    ++ [toastStack p.toasts] ++ (p.summary.map emptyNotice).toList

def listingPage (p : ListingPage) : Node :=
  element "div"
    { style := "display:flex; flex-direction: column; gap: 20px; width: 100%; height: 100%; "
        ++ "padding: 36px 40px; background: #F5F6F8; overflow: auto;"
      others := [("id", .text "x-resources-container")] }
    [styled "div"
       "color: #0F172A; font-size: 40px; font-weight: 500; letter-spacing: -0.02em;"
       [.text "Resources"],
     part (filters p),
     element "div"
       { style := "display: grid; grid-template-columns: repeat(auto-fill, minmax(300px, 1fr)); "
           ++ "gap: 16px;"
         others := [("id", .text "x-resources-grid")] }
       (p.rows.map card)]

end ResourceCatalog.View
