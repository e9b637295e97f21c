/-
  ResourceCatalog/View/Card.lean
  ==============================
  **The card of a resource.**

  The type badge lies on the header image, or stands in the body of the card
  when there is none.
-/
import ResourceCatalog.Catalog.Resource
import ResourceCatalog.View.Node

namespace ResourceCatalog.View

/-- Strong on light, as a pair of style properties. -/
def hueStyle (h : Hue) : String := "color: " ++ h.strong ++ "; background: " ++ h.light ++ ";"

def typeBadge (r : Resource) : Node :=
  styled "span"
    ("font-size: 12px; font-weight: 700; padding: 2px 8px; border-radius: 6px; "
      ++ hueStyle r.hue ++ " box-shadow: 0 1px 3px rgba(0,0,0,0.1);")
    [.text r.typeToken]

def verifiedBadge : Node :=
  styled "span"
    ("display: flex; align-items: center; gap: 4px; font-size: 12px; font-weight: 700; "
      ++ "padding: 2px 8px; border-radius: 6px; " ++ hueStyle VerificationStatus.verified.hue)
    [.icon "MdVerifiedUser" "width: 14px; height: 14px;", .text "Verified"]

def privateMark : Node :=
  element "span" { others := [("title", .text "This resource is private")] }
    [.icon "MdLock" "width: 18px; height: 18px; color: #6B7280;"]

def headerImage (r : Resource) : Node :=
  styled "div" "position: relative; width: 100%;"
    [styled "div" "position: absolute; top: 8px; left: 8px; z-index: 1;" [typeBadge r],
     element "img"
       { style := "width: 100%; height: 200px; object-fit: cover;"
         others := [("src", .text r.headerImage), ("alt", .text r.name)] } []]

def tagBadge (h : Hue) (t : Tag) : Node :=
  styled "span" ("font-size: 13px; padding: 2px 8px; border-radius: 6px; " ++ hueStyle h)
    [.text t.value]

def authorLine (a : Author) : Node :=
  styled "div" "display: flex; flex-direction: row; align-items: center; gap: 6px;"
    [.icon "MdPerson" "width: 18px; height: 18px; color: #6B7280;",
     styled "span" "font-size: 13px; font-weight: 700;" [.text a.authorId]]

/-- The name of a resource, and whether it is private. -/
def cardHeader (r : Resource) : Node :=
  styled "div"
    ("display: flex; flex-direction: row; align-items: center; "
      ++ "justify-content: space-between; gap: 8px; padding: 14px 16px 0 16px;")
    (styled "div" "font-size: 18px; font-weight: 600; color: #111827;" [.text r.name]
      :: nodeIf (r.privacy = .restricted) privateMark)

/-- Badges, tags, description and authors. -/
def cardBody (r : Resource) : Node :=
  styled "div" "display: flex; flex-direction: column; gap: 8px; padding: 12px 16px 16px 16px;"
    [styled "div" "display: flex; flex-direction: row; align-items: center; gap: 4px;"
       (nodeIf (!r.hasHeaderImage) (typeBadge r)
         ++ nodeIf (r.status = .verified) verifiedBadge),
     styled "div" "display: flex; flex-direction: row; flex-wrap: wrap; gap: 6px;"
       (r.sortedTags.map (tagBadge r.hue)),
     styled "div"
       ("color: #6B7280; font-size: 14px; display: -webkit-box; -webkit-line-clamp: 2; "
         ++ "-webkit-box-orient: vertical; overflow: hidden;")
       [.text r.description],
     styled "div" "display: flex; flex-direction: column; gap: 6px; padding-top: 8px;"
       (r.authors.map authorLine)]

def card (r : Resource) : Node :=
  element "div"
    { style := "display: flex; flex-direction: column; background: white; "
        ++ "border: 1px solid #E5E7EB; border-radius: 12px; overflow: hidden;"
      others := [("class", .text "x-resource-card")] }
    (nodeIf r.hasHeaderImage (headerImage r) ++ [cardHeader r, cardBody r])

end ResourceCatalog.View
