/-
  ResourceCatalog/Catalog/Hue.lean
  ================================
  **The colours of badges and filter buttons.**

  A badge is drawn in one of six hues; each hue has a strong colour for text
  and borders and a light one for backgrounds.  A name that is no hue is gray.
-/
namespace ResourceCatalog

/-- The hue of a badge or a filter button. -/
inductive Hue where
  | red
  | blue
  | green
  | purple
  | yellow
  | gray
deriving DecidableEq, Repr

namespace Hue

def name : Hue → String
  | red => "red"
  | blue => "blue"
  | green => "green"
  | purple => "purple"
  | yellow => "yellow"
  | gray => "gray"

/-- The hue of that name; gray when there is none. -/
def ofName : String → Hue
  | "red" => red
  | "blue" => blue
  | "green" => green
  | "purple" => purple
  | "yellow" => yellow
  | _ => gray

/-- The colour for text and borders. -/
def strong : Hue → String
  | red => "#DC2626"
  | blue => "#2563EB"
  | green => "#16A34A"
  | purple => "#9333EA"
  | yellow => "#CA8A04"
  | gray => "#4B5563"

/-- The colour for backgrounds. -/
def light : Hue → String
  | red => "#FEE2E2"
  | blue => "#DBEAFE"
  | green => "#DCFCE7"
  | purple => "#F3E8FF"
  | yellow => "#FEF9C3"
  | gray => "#F3F4F6"

theorem ofName_name (h : Hue) : ofName h.name = h := by
  cases h <;> rfl

end Hue

end ResourceCatalog
