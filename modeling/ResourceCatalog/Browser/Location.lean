/-
  ResourceCatalog/Browser/Location.lean
  =====================================
  **The address bar.**

  What follows the host in an address is a path, a query behind the first
  question mark, and a fragment behind the first number sign.  A page may put
  another query into the address bar, which leaves path and fragment alone; a
  mark that has nothing behind it is not written again.
-/
namespace ResourceCatalog.Browser

/-- What follows the host in an address. -/
structure Location where
  path : String
  query : Option String := none
  fragment : Option String := none
deriving DecidableEq, Repr

namespace Location

/-- What stands in front of a mark, and what stands behind it if it is there. -/
def cut (mark : Char) : List Char → List Char × Option (List Char)
  | [] => ([], none)
  | c :: cs => if c = mark then ([], some cs) else (c :: (cut mark cs).1, (cut mark cs).2)

def ofString (s : String) : Location :=
  let (front, fragment) := cut '#' s.toList
  let (path, query) := cut '?' front
  { path := String.ofList path
    query := query.map String.ofList
    fragment := fragment.map String.ofList }

/-- A part behind its mark, if it is there. -/
def marked (mark : String) : Option String → String
  | some s => mark ++ s
  | none => ""

/-- A part behind its mark, if there is anything in it. -/
def markedUnlessEmpty (mark : String) (part : Option String) : String :=
  if part.getD "" = "" then "" else marked mark part

def text (l : Location) : String := l.path ++ marked "?" l.query ++ marked "#" l.fragment

/-- A cut loses nothing. -/
theorem cut_joined (mark : Char) (cs : List Char) :
    (cut mark cs).1 ++ (match (cut mark cs).2 with
      | some rest => mark :: rest
      | none => []) = cs := by
  induction cs with
  | nil => rfl
  | cons c cs ih =>
    rw [cut]
    split
    · rename_i h
      simp [h]
    · exact congrArg (c :: ·) ih

/-- What is read from an address is all of it. -/
theorem text_ofString (s : String) : (ofString s).text = s := by
  apply String.toList_injective
  have whole := cut_joined '#' s.toList
  have front := cut_joined '?' (cut '#' s.toList).1
  rw [ofString, text]
  simp only [String.toList_append, String.toList_ofList]
  rw [← front, List.append_assoc] at whole
  rw [List.append_assoc]
  refine Eq.trans (congrArg _ ?_) whole
  cases (cut '?' (cut '#' s.toList).1).2 <;> cases (cut '#' s.toList).2 <;>
    simp [marked, String.toList_append]

/-- The query with its mark, empty when there is nothing in it. -/
def search (l : Location) : String := markedUnlessEmpty "?" l.query

/-- The fragment with its mark, empty when there is nothing in it. -/
def hash (l : Location) : String := markedUnlessEmpty "#" l.fragment

/-- The address with another query. -/
def withQuery (query : String) (l : Location) : String :=
  l.path ++ markedUnlessEmpty "?" (some query) ++ l.hash

end Location

/-- How a browser behaves towards a page.  Where there is `noWindow` the query is
    empty and cannot be replaced; where it is `readOnly` it can be read, but
    replacing it fails. -/
inductive Mode where
  | normal
  | noWindow
  | readOnly
deriving DecidableEq, Repr

/-- A browser window as a page sees it, with what stands in its address bar. -/
structure Window where
  mode : Mode := .normal
  address : String
deriving DecidableEq, Repr

namespace Window

def location (w : Window) : Location := .ofString w.address

/-- The query of the page with its mark. -/
def currentQuery (w : Window) : String :=
  match w.mode with
  | .noWindow => ""
  | _ => w.location.search

/-- Put another query into the address bar. -/
def replaceQuery (query : String) (w : Window) : Window :=
  match w.mode with
  | .normal => { w with address := w.location.withQuery query }
  | _ => w

/-- Go to a path of the application. -/
def go (path : String) (w : Window) : Window := { w with address := path }

end Window

end ResourceCatalog.Browser
