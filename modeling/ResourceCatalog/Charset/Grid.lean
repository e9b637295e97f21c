/-
  ResourceCatalog/Charset/Grid.lean
  =================================
  **Characters by their places.**

  A grid has its characters in rows.  A row gives the place of its first character,
  and the others follow one by one.  A blank in a row is a place that no character has.
  Rows are ordered by their places.
-/
import Std.Data.HashSet

namespace ResourceCatalog.Charset

/-- Rows of characters, each with the place of its first. -/
abbrev Grid := List (Nat × String)

namespace Grid

/-- The character at a place. -/
def char? (grid : Grid) (place : Nat) : Option Char :=
  match (grid.takeWhile (fun row => row.1 ≤ place)).getLast? with
  | some (first, row) => (row.toList[place - first]?).filter (· ≠ ' ')
  | none => none

/-- All characters, by their places. -/
def chars (grid : Grid) : List Char := grid.flatMap (fun row => row.2.toList.filter (· ≠ ' '))

/-- The characters of a range of code points that have no place, in order. -/
def others (grid : Grid) (first last : Nat) : Array Char :=
  let held := Std.HashSet.ofList (grid.chars.map Char.toNat)
  (((List.range' first (last + 1 - first)).map Char.ofNat).filter
    (fun c => !held.contains c.toNat)).toArray

end Grid

end ResourceCatalog.Charset
