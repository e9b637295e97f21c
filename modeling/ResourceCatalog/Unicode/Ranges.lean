/-
  ResourceCatalog/Unicode/Ranges.lean
  ===================================
  **Tables over code points.**

  Properties of characters are given by runs of code points.  Where each code point has
  a sequence of others of its own, a row gives these for code points that follow one
  another: sequences stand between blanks, and in a sequence code points, in
  hexadecimal, between full stops.
-/
import ResourceCatalog.Text.Digit
import ResourceCatalog.Text.Pieces

namespace ResourceCatalog.Unicode

/-- The code point is in one of the runs, each given by its first and last. -/
def inRanges (ranges : List (Nat × Nat)) (c : Char) : Bool :=
  ranges.any (fun r => r.1 ≤ c.toNat && c.toNat ≤ r.2)

/-- A sequence of code points. -/
def readSequence (cs : List Char) : List Char :=
  (Text.pieces '.' cs).map (fun digits => Char.ofNat ((Text.valueIn? 16 digits).getD 0))

/-- The code points of a row with their sequences. -/
def readRow (row : Nat × String) : List (Nat × List Char) :=
  (Text.pieces ' ' row.2.toList).mapIdx (fun i cs => (row.1 + i, readSequence cs))

end ResourceCatalog.Unicode
