/-
  ResourceCatalog/Charset/Korean/EucKr.lean
  =========================================
  **Korean text in two bytes.**

  With both bytes from 0xA1 on, they are the row and the column in KS X 1001.  The
  syllables that have no place there come in their order in the other pairs, whose
  second bytes are letters of ASCII or start at 0x81.
-/
import ResourceCatalog.Charset.Korean.KsX1001
import ResourceCatalog.Charset.Reader

namespace ResourceCatalog.Charset.EucKr

/-- The syllables that have no place in KS X 1001. -/
def otherSyllables : Array Char := KsX1001.grid.others 0xAC00 0xD7A3

/-- The number of a second byte among those of the other syllables. -/
def column? (b : Nat) : Option Nat :=
  if 0x41 ≤ b ∧ b ≤ 0x5A then some (b - 0x41)
  else if 0x61 ≤ b ∧ b ≤ 0x7A then some (26 + (b - 0x61))
  else if 0x81 ≤ b ∧ b ≤ 0xFE then some (52 + (b - 0x81))
  else none

/-- The number of a pair among those of the other syllables: 178 for each first byte up
    to 0xA0, and 84 for each behind it. -/
def otherPlace? (a b : Nat) : Option Nat :=
  (column? b).map (fun column =>
    if a < 0xA1 then (a - 0x81) * 178 + column else 32 * 178 + (a - 0xA1) * 84 + column)

def pair? (a b : Nat) : Option Char :=
  if 0xA1 ≤ a ∧ 0xA1 ≤ b then
    if b ≤ 0xFE then KsX1001.grid.char? ((a - 0xA1) * 94 + (b - 0xA1)) else none
  else (otherPlace? a b).bind (otherSyllables[·]?)

def reader : Reader (Option Nat) :=
  .ofPairs (fun _ => none) (fun b => 0x81 ≤ b && b ≤ 0xFE) (fun a b => (pair? a b).map ([·]))

end ResourceCatalog.Charset.EucKr
