/-
  ResourceCatalog/Charset/Chinese/Big5.lean
  =========================================
  **Chinese text in the two bytes of Big5.**

  What the standard has and what Hong Kong has added have places of their own.  Four
  pairs stand for a letter and a mark each.
-/
import ResourceCatalog.Charset.Chinese.Taiwan
import ResourceCatalog.Charset.Chinese.HongKong
import ResourceCatalog.Charset.Reader

namespace ResourceCatalog.Charset.Big5

/-- The place of a pair, 157 for each first byte. -/
def place? (a b : Nat) : Option Nat :=
  if 0x40 ≤ b ∧ b ≤ 0x7E then some ((a - 0x81) * 157 + (b - 0x40))
  else if 0xA1 ≤ b ∧ b ≤ 0xFE then some ((a - 0x81) * 157 + (b - 0x62))
  else none

/-- The letters with marks at the places of four pairs. -/
def marked? : Nat → Option (List Char)
  | 1133 => some ['\u00CA', '\u0304']
  | 1135 => some ['\u00CA', '\u030C']
  | 1164 => some ['\u00EA', '\u0304']
  | 1166 => some ['\u00EA', '\u030C']
  | _ => none

def pair? (a b : Nat) : Option (List Char) :=
  (place? a b).bind (fun place =>
    marked? place <|> ((Taiwan.grid.char? place <|> HongKong.grid.char? place).map ([·])))

def reader : Reader (Option Nat) :=
  .ofPairs (fun _ => none) (fun b => 0x81 ≤ b && b ≤ 0xFE) pair?

end ResourceCatalog.Charset.Big5
