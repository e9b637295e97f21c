/-
  ResourceCatalog/Charset/Japanese/ShiftJis.lean
  ==============================================
  **Japanese text in two bytes around narrow kana.**

  The bytes of narrow kana stand alone, and those around them lead pairs.  A pair gives a
  place in JIS X 0208.
-/
import ResourceCatalog.Charset.Japanese.JisX0208
import ResourceCatalog.Charset.Japanese.NarrowKana
import ResourceCatalog.Charset.Reader

namespace ResourceCatalog.Charset.ShiftJis

/-- The place of a pair, 188 for each first byte. -/
def place? (a b : Nat) : Option Nat :=
  let row := if a < 0xA0 then a - 0x81 else a - 0xC1
  if 0x40 ≤ b ∧ b ≤ 0x7E then some (row * 188 + (b - 0x40))
  else if 0x80 ≤ b ∧ b ≤ 0xFC then some (row * 188 + (b - 0x41))
  else none

/-- The characters of pairs.  Places behind those of the standard are for private use. -/
def pair? (a b : Nat) : Option Char :=
  (place? a b).bind (fun place =>
    if 8836 ≤ place ∧ place ≤ 10715 then some (Char.ofNat (0xE000 + (place - 8836)))
    else JisX0208.grid.char? place)

def leads (b : Nat) : Bool := (0x81 ≤ b && b ≤ 0x9F) || (0xE0 ≤ b && b ≤ 0xFC)

def alone? (b : Nat) : Option Char := if b = 0x80 then some '\u0080' else narrowKana? b

def reader : Reader (Option Nat) := .ofPairs alone? leads (fun a b => (pair? a b).map ([·]))

end ResourceCatalog.Charset.ShiftJis
