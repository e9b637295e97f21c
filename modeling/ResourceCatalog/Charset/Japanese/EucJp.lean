/-
  ResourceCatalog/Charset/Japanese/EucJp.lean
  ===========================================
  **Japanese text in pairs of high bytes.**

  A pair gives the row and the column in JIS X 0208.  One byte says that a narrow kana
  follows it, and another that a pair for JIS X 0212 does.
-/
import ResourceCatalog.Charset.Japanese.JisX0208
import ResourceCatalog.Charset.Japanese.JisX0212
import ResourceCatalog.Charset.Japanese.NarrowKana
import ResourceCatalog.Charset.Reader

namespace ResourceCatalog.Charset.EucJp

open Text.Utf8 (replacement)

/-- A byte that gives a row or a column, counted from 0xA1. -/
def isHigh (b : Nat) : Bool := 0xA1 ≤ b && b ≤ 0xFE

/-- What has been begun; `rarer` is a byte of JIS X 0212, behind the one that says
    so. -/
inductive Begun where
  | nothing
  | first (a : Nat)
  | rarer (a : Nat)
deriving DecidableEq, Repr

/-- The byte in front of a narrow kana. -/
def narrow : Nat := 0x8E

/-- The byte in front of a character of JIS X 0212. -/
def triple : Nat := 0x8F

/-- A byte between characters. -/
def start (b : Nat) : List Char × Begun :=
  if b < 0x80 then ([Char.ofNat b], .nothing)
  else if b = narrow ∨ b = triple ∨ isHigh b then ([], .first b)
  else ([replacement], .nothing)

/-- The character that two high bytes have in a grid. -/
def charOf (grid : Grid) (a b : Nat) : List Char × Begun :=
  ([(grid.char? ((a - 0xA1) * 94 + (b - 0xA1))).getD replacement], .nothing)

def step : Begun → Nat → List Char × Begun
  | .nothing, b => start b
  | .first a, b =>
    if a = narrow then
      match narrowKana? b with
      | some c => ([c], .nothing)
      | none => Reader.misfit .nothing b
    else if isHigh b then if a = triple then ([], .rarer b) else charOf JisX0208.grid a b
    else Reader.misfit .nothing b
  | .rarer a, b => if isHigh b then charOf JisX0212.grid a b else Reader.misfit .nothing b

def reader : Reader Begun where
  start := .nothing
  step := step
  finish s := if s = .nothing then [] else [replacement]

end ResourceCatalog.Charset.EucJp
