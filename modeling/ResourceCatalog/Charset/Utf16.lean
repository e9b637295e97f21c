/-
  ResourceCatalog/Charset/Utf16.lean
  ==================================
  **Text as UTF-16.**

  Two bytes are a unit.  A unit is a character, or the first or second half of one;
  a half alone is none.
-/
import ResourceCatalog.Charset.Reader

namespace ResourceCatalog.Charset.Utf16

open Text.Utf8 (replacement)

/-- What has been begun: the first byte of a unit, and the first half of a
    character. -/
structure Begun where
  byte : Option Nat
  half : Option Nat
deriving DecidableEq, Repr

def nothing : Begun := ⟨none, none⟩

def isFirstHalf (unit : Nat) : Bool := 0xD800 ≤ unit && unit ≤ 0xDBFF

def isSecondHalf (unit : Nat) : Bool := 0xDC00 ≤ unit && unit ≤ 0xDFFF

/-- A unit that does not end a character. -/
def start (unit : Nat) : List Char × Begun :=
  if isFirstHalf unit then ([], ⟨none, some unit⟩)
  else if isSecondHalf unit then ([replacement], nothing)
  else ([Char.ofNat unit], nothing)

/-- A unit behind what was begun. -/
def step : Option Nat → Nat → List Char × Begun
  | none, unit => start unit
  | some half, unit =>
    if isSecondHalf unit then
      ([Char.ofNat (0x10000 + (half - 0xD800) * 0x400 + (unit - 0xDC00))], nothing)
    else Reader.afterInvalid (start unit)

/-- Units of two bytes, the high one first or last. -/
def reader (bigEndian : Bool) : Reader Begun where
  start := nothing
  step
    | ⟨none, half⟩, b => ([], ⟨some b, half⟩)
    | ⟨some a, half⟩, b => step half (if bigEndian then a * 256 + b else b * 256 + a)
  finish s := if s = nothing then [] else [replacement]

end ResourceCatalog.Charset.Utf16
