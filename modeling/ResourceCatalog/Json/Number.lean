/-
  ResourceCatalog/Json/Number.lean
  ================================
  **Numbers as they are written in JSON.**

  A number is kept as its digits.  Only two things are ever asked of it: which
  unsigned 64-bit value it is, and, when some other kind of value was wanted,
  whether it is too large for a double.  The second follows from the way a
  double is made of a written number: up to nineteen or twenty leading digits
  that fit in 64 bits, rounded to a double, times a power of ten, rounded to a
  double as well.
-/
namespace ResourceCatalog.Json

/-- A number, digit by digit: those before the point, at least one, with no zero
    in front of others, those behind it, none when there is no point, and those of
    the exponent, which may be negative. -/
structure Number where
  negative : Bool
  whole : List Nat
  fraction : List Nat
  exponent : Option (Bool × List Nat)
deriving DecidableEq, Repr

/-- The value of a list of decimal digits. -/
def digitsValue (digits : List Nat) : Nat := digits.foldl (fun n d => n * 10 + d) 0

namespace Number

/-- The greatest unsigned value of 64 bits. -/
def maxUnsigned : Nat := 0xFFFFFFFFFFFFFFFF

/-- A number without point and exponent. -/
def isInteger (n : Number) : Bool := n.fraction.isEmpty && n.exponent.isNone

/-- The digits of an unsigned integer. -/
def ofNat (n : Nat) : Number :=
  { negative := false, whole := (Nat.toDigits 10 n).map (fun c => c.toNat - 0x30),
    fraction := [], exponent := none }

/-! ### Size -/

/-- The leading digits that fit in 64 bits, and how many digits were passed over. -/
structure Significand where
  value : Nat
  passedOver : Nat

/-- Take one more digit before the point: once one did not fit, none does. -/
def Significand.pushWhole (s : Significand) (d : Nat) : Significand :=
  if s.passedOver = 0 ∧ s.value * 10 + d ≤ maxUnsigned then { s with value := s.value * 10 + d }
  else { s with passedOver := s.passedOver + 1 }

/-- Take the digits behind the point while they fit; the count says how many did. -/
def takeFraction (value taken : Nat) : List Nat → Nat × Nat
  | [] => (value, taken)
  | d :: ds =>
    if value * 10 + d ≤ maxUnsigned then takeFraction (value * 10 + d) (taken + 1) ds
    else (value, taken)

/-- The nearest natural number of at most 53 significant bits, ties to even. -/
def roundTo53 (n : Nat) : Nat :=
  if n < 1 <<< 53 then n
  else
    let unit := 1 <<< (n.log2 - 52)
    let q := n / unit
    let r := n % unit
    if 2 * r < unit then q * unit
    else if unit < 2 * r then (q + 1) * unit
    else if q % 2 = 0 then q * unit
    else (q + 1) * unit

/-- The least product that is rounded past the greatest double. -/
def overflowThreshold : Nat := (1 <<< 54 - 1) <<< 970

/-- The number is too large for a double. -/
def isTooLarge (n : Number) : Bool :=
  if n.isInteger && digitsValue n.whole ≤ maxUnsigned then false
  else
    let s := n.whole.foldl Significand.pushWhole ⟨0, 0⟩
    let (value, taken) := takeFraction s.value 0 n.fraction
    let shift : Int := match n.exponent with
      | none => 0
      | some (true, ds) => -(digitsValue ds : Int)
      | some (false, ds) => digitsValue ds
    let power : Int := (s.passedOver : Int) - (taken : Int) + shift
    if value = 0 ∨ power < 0 then false
    else if 308 < power then true
    else overflowThreshold ≤ roundTo53 value * roundTo53 (Nat.pow 10 power.toNat)

end Number

end ResourceCatalog.Json
