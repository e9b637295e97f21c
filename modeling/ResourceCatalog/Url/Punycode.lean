/-
  ResourceCatalog/Url/Punycode.lean
  =================================
  **Labels of host names in ASCII.**

  A label with characters beyond ASCII is written with its ASCII characters
  first and then, for the others in ascending order, how far each is from the
  place reached before it, in digits of base 36 whose weights adapt as they are
  written.  Reading puts each character back into its place.
-/
import ResourceCatalog.Text.Pieces

namespace ResourceCatalog.Url.Punycode

def digitChar (d : Nat) : Char := Char.ofNat (if d < 26 then 0x61 + d else 0x16 + d)

/-- The value from which the digit at a place goes on to another one. -/
def threshold (place bias : Nat) : Nat :=
  if place ≤ bias then 1 else if bias + 26 ≤ place then 26 else place - bias

/-- Divide until the difference is small enough for the bias; the count is of divisions. -/
def shrink : Nat → Nat → Nat → Nat × Nat
  | 0, delta, k => (delta, k)
  | fuel + 1, delta, k => if 455 < delta then shrink fuel (delta / 35) (k + 36) else (delta, k)

/-- The bias after a difference, for the number of characters written so far. -/
def adapt (delta count : Nat) (isFirst : Bool) : Nat :=
  let halved := if isFirst then delta / 700 else delta / 2
  let (delta, k) := shrink halved.log2.succ (halved + halved / count) 0
  k + 36 * delta / (delta + 38)

/-- The digits of a difference. -/
def digits : Nat → Nat → Nat → Nat → List Char
  | 0, _, _, _ => []
  | fuel + 1, q, place, bias =>
    let t := threshold place bias
    if q < t then [digitChar q]
    else digitChar (t + (q - t) % (36 - t)) :: digits fuel ((q - t) / (36 - t)) (place + 36) bias

/-- Where the writing of differences has come to. -/
structure Place where
  delta : Nat
  bias : Nat
  written : Nat
  isFirst : Bool

/-- Go over a label once, for the characters of one code point. -/
def pass (code : Nat) : List Nat → Place → Place × List Char
  | [], p => (p, [])
  | c :: cs, p =>
    if c < code then pass code cs { p with delta := p.delta + 1 }
    else if c = code then
      let out := digits (p.delta + 2) p.delta 36 p.bias
      let next : Place :=
        { delta := 0, bias := adapt p.delta (p.written + 1) p.isFirst,
          written := p.written + 1, isFirst := false }
      let (p, rest) := pass code cs next
      (p, out ++ rest)
    else pass code cs p

/-- The least code point of a label from a bound on. -/
def nextCode? (bound : Nat) (cs : List Nat) : Option Nat := (cs.filter (bound ≤ ·)).min?

/-- Write the characters beyond ASCII, one code point after the other. -/
def extended (cs : List Nat) : Nat → Nat → Place → List Char
  | 0, _, _ => []
  | fuel + 1, bound, p =>
    match nextCode? bound cs with
    | none => []
    | some code =>
      let start := { p with delta := p.delta + (code - bound) * (p.written + 1) }
      let (p, out) := pass code cs start
      out ++ extended cs fuel (code + 1) { p with delta := p.delta + 1 }

/-- The ASCII characters of a text, and where the others go. -/
def encode (cs : List Char) : List Char :=
  let ascii := cs.filter (fun c => c.toNat < 0x80)
  let start : Place := { delta := 0, bias := 72, written := ascii.length, isFirst := true }
  ascii ++ (if ascii.isEmpty then [] else ['-'])
    ++ extended (cs.map Char.toNat) cs.length 0x80 start

/-! ### Reading -/

/-- The value of a digit in base 36. -/
def digitValue? (c : Char) : Option Nat :=
  let n := c.toNat
  if 0x61 ≤ n ∧ n ≤ 0x7A then some (n - 0x61)
  else if 0x30 ≤ n ∧ n ≤ 0x39 then some (n - 0x16)
  else none

/-- Read a difference; what follows it comes second. -/
def readDifference (bias : Nat) : Nat → Nat → List Char → Option (Nat × List Char)
  | _, _, [] => none
  | place, weight, c :: cs =>
    match digitValue? c with
    | none => none
    | some d =>
      let t := threshold place bias
      if d < t then some (d * weight, cs)
      else
        (readDifference bias (place + 36) (weight * (36 - t)) cs).map
          (fun p => (d * weight + p.1, p.2))

/-- A code point that is a character. -/
def charOf? (n : Nat) : Option Char := if n.isValidChar then some (Char.ofNat n) else none

/-- Read differences and put the characters that they stand for into a text.  The code
    point and the place are those that were reached before. -/
def readExtended : Nat → List Char → Nat → Nat → Nat → List Char → Option (List Char)
  | _, [], _, _, _, text => some text
  | 0, _ :: _, _, _, _, _ => none
  | fuel + 1, c :: cs, code, place, bias, text =>
    match readDifference bias 36 1 (c :: cs) with
    | none => none
    | some (difference, rest) =>
      let count := text.length + 1
      let code := code + (place + difference) / count
      let at_ := (place + difference) % count
      match charOf? code with
      | none => none
      | some inserted =>
        readExtended fuel rest code (at_ + 1) (adapt difference count (place = 0))
          (text.take at_ ++ inserted :: text.drop at_)

/-- The text that was encoded, if this is one. -/
def decode? (cs : List Char) : Option (List Char) :=
  let pieces := Text.pieces '-' cs
  let ascii := ['-'].intercalate pieces.dropLast
  let differences := if ascii.isEmpty then cs else pieces.getLastD []
  readExtended differences.length differences 0x80 0 72 ascii

end ResourceCatalog.Url.Punycode
