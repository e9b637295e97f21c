/-
  ResourceCatalog/Unicode/Composed.lean
  =====================================
  **Texts in composed form.**

  A letter with marks can often be written in more than one way.  In the composed
  form the marks on a letter stand in the order of their classes, and a letter takes
  in the marks that it can, the first one first.  A mark that stands behind another of
  the same class is kept from its letter by it.
-/
import ResourceCatalog.Unicode.CombiningClass
import ResourceCatalog.Unicode.Composites

namespace ResourceCatalog.Unicode

/-! ### Syllables of Hangul -/

namespace Hangul

/-- The parts of a syllable: a leading consonant, a vowel, and maybe a consonant behind it. -/
def parts? (c : Char) : Option (List Char) :=
  let n := c.toNat
  if 0xAC00 ≤ n ∧ n ≤ 0xD7A3 then
    let i := n - 0xAC00
    let front := [Char.ofNat (0x1100 + i / 588), Char.ofNat (0x1161 + i % 588 / 28)]
    some (if i % 28 = 0 then front else front ++ [Char.ofNat (0x11A7 + i % 28)])
  else none

/-- The syllable of a consonant and a vowel, or of a syllable and a consonant behind it. -/
def join? (a b : Char) : Option Char :=
  let m := a.toNat
  let n := b.toNat
  if 0x1100 ≤ m ∧ m ≤ 0x1112 ∧ 0x1161 ≤ n ∧ n ≤ 0x1175 then
    some (Char.ofNat (0xAC00 + ((m - 0x1100) * 21 + (n - 0x1161)) * 28))
  else if 0xAC00 ≤ m ∧ m ≤ 0xD7A3 ∧ (m - 0xAC00) % 28 = 0 ∧ 0x11A8 ≤ n ∧ n ≤ 0x11C2 then
    some (Char.ofNat (m + (n - 0x11A7)))
  else none

end Hangul

/-! ### Parts -/

/-- What a character is made of. -/
def parts (c : Char) : List Char :=
  match Hangul.parts? c with
  | some cs => cs
  | none =>
    match composites.find? (fun e => e.1 = c.toNat) with
    | some e => e.2
    | none => [c]

/-- The character that is made of another one and a mark. -/
def join? (a b : Char) : Option Char :=
  match Hangul.join? a b with
  | some c => some c
  | none =>
    let whole := parts a ++ [b]
    (composites.find? (fun e => e.2 = whole)).map (fun e => Char.ofNat e.1)

/-- Put a character in front of a text, behind the marks of lower classes. -/
def putInOrder (c : Char) : List Char → List Char
  | [] => [c]
  | d :: ds =>
    if 0 < combiningClass d ∧ combiningClass d < combiningClass c then d :: putInOrder c ds
    else c :: d :: ds

/-- All characters in their parts, with marks in the order of their classes. -/
def decomposed (cs : List Char) : List Char := (cs.flatMap parts).foldr putInOrder []

/-! ### Joining the parts -/

/-- A letter takes in what follows it, as far as it can; the marks are those that stand
    between, the last one first. -/
def joinFrom (letter : Char) (marks : List Char) : List Char → List Char
  | [] => letter :: marks.reverse
  | c :: cs =>
    let apart := match marks with
      | [] => false
      | m :: _ => combiningClass c ≤ combiningClass m
    match if apart then none else join? letter c with
    | some joined => joinFrom joined marks cs
    | none =>
      if combiningClass c = 0 then letter :: marks.reverse ++ joinFrom c [] cs
      else joinFrom letter (c :: marks) cs

/-- Join the parts of a text. -/
def joinParts : List Char → List Char
  | [] => []
  | c :: cs => if combiningClass c = 0 then joinFrom c [] cs else c :: joinParts cs

/-- A text in composed form. -/
def composed (cs : List Char) : List Char := joinParts (decomposed cs)

end ResourceCatalog.Unicode
