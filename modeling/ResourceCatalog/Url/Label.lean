/-
  ResourceCatalog/Url/Label.lean
  ==============================
  **Labels, the parts of a host name between full stops.**

  A label is known in two forms: as it is read, and in ASCII.  A label that is given in
  ASCII with the mark of the encoded form is read through it, and has to be what its
  text stands for.  A label cannot start with a mark; a joiner has to follow a virama,
  or, if it keeps letters apart, to stand between letters that would join.

  In a name with letters that are written to the left, each label has one direction: it
  starts with a letter, ends, marks aside, with a letter or a digit, and has no letters
  of the other direction.  A label to the left does not mix the two kinds of digits.
-/
import ResourceCatalog.Unicode.Composed
import ResourceCatalog.Unicode.Direction
import ResourceCatalog.Unicode.Joining
import ResourceCatalog.Url.Folding
import ResourceCatalog.Url.Punycode

namespace ResourceCatalog.Url

/-- A label in both its forms, as it is read and in ASCII. -/
structure Label where
  text : List Char
  ascii : List Char
deriving DecidableEq, Repr

namespace Label

open Unicode (Direction Joining)

/-- What an encoded label starts with. -/
def encodedMark : List Char := "xn--".toList

/-- How long the text of an encoded label can be, and how long one can get in it. -/
def maxText : Nat := 1000

/-- How long the encoded form of a label can be. -/
def maxEncoded : Nat := 2000

def isAscii (cs : List Char) : Bool := cs.all (fun c => c.toNat < 0x80)

/-! ### Joiners -/

def nonJoiner : Char := '\u200C'

def joiner : Char := '\u200D'

/-- The next letter, with those passed over that do not keep letters from joining, joins
    to one of these sides. -/
def joins (sides : List Joining) (cs : List Char) : Bool :=
  match (cs.map Joining.ofChar).find? (· ≠ .transparent) with
  | some side => sides.contains side
  | none => false

/-- All joiners stand where they can; what stands in front is in reverse. -/
def joinersFit (front : List Char) : List Char → Bool
  | [] => true
  | c :: cs =>
    let fits :=
      if c = joiner ∨ c = nonJoiner then
        match front with
        | [] => false
        | previous :: _ =>
          Unicode.isVirama previous
            || (c = nonJoiner && joins [.left, .both] front && joins [.right, .both] cs)
      else true
    fits && joinersFit (c :: front) cs

/-- The text can be that of a label. -/
def isValid (text : List Char) : Bool :=
  !(text.head?.any Unicode.isMark) && joinersFit [] text
    && (isAscii text || text.length ≤ maxText)

/-! ### Reading -/

/-- Read a label through its encoded form, with the mark in front of it left out. -/
def ofEncoded? (encoded : List Char) : Option Label :=
  if encoded.getLast? = some '-' ∨ encoded.isEmpty ∨ !isAscii encoded
      ∨ maxEncoded < encoded.length then none
  else
    match Punycode.decode? encoded with
    | none => none
    | some text =>
      if Folding.fold? text = some text ∧ Unicode.composed text = text ∧ isValid text then
        some { text, ascii := encodedMark ++ encoded }
      else none

/-- Read a label whose characters have been folded and composed. -/
def ofChars? (cs : List Char) : Option Label :=
  if encodedMark.isPrefixOf cs then ofEncoded? (cs.drop encodedMark.length)
  else if isValid cs then
    some { text := cs, ascii := if isAscii cs then cs else encodedMark ++ Punycode.encode cs }
  else none

/-! ### Directions -/

/-- A letter or a digit that makes a name one with letters to the left. -/
def turnsLeft (c : Char) : Bool :=
  match Direction.ofChar c with
  | .rightToLeft | .arabicNumber => true
  | _ => false

/-- The directions in a label that starts to the right. -/
def fitsToRight (last : Direction) (all : List Direction) : Bool :=
  (last = .leftToRight || last = .europeanNumber)
    && all.all (fun d => d ≠ .rightToLeft && d ≠ .arabicNumber)

/-- The directions in a label that starts to the left. -/
def fitsToLeft (last : Direction) (all : List Direction) : Bool :=
  (last = .rightToLeft || last = .europeanNumber || last = .arabicNumber)
    && all.all (· ≠ .leftToRight)
    && !(all.contains .europeanNumber && all.contains .arabicNumber)

/-- The label has one direction. -/
def hasOneDirection (l : Label) : Bool :=
  let directions := l.text.map Direction.ofChar
  let last := (directions.reverse.find? (· ≠ .attached)).getD .attached
  match directions with
  | [] => true
  | .leftToRight :: _ => fitsToRight last directions
  | .rightToLeft :: _ => fitsToLeft last directions
  | _ => false

/-- The directions of labels that stand in one name. -/
def directionsFit (labels : List Label) : Bool :=
  if labels.any (fun l => l.text.any turnsLeft) then labels.all hasOneDirection else true

end Label

end ResourceCatalog.Url
