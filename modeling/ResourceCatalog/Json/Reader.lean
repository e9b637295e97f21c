/-
  ResourceCatalog/Json/Reader.lean
  ================================
  **Reading JSON text into trees.**

  The reader follows the grammar of JSON: four kinds of white space between
  tokens, no comma before a closing bracket, no control character inside a
  string.  Each reading gives what was read and the rest of the text; the rest
  is none when a fault was met.  The reader takes fuel; two units for each
  character and two more are enough, since every second step passes a character.
-/
import ResourceCatalog.Json.Tree

namespace ResourceCatalog.Json

/-! ### Tokens -/

/-- White space between tokens. -/
def isBlank (c : Char) : Bool := c = ' ' || c = '\n' || c = '\t' || c = '\r'

def skipBlanks (cs : List Char) : List Char := cs.dropWhile isBlank

/-- What a backslash and one more character stand for. -/
def escapeValue? : Char → Option Nat
  | '"' => some 0x22
  | '\\' => some 0x5C
  | '/' => some 0x2F
  | 'b' => some 0x08
  | 'f' => some 0x0C
  | 'n' => some 0x0A
  | 'r' => some 0x0D
  | 't' => some 0x09
  | _ => none

/-- Put a code unit in front of what was read behind it. -/
def consUnit (n : Nat) : Option (List Nat × List Char) → Option (List Nat × List Char)
  | some (ns, rest) => some (n :: ns, rest)
  | none => none

/-- The code units of a string whose opening quote has been passed. -/
def readUnits : List Char → Option (List Nat × List Char)
  | [] => none
  | '"' :: rest => some ([], rest)
  | '\\' :: 'u' :: a :: b :: c :: d :: rest =>
    match Text.valueIn? 16 [a, b, c, d] with
    | some n => consUnit n (readUnits rest)
    | none => none
  | '\\' :: e :: rest =>
    match escapeValue? e with
    | some n => consUnit n (readUnits rest)
    | none => none
  | c :: rest => if c = '\\' || c.toNat < 0x20 then none else consUnit c.toNat (readUnits rest)

/-- The first half of a surrogate pair. -/
def isLead (n : Nat) : Bool := 0xD800 ≤ n && n ≤ 0xDBFF

/-- The second half of a surrogate pair. -/
def isTrail (n : Nat) : Bool := 0xDC00 ≤ n && n ≤ 0xDFFF

/-- Characters of code units; none when a half of a surrogate pair stands alone. -/
def charsOfUnits? : List Nat → Option (List Char)
  | [] => some []
  | n :: m :: rest =>
    if isLead n then
      if isTrail m then
        (charsOfUnits? rest).map (Char.ofNat (0x10000 + (n - 0xD800) * 0x400 + (m - 0xDC00)) :: ·)
      else none
    else if isTrail n then none
    else (charsOfUnits? (m :: rest)).map (Char.ofNat n :: ·)
  | [n] => if isLead n || isTrail n then none else some [Char.ofNat n]

/-- A string whose opening quote has been passed. -/
def readString (cs : List Char) : Tree × Option (List Char) :=
  match readUnits cs with
  | some (ns, rest) => (.string ((charsOfUnits? ns).map String.ofList), some rest)
  | none => (.broken, none)

/-- The run of digits at the start. -/
def takeDigits (cs : List Char) : List Nat :=
  (cs.takeWhile Text.isDigit).map (fun c => c.toNat - 0x30)

def dropDigits (cs : List Char) : List Char := cs.dropWhile Text.isDigit

/-- The digits before the point: at least one, and nothing behind a leading zero. -/
def readWhole (cs : List Char) : Option (List Nat × List Char) :=
  match takeDigits cs with
  | [] => none
  | 0 :: _ :: _ => none
  | ds => some (ds, dropDigits cs)

/-- The digits behind a point, if there is one. -/
def readFraction : List Char → Option (List Nat × List Char)
  | '.' :: rest =>
    match takeDigits rest with
    | [] => none
    | ds => some (ds, dropDigits rest)
  | cs => some ([], cs)

/-- The digits of an exponent behind its sign. -/
def readExponentDigits (negative : Bool) (cs : List Char) :
    Option (Option (Bool × List Nat) × List Char) :=
  match takeDigits cs with
  | [] => none
  | ds => some (some (negative, ds), dropDigits cs)

def readExponentSign : List Char → Option (Option (Bool × List Nat) × List Char)
  | '+' :: rest => readExponentDigits false rest
  | '-' :: rest => readExponentDigits true rest
  | cs => readExponentDigits false cs

/-- The exponent, if there is one. -/
def readExponent : List Char → Option (Option (Bool × List Nat) × List Char)
  | 'e' :: rest => readExponentSign rest
  | 'E' :: rest => readExponentSign rest
  | cs => some (none, cs)

/-- A number behind its sign. -/
def readUnsigned (negative : Bool) (cs : List Char) : Option (Number × List Char) := do
  let (whole, cs) ← readWhole cs
  let (fraction, cs) ← readFraction cs
  let (exponent, cs) ← readExponent cs
  return (⟨negative, whole, fraction, exponent⟩, cs)

def readNumber (cs : List Char) : Tree × Option (List Char) :=
  let read := match cs with
    | '-' :: rest => readUnsigned true rest
    | cs => readUnsigned false cs
  match read with
  | some (n, rest) => (.number n, some rest)
  | none => (.broken, none)

/-! ### Values -/

mutual

/-- One value, behind any white space. -/
def readValue : Nat → List Char → Tree × Option (List Char)
  | 0, _ => (.broken, none)
  | fuel + 1, cs =>
    match skipBlanks cs with
    | 'n' :: 'u' :: 'l' :: 'l' :: rest => (.null, some rest)
    | 't' :: 'r' :: 'u' :: 'e' :: rest => (.bool true, some rest)
    | 'f' :: 'a' :: 'l' :: 's' :: 'e' :: rest => (.bool false, some rest)
    | '"' :: rest => readString rest
    | '[' :: rest =>
      match skipBlanks rest with
      | ']' :: rest => (.array [] true, some rest)
      | rest =>
        let (items, after) := readItems fuel rest
        (.array items after.isSome, after)
    | '\x7b' :: rest =>
      match skipBlanks rest with
      | '\x7d' :: rest => (.object [] true, some rest)
      | rest =>
        let (members, after) := readMembers fuel rest
        (.object members after.isSome, after)
    | cs => readNumber cs

/-- The items of an array, up to and with its closing bracket. -/
def readItems : Nat → List Char → List Tree × Option (List Char)
  | 0, _ => ([], none)
  | fuel + 1, cs =>
    match readValue fuel cs with
    | (item, none) => ([item], none)
    | (item, some rest) =>
      match skipBlanks rest with
      | ']' :: rest => ([item], some rest)
      | ',' :: rest =>
        let (items, after) := readItems fuel rest
        (item :: items, after)
      | _ => ([item], none)

/-- The members of an object, up to and with its closing brace. -/
def readMembers : Nat → List Char → List (Tree × Tree) × Option (List Char)
  | 0, _ => ([], none)
  | fuel + 1, cs =>
    match skipBlanks cs with
    | '"' :: rest =>
      match readString rest with
      | (key, none) => ([(key, .broken)], none)
      | (key, some rest) =>
        match skipBlanks rest with
        | ':' :: rest =>
          match readValue fuel rest with
          | (value, none) => ([(key, value)], none)
          | (value, some rest) =>
            match skipBlanks rest with
            | '\x7d' :: rest => ([(key, value)], some rest)
            | ',' :: rest =>
              let (members, after) := readMembers fuel rest
              ((key, value) :: members, after)
            | _ => ([(key, value)], none)
        | _ => ([(key, .broken)], none)
    | cs => ([((readValue fuel cs).1, .broken)], none)

end

/-- A text read as one value.  It `ends` when nothing but white space stands
    behind the value. -/
structure Document where
  root : Tree
  ends : Bool

/-- Read a whole text. -/
def Document.ofString (s : String) : Document :=
  let cs := s.toList
  match readValue (2 * cs.length + 2) cs with
  | (root, some rest) => ⟨root, (skipBlanks rest).isEmpty⟩
  | (root, none) => ⟨root, false⟩

end ResourceCatalog.Json
