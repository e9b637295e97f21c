/-
  ResourceCatalog/Json/Tree.lean
  ==============================
  **JSON texts as far as they can be read.**

  A text is read from left to right, and a value that is wanted from it may be
  refused before its end, for instance at a member given twice.  So a tree also
  exists for a text that is not well formed: it holds all that stands before
  the first fault, the place of the fault is a `broken` leaf or an array or
  object that is not closed, and nothing stands behind it.  A decoder that goes
  through the tree in order then meets faults of form and of shape in the order
  of the text.
-/
import ResourceCatalog.Json.Number
import ResourceCatalog.Text.Digit

namespace ResourceCatalog.Json

/-- A JSON text as far as it can be read.  A string is none when it holds half of
    a surrogate pair.  An object has members with their keys; only the last key
    can be other than a string, and then its value is broken.  The place of a
    fault is `broken`. -/
inductive Tree where
  | null
  | bool (b : Bool)
  | number (n : Number)
  | string (s : Option String)
  | array (items : List Tree) (closed : Bool)
  | object (members : List (Tree × Tree)) (closed : Bool)
  | broken
deriving Repr, Inhabited

namespace Tree

/-- A string that can be read. -/
def text (s : String) : Tree := .string (some s)

/-- A whole array. -/
def list (items : List Tree) : Tree := .array items true

/-- A whole object. -/
def record (members : List (String × Tree)) : Tree :=
  .object (members.map (fun m => (text m.1, m.2))) true

def nat (n : Nat) : Tree := .number (.ofNat n)

/-! ### Compact written form -/

/-- One character inside a string: quotes, backslashes and controls are escaped. -/
def writeChar (c : Char) : List Char :=
  if c = '"' then ['\\', '"']
  else if c = '\\' then ['\\', '\\']
  else if c.toNat = 0x08 then ['\\', 'b']
  else if c.toNat = 0x09 then ['\\', 't']
  else if c.toNat = 0x0A then ['\\', 'n']
  else if c.toNat = 0x0C then ['\\', 'f']
  else if c.toNat = 0x0D then ['\\', 'r']
  else if c.toNat < 0x20 then
    ['\\', 'u', '0', '0', Char.ofNat (Text.smallDigit (c.toNat / 16)),
      Char.ofNat (Text.smallDigit (c.toNat % 16))]
  else [c]

def writeString (s : String) : List Char := '"' :: s.toList.flatMap writeChar ++ ['"']

def writeDigits (ds : List Nat) : List Char := ds.map (fun d => Char.ofNat (0x30 + d))

def writeNumber (n : Number) : List Char :=
  (if n.negative then ['-'] else []) ++ writeDigits n.whole
    ++ (if n.fraction.isEmpty then [] else '.' :: writeDigits n.fraction)
    ++ (match n.exponent with
        | none => []
        | some (negative, ds) => 'e' :: (if negative then ['-'] else []) ++ writeDigits ds)

mutual

/-- The compact form of a tree. -/
def write : Tree → List Char
  | .null => "null".toList
  | .bool true => "true".toList
  | .bool false => "false".toList
  | .number n => writeNumber n
  | .string (some s) => writeString s
  | .string none => []
  | .array items closed => '[' :: writeItems items ++ (if closed then [']'] else [])
  | .object members closed => '\x7b' :: writeMembers members ++ (if closed then ['\x7d'] else [])
  | .broken => []

def writeItems : List Tree → List Char
  | [] => []
  | [t] => write t
  | t :: u :: ts => write t ++ ',' :: writeItems (u :: ts)

def writeMembers : List (Tree × Tree) → List Char
  | [] => []
  | [(k, v)] => write k ++ ':' :: write v
  | (k, v) :: m :: ms => write k ++ ':' :: write v ++ ',' :: writeMembers (m :: ms)

end

/-- The compact text of a tree. -/
def compact (t : Tree) : String := String.ofList t.write

end Tree

end ResourceCatalog.Json
