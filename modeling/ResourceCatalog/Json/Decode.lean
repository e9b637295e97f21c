/-
  ResourceCatalog/Json/Decode.lean
  ================================
  **Typed values read from JSON.**

  A decoder takes a tree and gives a value or the first fault on the way.  The
  way is the order of the text: a key is looked at before its value, a member
  given twice is refused at its second key, and what is missing is noticed at
  the end of an object or array.

  Records are read from an object, in which members of unknown name are passed
  over, or from an array with the fields in their declared order.  Names of
  cases are read from a string, or from an object whose one key names the case.
-/
import ResourceCatalog.Json.Reader

namespace ResourceCatalog.Json

/-- Why a text is no value of the type asked for.  What is `malformed` is not well
    formed, or ends in the wrong place.  An `invalidValue` is a negative integer
    where an unsigned one was asked for, and an array of `invalidLength` ends
    before the last field it has to hold. -/
inductive Fault where
  | malformed
  | missingField (name : String)
  | duplicateField (name : String)
  | unknownVariant (name : String) (known : List String)
  | invalidType
  | invalidValue
  | invalidLength
deriving DecidableEq, Repr

namespace Fault

def quoted (name : String) : String := "`" ++ name ++ "`"

/-- The names of the known cases, for reading. -/
def expectedOf : List String → String
  | [a, b] => "expected " ++ quoted a ++ " or " ++ quoted b
  | [a] => "expected " ++ quoted a
  | names => "expected one of " ++ ", ".intercalate (names.map quoted)

/-- What is wrong with the shape of a well-formed text. -/
def message : Fault → String
  | malformed => "malformed"
  | missingField name => "missing field " ++ quoted name
  | duplicateField name => "duplicate field " ++ quoted name
  | unknownVariant name known => "unknown variant " ++ quoted name ++ ", " ++ expectedOf known
  | invalidType => "invalid type"
  | invalidValue => "invalid value"
  | invalidLength => "invalid length"

end Fault

/-- A way to read a value of some type. -/
abbrev Decoder (α : Type) := Tree → Except Fault α

/-- The fault of a tree that is of another kind than asked for.  Strings and
    numbers are read before their kind is found wrong; arrays and objects are not. -/
def mismatch : Tree → Fault
  | .broken => .malformed
  | .string none => .malformed
  | .number n => if n.isTooLarge then .malformed else .invalidType
  | _ => .invalidType

/-! ### Plain values -/

def decodeString : Decoder String
  | .string (some s) => .ok s
  | t => .error (mismatch t)

def decodeBool : Decoder Bool
  | .bool b => .ok b
  | t => .error (mismatch t)

/-- The magnitude of the least negative integer of 64 bits. -/
def minSignedMagnitude : Nat := 0x8000000000000000

/-- An unsigned integer of 64 bits. -/
def decodeNat : Decoder Nat
  | .number n =>
    let value := digitsValue n.whole
    if n.isInteger ∧ n.negative = false ∧ value ≤ Number.maxUnsigned then .ok value
    else if n.isInteger ∧ n.negative = true ∧ 0 < value ∧ value ≤ minSignedMagnitude then
      .error .invalidValue
    else .error (mismatch (.number n))
  | t => .error (mismatch t)

/-- A value or null. -/
def decodeOption {α : Type} (decode : Decoder α) : Decoder (Option α)
  | .null => .ok none
  | t => (decode t).map some

/-- The items of an array, in order. -/
def decodeItems {α : Type} (decode : Decoder α) : List Tree → Except Fault (List α)
  | [] => .ok []
  | t :: ts =>
    match decode t with
    | .error e => .error e
    | .ok a => (decodeItems decode ts).map (a :: ·)

def decodeList {α : Type} (decode : Decoder α) : Decoder (List α)
  | .array items closed =>
    match decodeItems decode items with
    | .error e => .error e
    | .ok as => if closed then .ok as else .error .malformed
  | t => .error (mismatch t)

/-! ### Records -/

/-- A field of a record that is read into a draft of type `σ`, with a test whether
    the draft holds it already. -/
structure Field (σ : Type) where
  name : String
  isSet : σ → Bool
  read : Tree → σ → Except Fault σ

/-- A field that is kept in the draft as an option. -/
def Field.of {σ α : Type} (name : String) (get : σ → Option α) (set : α → σ → σ)
    (decode : Decoder α) : Field σ :=
  { name
    isSet := fun draft => (get draft).isSome
    read := fun t draft => (decode t).map (fun a => set a draft) }

/-- How a record is read: an empty draft, its fields in declared order, and the
    record that a draft makes.  Finishing is told which fault a missing field is. -/
structure RecordForm (σ α : Type) where
  blank : σ
  fields : List (Field σ)
  finish : (String → Fault) → σ → Except Fault α

/-- The value of a field that has to be there. -/
def required {α : Type} (missing : String → Fault) (name : String) : Option α → Except Fault α
  | some a => .ok a
  | none => .error (missing name)

namespace RecordForm

variable {σ α : Type}

/-- Read members into the draft, in the order of the text. -/
def readMembers (fields : List (Field σ)) : List (Tree × Tree) → σ → Except Fault σ
  | [], draft => .ok draft
  | (.string (some key), value) :: rest, draft =>
    match fields.find? (fun f => f.name = key) with
    | none => readMembers fields rest draft
    | some f =>
      if f.isSet draft then .error (.duplicateField f.name)
      else
        match f.read value draft with
        | .error e => .error e
        | .ok draft => readMembers fields rest draft
  | _ :: _, _ => .error .malformed

/-- Read items into the fields, in their declared order. -/
def readItems : List (Field σ) → List Tree → σ → Except Fault σ
  | _, [], draft => .ok draft
  | [], _ :: _, _ => .error .malformed
  | f :: fields, t :: ts, draft =>
    match f.read t draft with
    | .error e => .error e
    | .ok draft => readItems fields ts draft

/-- Read a record from an object or from an array. -/
def decode (form : RecordForm σ α) : Decoder α
  | .object members closed =>
    match readMembers form.fields members form.blank with
    | .error e => .error e
    | .ok draft => if closed then form.finish .missingField draft else .error .malformed
  | .array items closed =>
    match readItems form.fields items form.blank with
    | .error e => .error e
    | .ok draft => if closed then form.finish (fun _ => .invalidLength) draft else .error .malformed
  | t => .error (mismatch t)

end RecordForm

/-! ### Cases -/

/-- A case of a type by its name, and how it is read from what the name leads to,
    which is none when only the name is given. -/
structure Case (α : Type) where
  name : String
  read : Option Tree → Except Fault α

/-- A case that is its name alone. -/
def Case.plain {α : Type} (name : String) (a : α) : Case α :=
  { name
    read := fun
      | none => .ok a
      | some .null => .ok a
      | some t => .error (mismatch t) }

/-- A case with a value beside its name. -/
def Case.holding {α β : Type} (name : String) (make : β → α) (decode : Decoder β) : Case α :=
  { name
    read := fun
      | none => .error .invalidType
      | some t => (decode t).map make }

/-- The case of a name. -/
def findCase {α : Type} (cases : List (Case α)) (name : String) : Except Fault (Case α) :=
  match cases.find? (fun c => c.name = name) with
  | some c => .ok c
  | none => .error (.unknownVariant name (cases.map Case.name))

/-- Read one of some cases. -/
def decodeCase {α : Type} (cases : List (Case α)) : Decoder α
  | .string (some name) =>
    match findCase cases name with
    | .error e => .error e
    | .ok c => c.read none
  | .object ((.string (some name), value) :: rest) closed =>
    match findCase cases name with
    | .error e => .error e
    | .ok c =>
      match c.read (some value) with
      | .error e => .error e
      | .ok a => if rest.isEmpty && closed then .ok a else .error .malformed
  | .object ((key, _) :: _) _ => .error (mismatch key)
  | _ => .error .malformed

/-! ### Whole texts -/

/-- Read a text as a value: the value first, then the end of the text. -/
def decodeText {α : Type} (decode : Decoder α) (s : String) : Except Fault α :=
  let document := Document.ofString s
  match decode document.root with
  | .error e => .error e
  | .ok a => if document.ends then .ok a else .error .malformed

end ResourceCatalog.Json
