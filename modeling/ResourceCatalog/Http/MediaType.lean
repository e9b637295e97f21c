/-
  ResourceCatalog/Http/MediaType.lean
  ===================================
  **What a content type says.**

  A content type is a type and a subtype with parameters behind them.  One that breaks
  the grammar anywhere says nothing.  Text is in the charset that the first parameter of
  that name gives, and in UTF-8 if there is none or its value is not known.
-/
import ResourceCatalog.Charset.Decode

namespace ResourceCatalog.Http

/-- A parameter of a content type. -/
structure Parameter where
  name : List Char
  value : List Char
deriving DecidableEq, Repr

namespace MediaType

/-- A character of names, and of values that are not quoted. -/
def isToken (c : Char) : Bool :=
  let n := c.toNat
  Text.isDigit c || (0x41 ≤ n && n ≤ 0x5A) || (0x61 ≤ n && n ≤ 0x7A)
    || "!#$%&'*+-.^_`|~".toList.contains c

/-- A character that can stand between quotes. -/
def isQuotable (c : Char) : Bool := 0x20 ≤ c.toNat && c.toNat < 0x7F

/-- A value between quotes and what follows it, behind the first quote.  It is not
    empty, and a quote at its start is part of it. -/
def readQuoted? : List Char → Option (List Char × List Char)
  | [] => none
  | c :: rest =>
    let (more, rest) := rest.span (fun d => d ≠ '"' && isQuotable d)
    match isQuotable c, rest with
    | true, '"' :: rest =>
      match rest.dropWhile (· = ' ') with
      | [] => some (c :: more, [])
      | ';' :: rest => some (c :: more, rest)
      | _ => none
    | _, _ => none

/-- A value without quotes and what follows it.  Only the last one can be empty. -/
def readPlain? (cs : List Char) : Option (List Char × List Char) :=
  match cs.span isToken with
  | (value, []) => some (value, [])
  | (c :: cs, ';' :: rest) => some (c :: cs, rest)
  | _ => none

/-- A value and what follows it. -/
def readValue? : List Char → Option (List Char × List Char)
  | '"' :: rest => readQuoted? rest
  | cs => readPlain? cs

/-- A parameter and what follows it. -/
def readParameter? (cs : List Char) : Option (Parameter × List Char) :=
  match cs.span isToken with
  | (c :: cs, '=' :: rest) =>
    (readValue? rest).map (fun (value, rest) => (⟨c :: cs, value⟩, rest))
  | _ => none

/-- Parameters, in as many steps at most. -/
def readParameters? : Nat → List Char → Option (List Parameter)
  | 0, _ => none
  | steps + 1, cs =>
    match cs.dropWhile (· = ' ') with
    | [] => some []
    | c :: cs =>
      match readParameter? (c :: cs) with
      | some (parameter, rest) => (readParameters? steps rest).map (parameter :: ·)
      | none => none

/-- The parameters of a content type.  A blank can stand for the first semicolon. -/
def parameters? (cs : List Char) : Option (List Parameter) :=
  match cs.span isToken with
  | (_ :: _, '/' :: rest) =>
    match rest.span isToken with
    | (_ :: _, c :: rest) =>
      if c = ';' || c = ' ' then readParameters? (rest.length + 1) rest else none
    | (_, []) => some []
    | _ => none
  | _ => none

/-- A blank that can stand around the value of a header. -/
def isBlank (c : Char) : Bool := c = ' ' || c = '\t'

/-- The label of the charset that a content type names. -/
def charsetLabel? (contentType : String) : Option (List Char) :=
  let cs := Text.dropEndWhile isBlank (contentType.toList.dropWhile isBlank)
  (parameters? cs).bind (fun parameters =>
    (parameters.find? (fun p => p.name.map Text.lower = "charset".toList)).map (·.value))

/-- The charset that a content type says text is in. -/
def charset (contentType : Option String) : Charset :=
  ((contentType.bind charsetLabel?).bind Charset.ofLabel?).getD .utf8

end MediaType

/-- The text of a body. -/
def bodyText (contentType : Option String) (body : List UInt8) : String :=
  (MediaType.charset contentType).decode body

end ResourceCatalog.Http
