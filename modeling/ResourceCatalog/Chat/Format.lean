/-
  ResourceCatalog/Chat/Format.lean
  ================================
  **Light formatting of chat replies.**

  A reply is cut into lines, and each line, trimmed, is one block.  The first
  rule that applies decides: an empty line is a break, a line with two
  asterisks side by side is a paragraph with bold parts, then come bullets,
  numbered items and headers, and all else is a plain paragraph.
-/
import ResourceCatalog.Text.Digit
import ResourceCatalog.Text.Pieces
import ResourceCatalog.Text.Space

namespace ResourceCatalog.Chat

/-- A run of text in one weight. -/
structure Span where
  text : String
  isBold : Bool
deriving DecidableEq, Repr

/-- One line of a formatted reply; a blank one is kept for spacing. -/
inductive Block where
  | blank
  | paragraph (spans : List Span)
  | bullet (text : String)
  | numbered (marker : String) (text : String)
  | header (level : Nat) (text : String)
deriving DecidableEq, Repr

/-- Font size and weight of a header. -/
def headerStyle : Nat → String × String
  | 1 => ("20px", "bold")
  | 2 => ("18px", "bold")
  | _ => ("16px", "600")

/-! ### Bold parts -/

/-- Cut at pairs of asterisks, from the left and without overlap. -/
def boldPieces : List Char → List (List Char)
  | '*' :: '*' :: rest => [] :: boldPieces rest
  | c :: rest => Text.consPiece c (boldPieces rest)
  | [] => [[]]

/-- Every second piece is bold; pieces without characters are left out. -/
def boldSpans (bold : Bool) : List (List Char) → List Span
  | [] => []
  | p :: ps =>
    if p.isEmpty then boldSpans (!bold) ps
    else ⟨String.ofList p, bold⟩ :: boldSpans (!bold) ps

/-- Two asterisks stand side by side. -/
def hasBold : List Char → Bool
  | '*' :: '*' :: _ => true
  | _ :: rest => hasBold rest
  | [] => false

/-! ### Lines -/

/-- The text behind a leading bullet. -/
def bulletText? : List Char → Option (List Char)
  | '•' :: rest => some (Text.trimChars rest)
  | '-' :: rest => some (Text.trimChars rest)
  | _ => none

/-- Digits and a full stop, one white space, and some text behind it. -/
def numbered? (line : List Char) : Option (List Char × List Char) :=
  let digits := line.takeWhile Text.isDigit
  match line.dropWhile Text.isDigit with
  | '.' :: space :: text =>
    if digits.isEmpty || text.isEmpty || !Text.isSpace space then none
    else some (digits ++ ['.'], text)
  | _ => none

/-- The block of a trimmed line. -/
def blockOf (line : List Char) : Block :=
  if line.isEmpty then .blank
  else if hasBold line then .paragraph (boldSpans false (boldPieces line))
  else match bulletText? line with
    | some text => .bullet (String.ofList text)
    | none =>
      match numbered? line with
      | some (marker, text) => .numbered (String.ofList marker) (String.ofList text)
      | none =>
        let level := (line.takeWhile (· = '#')).length
        if level = 0 then .paragraph [⟨String.ofList line, false⟩]
        else .header level (String.ofList ((line.drop level).dropWhile Text.isSpace))

/-- One block for each line of a text. -/
def format (text : String) : List Block :=
  (Text.pieces '\n' text.toList).map (fun line => blockOf (Text.trimChars line))

end ResourceCatalog.Chat
