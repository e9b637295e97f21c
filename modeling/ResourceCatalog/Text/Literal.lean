/-
  ResourceCatalog/Text/Literal.lean
  =================================
  **Texts in quotes, for the details of an error.**

  Quotes and backslashes take a backslash in front of them, tabs, line breaks
  and the null character have letters of their own, and any other character
  that cannot be shown by itself is written by its number in hexadecimal.
-/
import ResourceCatalog.Text.Glyphless

namespace ResourceCatalog.Text.Literal

/-- A number in small hexadecimal digits. -/
def hexadecimal (n : Nat) : List Char := Nat.toDigits 16 n

/-- How a character is written between quotes. -/
def writeChar (c : Char) : List Char :=
  if c = '\x00' then ['\\', '0']
  else if c = '\t' then ['\\', 't']
  else if c = '\r' then ['\\', 'r']
  else if c = '\n' then ['\\', 'n']
  else if c = '"' ∨ c = '\\' then ['\\', c]
  else if isGlyphless c then ['\\', 'u', '\x7b'] ++ hexadecimal c.toNat ++ ['\x7d']
  else [c]

/-- A text in quotes. -/
def write (s : String) : String := "\"" ++ String.ofList (s.toList.flatMap writeChar) ++ "\""

end ResourceCatalog.Text.Literal
