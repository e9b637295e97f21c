/-
  ResourceCatalog/Charset/Decode.lean
  ===================================
  **Bytes read as text in a charset.**

  Reading never fails: what is no text in the charset is read as U+FFFD.  A byte order
  mark at the start says what the text is, whatever else is said about it, and is no
  part of it.
-/
import ResourceCatalog.Charset.Chinese.Big5
import ResourceCatalog.Charset.Chinese.Gb18030
import ResourceCatalog.Charset.Japanese.EucJp
import ResourceCatalog.Charset.Japanese.Iso2022Jp
import ResourceCatalog.Charset.Japanese.ShiftJis
import ResourceCatalog.Charset.Korean.EucKr
import ResourceCatalog.Charset.Label
import ResourceCatalog.Charset.Utf16

namespace ResourceCatalog.Charset

def decodeChars : Charset → List UInt8 → List Char
  | utf8, bs => Text.Utf8.decodeChars bs
  | utf16 bigEndian, bs => (Utf16.reader bigEndian).read bs
  | bytes alphabet, bs => Alphabet.read alphabet bs
  | shiftJis, bs => ShiftJis.reader.read bs
  | eucJp, bs => EucJp.reader.read bs
  | iso2022Jp, bs => Iso2022Jp.reader.read bs
  | eucKr, bs => EucKr.reader.read bs
  | gb18030, bs => Gb18030.reader.read bs
  | big5, bs => Big5.reader.read bs
  | refused, bs => if bs.isEmpty then [] else [Text.Utf8.replacement]

/-- The charset of a byte order mark at the start, and the bytes behind it. -/
def byteOrderMark? : List UInt8 → Option (Charset × List UInt8)
  | 0xEF :: 0xBB :: 0xBF :: rest => some (utf8, rest)
  | 0xFE :: 0xFF :: rest => some (utf16 true, rest)
  | 0xFF :: 0xFE :: rest => some (utf16 false, rest)
  | _ => none

/-- Read bytes that are said to be in a charset. -/
def decode (charset : Charset) (bs : List UInt8) : String :=
  match byteOrderMark? bs with
  | some (marked, rest) => String.ofList (marked.decodeChars rest)
  | none => String.ofList (charset.decodeChars bs)

end ResourceCatalog.Charset
