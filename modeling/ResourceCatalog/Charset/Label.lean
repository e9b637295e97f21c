/-
  ResourceCatalog/Charset/Label.lean
  ==================================
  **Charsets and what they are called.**

  A charset goes by many labels.  Some labels stand for a wider charset than the one
  that they were made for, since that is what text under them is written in.  Some
  charsets are refused: text in them could be read as something that it is not.
-/
import ResourceCatalog.Charset.Alphabet
import ResourceCatalog.Text.Digit
import ResourceCatalog.Text.Space

namespace ResourceCatalog

/-- How bytes make up a text; by `bytes` each byte is a character. -/
inductive Charset where
  | utf8
  | utf16 (bigEndian : Bool)
  | bytes (alphabet : Charset.Grid)
  | shiftJis
  | eucJp
  | iso2022Jp
  | eucKr
  | gb18030
  | big5
  | refused
deriving DecidableEq, Repr

namespace Charset

/-! ### Labels -/

/-- Charsets for all of Unicode. -/
def unicodeLabels : List (Charset × List String) :=
  [(.utf8, ["unicode-1-1-utf-8", "unicode11utf8", "unicode20utf8", "utf-8", "utf8",
      "x-unicode20utf8"]),
   (.utf16 false, ["csunicode", "iso-10646-ucs-2", "ucs-2", "unicode", "unicodefeff", "utf-16",
      "utf-16le"]),
   (.utf16 true, ["unicodefffe", "utf-16be"])]

/-- Alphabets of standards. -/
def standardLabels : List (Charset × List String) :=
  [(.bytes Alphabet.ibm866, ["866", "cp866", "csibm866", "ibm866"]),
   (.bytes Alphabet.latin2, ["csisolatin2", "iso-8859-2", "iso-ir-101", "iso8859-2", "iso88592",
      "iso_8859-2", "iso_8859-2:1987", "l2", "latin2"]),
   (.bytes Alphabet.latin3, ["csisolatin3", "iso-8859-3", "iso-ir-109", "iso8859-3", "iso88593",
      "iso_8859-3", "iso_8859-3:1988", "l3", "latin3"]),
   (.bytes Alphabet.latin4, ["csisolatin4", "iso-8859-4", "iso-ir-110", "iso8859-4", "iso88594",
      "iso_8859-4", "iso_8859-4:1988", "l4", "latin4"]),
   (.bytes Alphabet.cyrillic, ["csisolatincyrillic", "cyrillic", "iso-8859-5", "iso-ir-144",
      "iso8859-5", "iso88595", "iso_8859-5", "iso_8859-5:1988"]),
   (.bytes Alphabet.arabic, ["arabic", "asmo-708", "csiso88596e", "csiso88596i",
      "csisolatinarabic", "ecma-114", "iso-8859-6", "iso-8859-6-e", "iso-8859-6-i", "iso-ir-127",
      "iso8859-6", "iso88596", "iso_8859-6", "iso_8859-6:1987"]),
   (.bytes Alphabet.greek, ["csisolatingreek", "ecma-118", "elot_928", "greek", "greek8",
      "iso-8859-7", "iso-ir-126", "iso8859-7", "iso88597", "iso_8859-7", "iso_8859-7:1987",
      "sun_eu_greek"]),
   (.bytes Alphabet.hebrew, ["csiso88598e", "csisolatinhebrew", "hebrew", "iso-8859-8",
      "iso-8859-8-e", "iso-ir-138", "iso8859-8", "iso88598", "iso_8859-8", "iso_8859-8:1988",
      "visual", "csiso88598i", "iso-8859-8-i", "logical"]),
   (.bytes Alphabet.latin6, ["csisolatin6", "iso-8859-10", "iso-ir-157", "iso8859-10", "iso885910",
      "l6", "latin6"]),
   (.bytes Alphabet.latin7, ["iso-8859-13", "iso8859-13", "iso885913"]),
   (.bytes Alphabet.latin8, ["iso-8859-14", "iso8859-14", "iso885914"]),
   (.bytes Alphabet.latin9, ["csisolatin9", "iso-8859-15", "iso8859-15", "iso885915",
      "iso_8859-15", "l9"]),
   (.bytes Alphabet.latin10, ["iso-8859-16"]),
   (.bytes Alphabet.koi8Russian, ["cskoi8r", "koi", "koi8", "koi8-r", "koi8_r"]),
   (.bytes Alphabet.koi8Ukrainian, ["koi8-ru", "koi8-u"]),
   (.bytes Alphabet.macRoman, ["csmacintosh", "mac", "macintosh", "x-mac-roman"]),
   (.bytes Alphabet.macCyrillic, ["x-mac-cyrillic", "x-mac-ukrainian"]),
   (.bytes Alphabet.thai, ["dos-874", "iso-8859-11", "iso8859-11", "iso885911", "tis-620",
      "windows-874"])]

/-- Alphabets of Windows, and one for private use. -/
def windowsLabels : List (Charset × List String) :=
  [(.bytes Alphabet.windows1250, ["cp1250", "windows-1250", "x-cp1250"]),
   (.bytes Alphabet.windows1251, ["cp1251", "windows-1251", "x-cp1251"]),
   (.bytes Alphabet.windows1252, ["ansi_x3.4-1968", "ascii", "cp1252", "cp819", "csisolatin1",
      "ibm819", "iso-8859-1", "iso-ir-100", "iso8859-1", "iso88591", "iso_8859-1",
      "iso_8859-1:1987", "l1", "latin1", "us-ascii", "windows-1252", "x-cp1252"]),
   (.bytes Alphabet.windows1253, ["cp1253", "windows-1253", "x-cp1253"]),
   (.bytes Alphabet.windows1254, ["cp1254", "csisolatin5", "iso-8859-9", "iso-ir-148", "iso8859-9",
      "iso88599", "iso_8859-9", "iso_8859-9:1989", "l5", "latin5", "windows-1254", "x-cp1254"]),
   (.bytes Alphabet.windows1255, ["cp1255", "windows-1255", "x-cp1255"]),
   (.bytes Alphabet.windows1256, ["cp1256", "windows-1256", "x-cp1256"]),
   (.bytes Alphabet.windows1257, ["cp1257", "windows-1257", "x-cp1257"]),
   (.bytes Alphabet.windows1258, ["cp1258", "windows-1258", "x-cp1258"]),
   (.bytes Alphabet.userDefined, ["x-user-defined"])]

/-- Charsets of eastern Asia, and those that are refused. -/
def asianLabels : List (Charset × List String) :=
  [(.shiftJis, ["csshiftjis", "ms932", "ms_kanji", "shift-jis", "shift_jis", "sjis", "windows-31j",
      "x-sjis"]),
   (.eucJp, ["cseucpkdfmtjapanese", "euc-jp", "x-euc-jp"]),
   (.iso2022Jp, ["csiso2022jp", "iso-2022-jp"]),
   (.eucKr, ["cseuckr", "csksc56011987", "euc-kr", "iso-ir-149", "korean", "ks_c_5601-1987",
      "ks_c_5601-1989", "ksc5601", "ksc_5601", "windows-949"]),
   (.gb18030, ["chinese", "csgb2312", "csiso58gb231280", "gb2312", "gb_2312", "gb_2312-80", "gbk",
      "iso-ir-58", "x-gbk", "gb18030"]),
   (.big5, ["big5", "big5-hkscs", "cn-big5", "csbig5", "x-x-big5"]),
   (.refused, ["csiso2022kr", "hz-gb-2312", "iso-2022-cn", "iso-2022-cn-ext", "iso-2022-kr",
      "replacement"])]

def labels : List (Charset × List String) :=
  unicodeLabels ++ standardLabels ++ windowsLabels ++ asianLabels

/-- A blank that can stand around a label. -/
def isBlank (c : Char) : Bool :=
  c = ' ' || c = '\t' || c = '\n' || c = '\x0C' || c = '\r'

/-- A label without blanks around it, in small letters. -/
def plainLabel (label : List Char) : String :=
  String.ofList ((Text.dropEndWhile isBlank (label.dropWhile isBlank)).map Text.lower)

/-- The charset of a label. -/
def ofLabel? (label : List Char) : Option Charset :=
  (labels.find? (fun entry => entry.2.contains (plainLabel label))).map (·.1)

end Charset

end ResourceCatalog
