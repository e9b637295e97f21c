/-
  ResourceCatalog/Charset/Alphabet.lean
  =====================================
  **Charsets in which each byte is a character.**

  The bytes of ASCII stand for themselves.  Of the others a grid gives the characters of
  those that do not stand for the code point of the same number; U+FFFD is at bytes that
  are no character.
-/
import ResourceCatalog.Charset.Grid

namespace ResourceCatalog.Charset.Alphabet

/-- The character of a byte. -/
def char (alphabet : Grid) (b : Nat) : Char := (alphabet.char? b).getD (Char.ofNat b)

def read (alphabet : Grid) (bs : List UInt8) : List Char := bs.map (fun b => char alphabet b.toNat)

/-! ### Standards -/

/-- Cyrillic letters and box drawing. -/
def ibm866 : Grid :=
  [(0x80, "АБВГДЕЖЗИЙКЛМНОПРСТУФХЦЧШЩЪЫЬЭЮЯ"),
   (0xA0, "абвгдежзийклмноп░▒▓│┤╡╢╖╕╣║╗╝╜╛┐"),
   (0xC0, "└┴┬├─┼╞╟╚╔╩╦╠═╬╧╨╤╥╙╘╒╓╫╪┘┌█▄▌▐▀"),
   (0xE0, "рстуфхцчшщъыьэюяЁёЄєЇїЎў°∙·√№¤■\u00A0")]

/-- Letters of central and eastern Europe. -/
def latin2 : Grid :=
  [(0xA1, "Ą˘Ł ĽŚ  ŠŞŤŹ ŽŻ ą˛ł ľśˇ šşťź˝žż"), (0xC0, "Ŕ  Ă ĹĆ Č Ę Ě  ĎĐŃŇ  Ő  ŘŮ Ű  Ţ"),
   (0xE0, "ŕ  ă ĺć č ę ě  ďđńň  ő  řů ű  ţ˙")]

/-- Letters of southern Europe. -/
def latin3 : Grid :=
  [(0xA1, "Ħ˘  �Ĥ  İŞĞĴ �Ż ħ    ĥ  ışğĵ �ż   � ĊĈ"), (0xD0, "�    Ġ  Ĝ    ŬŜ    � ċĉ"),
   (0xF0, "�    ġ  ĝ    ŭŝ˙")]

/-- Letters of northern Europe. -/
def latin4 : Grid :=
  [(0xA1, "ĄĸŖ ĨĻ  ŠĒĢŦ Ž  ą˛ŗ ĩļˇ šēģŧŊžŋ"), (0xC0, "Ā"),
   (0xC7, "ĮČ Ę Ė  ĪĐŅŌĶ     Ų   ŨŪ"), (0xE0, "ā"), (0xE7, "įč ę ė  īđņōķ     ų   ũū˙")]

/-- Cyrillic letters. -/
def cyrillic : Grid :=
  [(0xA1, "ЁЂЃЄЅІЇЈЉЊЋЌ ЎЏАБВГДЕЖЗИЙКЛМНОП"), (0xC0, "РСТУФХЦЧШЩЪЫЬЭЮЯабвгдежзийклмноп"),
   (0xE0, "рстуфхцчшщъыьэюя№ёђѓєѕіїјљњћќ§ўџ")]

/-- Arabic letters. -/
def arabic : Grid :=
  [(0xA1, "��� �������، �������������\u061B���\u061F"),
   (0xC0, "�\u0621\u0622\u0623\u0624\u0625\u0626\u0627\u0628\u0629\u062A\u062B\u062C\u062D"),
   (0xCE, "\u062E\u062F\u0630\u0631\u0632\u0633\u0634\u0635\u0636\u0637\u0638\u0639\u063A��"),
   (0xDD, "���"),
   (0xE0, "\u0640\u0641\u0642\u0643\u0644\u0645\u0646\u0647\u0648\u0649\u064A\u064B\u064C"),
   (0xED, "\u064D\u064E\u064F\u0650\u0651\u0652�������������")]

/-- Greek letters. -/
def greek : Grid :=
  [(0xA1, "‘’ €₯    ͺ   �―    ΄΅Ά ΈΉΊ Ό ΎΏ"), (0xC0, "ΐΑΒΓΔΕΖΗΘΙΚΛΜΝΞΟΠΡ�ΣΤΥΦΧΨΩΪΫάέήί"),
   (0xE0, "ΰαβγδεζηθικλμνξοπρςστυφχψωϊϋόύώ�")]

/-- Hebrew letters. -/
def hebrew : Grid :=
  [(0xA1, "�"), (0xAA, "×"), (0xBA, "÷    �"), (0xC0, "�������������������������������‗"),
   (0xE0, "\u05D0\u05D1\u05D2\u05D3\u05D4\u05D5\u05D6\u05D7\u05D8\u05D9\u05DA\u05DB\u05DC"),
   (0xED, "\u05DD\u05DE\u05DF\u05E0\u05E1\u05E2\u05E3\u05E4\u05E5\u05E6\u05E7\u05E8\u05E9"),
   (0xFA, "\u05EA��\u200E\u200F�")]

/-- Letters of northern Europe, in another order. -/
def latin6 : Grid :=
  [(0xA1, "ĄĒĢĪĨĶ ĻĐŠŦŽ ŪŊ ąēģīĩķ ļđšŧž―ūŋ"), (0xC0, "Ā"), (0xC7, "ĮČ Ę Ė    ŅŌ    Ũ Ų"),
   (0xE0, "ā"), (0xE7, "įč ę ė    ņō    ũ ų     ĸ")]

/-- Letters of the Baltic coast. -/
def latin7 : Grid :=
  [(0xA1, "”   „  Ø Ŗ    Æ    “   ø ŗ    æ"), (0xC0, "ĄĮĀĆ  ĘĒČ ŹĖĢĶĪĻŠŃŅ Ō   ŲŁŚŪ ŻŽ"),
   (0xE0, "ąįāć  ęēč źėģķīļšńņ ō   ųłśū żž’")]

/-- Letters of Celtic languages. -/
def latin8 : Grid :=
  [(0xA1, "Ḃḃ ĊċḊ Ẁ ẂḋỲ  ŸḞḟĠġṀṁ ṖẁṗẃṠỳẄẅṡ"), (0xD0, "Ŵ"), (0xD7, "Ṫ"), (0xDE, "Ŷ"),
   (0xF0, "ŵ"), (0xF7, "ṫ"), (0xFE, "ŷ")]

/-- Letters of western Europe, with the euro sign. -/
def latin9 : Grid :=
  [(0xA4, "€ Š š"), (0xB4, "Ž   ž   ŒœŸ")]

/-- Letters of south-eastern Europe. -/
def latin10 : Grid :=
  [(0xA1, "ĄąŁ€„Š š Ș Ź źŻ  ČłŽ”  žčș ŒœŸż   Ă Ć"), (0xD0, "ĐŃ   Ő ŚŰ    ĘȚ    ă ć"),
   (0xF0, "đń   ő śű    ęț")]

/-- Russian letters in the order of Latin ones, and box drawing. -/
def koi8Russian : Grid :=
  [(0x80, "─│┌┐└┘├┤┬┴┼▀▄█▌▐░▒▓⌠■∙√≈≤≥\u00A0⌡°²·÷"),
   (0xA0, "═║╒ё╓╔╕╖╗╘╙╚╛╜╝╞╟╠╡Ё╢╣╤╥╦╧╨╩╪╫╬©"),
   (0xC0, "юабцдефгхийклмнопярстужвьызшэщчъ"),
   (0xE0, "ЮАБЦДЕФГХИЙКЛМНОПЯРСТУЖВЬЫЗШЭЩЧЪ")]

/-- The same with letters of Ukrainian and Belarusian. -/
def koi8Ukrainian : Grid :=
  [(0x80, "─│┌┐└┘├┤┬┴┼▀▄█▌▐░▒▓⌠■∙√≈≤≥\u00A0⌡°²·÷"),
   (0xA0, "═║╒ёє╔ії╗╘╙╚╛ґў╞╟╠╡ЁЄ╣ІЇ╦╧╨╩╪ҐЎ©"),
   (0xC0, "юабцдефгхийклмнопярстужвьызшэщчъ"),
   (0xE0, "ЮАБЦДЕФГХИЙКЛМНОПЯРСТУЖВЬЫЗШЭЩЧЪ")]

/-- Letters of western Europe, in an order of their own. -/
def macRoman : Grid :=
  [(0x80, "ÄÅÇÉÑÖÜáàâäãåçéèêëíìîïñóòôöõúùûü"),
   (0xA0, "†°  §•¶ß® ™´¨≠ÆØ∞ ≤≥¥ ∂∑∏π∫ªºΩæø"),
   (0xC0, "¿¡¬√ƒ≈∆«»…\u00A0ÀÃÕŒœ–—“”‘’÷◊ÿŸ⁄€‹›ﬁﬂ"),
   (0xE0, "‡·‚„‰ÂÊÁËÈÍÎÏÌÓÔ\uF8FFÒÚÛÙıˆ˜¯˘˙˚¸˝˛ˇ")]

/-- Cyrillic letters, in an order of their own. -/
def macCyrillic : Grid :=
  [(0x80, "АБВГДЕЖЗИЙКЛМНОПРСТУФХЦЧШЩЪЫЬЭЮЯ"),
   (0xA0, "†°Ґ §•¶І® ™Ђђ≠Ѓѓ∞ ≤≥і ґЈЄєЇїЉљЊњ"),
   (0xC0, "јЅ¬√ƒ≈∆«»…\u00A0ЋћЌќѕ–—“”‘’÷„ЎўЏџ№Ёёя"),
   (0xE0, "абвгдежзийклмнопрстуфхцчшщъыьэю€")]

/-- Thai letters. -/
def thai : Grid :=
  [(0x80, "€    …"), (0x91, "‘’“”•–—"), (0xA1, "กขฃคฅฆงจฉชซฌญฎฏฐฑฒณดตถทธนบปผฝพฟ"),
   (0xC0, "ภมยรฤลฦวศษสหฬอฮฯะ\u0E31าำ\u0E34\u0E35\u0E36\u0E37\u0E38\u0E39\u0E3A����฿"),
   (0xE0, "เแโใไๅๆ\u0E47\u0E48\u0E49\u0E4A\u0E4B\u0E4C\u0E4D\u0E4E๏๐๑๒๓๔๕๖๗๘๙๚๛����")]

/-! ### Windows -/

/-- Letters of central and eastern Europe. -/
def windows1250 : Grid :=
  [(0x80, "€ ‚ „…†‡ ‰Š‹ŚŤŽŹ ‘’“”•–— ™š›śťžź ˇ˘Ł Ą    Ş"), (0xAF, "Ż  ˛ł     ąş Ľ˝ľż"),
   (0xC0, "Ŕ  Ă ĹĆ Č Ę Ě  ĎĐŃŇ  Ő  ŘŮ Ű  Ţ"), (0xE0, "ŕ  ă ĺć č ę ě  ďđńň  ő  řů ű  ţ˙")]

/-- Cyrillic letters. -/
def windows1251 : Grid :=
  [(0x80, "ЂЃ‚ѓ„…†‡€‰Љ‹ЊЌЋЏђ‘’“”•–— ™љ›њќћџ ЎўЈ Ґ  Ё Є"), (0xAF, "Ї  Ііґ   ё№є јЅѕї"),
   (0xC0, "АБВГДЕЖЗИЙКЛМНОПРСТУФХЦЧШЩЪЫЬЭЮЯ"),
   (0xE0, "абвгдежзийклмнопрстуфхцчшщъыьэюя")]

/-- Letters of western Europe. -/
def windows1252 : Grid :=
  [(0x80, "€ ‚ƒ„…†‡ˆ‰Š‹Œ Ž  ‘’“”•–—˜™š›œ žŸ")]

/-- Greek letters. -/
def windows1253 : Grid :=
  [(0x80, "€ ‚ƒ„…†‡ ‰ ‹     ‘’“”•–— ™ ›     ΅Ά"), (0xAA, "�    ―    ΄   ΈΉΊ Ό ΎΏ"),
   (0xC0, "ΐΑΒΓΔΕΖΗΘΙΚΛΜΝΞΟΠΡ�ΣΤΥΦΧΨΩΪΫάέήί"),
   (0xE0, "ΰαβγδεζηθικλμνξοπρςστυφχψωϊϋόύώ�")]

/-- Turkish letters. -/
def windows1254 : Grid :=
  [(0x80, "€ ‚ƒ„…†‡ˆ‰Š‹Œ    ‘’“”•–—˜™š›œ  Ÿ"), (0xD0, "Ğ"), (0xDD, "İŞ"), (0xF0, "ğ"),
   (0xFD, "ış")]

/-- Hebrew letters and vowels. -/
def windows1255 : Grid :=
  [(0x80, "€ ‚ƒ„…†‡ˆ‰ ‹     ‘’“”•–—˜™ ›"), (0xA4, "₪     ×"), (0xBA, "÷"),
   (0xC0, "\u05B0\u05B1\u05B2\u05B3\u05B4\u05B5\u05B6\u05B7\u05B8\u05B9\u05BA\u05BB\u05BC"),
   (0xCD, "\u05BD\u05BE\u05BF\u05C0\u05C1\u05C2\u05C3\u05F0\u05F1\u05F2\u05F3\u05F4�������"),
   (0xE0, "\u05D0\u05D1\u05D2\u05D3\u05D4\u05D5\u05D6\u05D7\u05D8\u05D9\u05DA\u05DB\u05DC"),
   (0xED, "\u05DD\u05DE\u05DF\u05E0\u05E1\u05E2\u05E3\u05E4\u05E5\u05E6\u05E7\u05E8\u05E9"),
   (0xFA, "\u05EA��\u200E\u200F�")]

/-- Arabic letters, and letters of French. -/
def windows1256 : Grid :=
  [(0x80, "€\u067E‚ƒ„…†‡ˆ‰\u0679‹Œ\u0686\u0698\u0688\u06AF‘’“”•–—\u06A9™\u0691›œ\u200C"),
   (0x9E, "\u200D\u06BA ،"), (0xAA, "\u06BE"), (0xBA, "\u061B    \u061F"),
   (0xC0, "\u06C1\u0621\u0622\u0623\u0624\u0625\u0626\u0627\u0628\u0629\u062A\u062B\u062C"),
   (0xCD, "\u062D\u062E\u062F\u0630\u0631\u0632\u0633\u0634\u0635\u0636 \u0637\u0638\u0639"),
   (0xDB, "\u063A\u0640\u0641\u0642\u0643 \u0644 \u0645\u0646\u0647\u0648     \u0649\u064A"),
   (0xF0, "\u064B\u064C\u064D\u064E \u064F\u0650 \u0651 \u0652  \u200E\u200F\u06D2")]

/-- Letters of the Baltic coast. -/
def windows1257 : Grid :=
  [(0x80, "€ ‚ „…†‡ ‰ ‹ ¨ˇ¸ ‘’“”•–— ™ › ¯˛  �   �  Ø Ŗ"), (0xAF, "Æ"), (0xB8, "ø ŗ    æ"),
   (0xC0, "ĄĮĀĆ  ĘĒČ ŹĖĢĶĪĻŠŃŅ Ō   ŲŁŚŪ ŻŽ"), (0xE0, "ąįāć  ęēč źėģķīļšńņ ō   ųłśū żž˙")]

/-- Vietnamese letters and tones. -/
def windows1258 : Grid :=
  [(0x80, "€ ‚ƒ„…†‡ˆ‰ ‹Œ    ‘’“”•–—˜™ ›œ  Ÿ"), (0xC3, "Ă"),
   (0xCC, "\u0300   Đ \u0309  Ơ"), (0xDD, "Ư\u0303    ă"), (0xEC, "\u0301   đ \u0323  ơ"),
   (0xFD, "ư₫")]

/-! ### Private use -/

/-- Each byte stands for a code point of private use. -/
def userDefined : Grid := [(0x80, String.ofList ((List.range' 0xF780 0x80).map Char.ofNat))]

end ResourceCatalog.Charset.Alphabet
