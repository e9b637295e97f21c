/-
  ResourceCatalog/Charset/Chinese/Gb18030.lean
  ============================================
  **Chinese text in one, two or four bytes.**

  With both bytes from 0xA1 on, they are the row and the column in GB 2312.  The ideographs
  that have no place there come in their order in other pairs: first in those with a
  first byte below 0xA1, then in those with a second byte below 0xA1.  What is left
  has four bytes, of which the second and the fourth are digits.  There places go on with
  the code points that have no pair.
-/
import ResourceCatalog.Charset.Chinese.Gb2312
import ResourceCatalog.Charset.Reader

namespace ResourceCatalog.Charset.Gb18030

open Text.Utf8 (replacement)

/-! ### Pairs -/

/-- Places that follow one another, for code points that do so. -/
structure Run where
  place : Nat
  code : Nat
  count : Nat
deriving DecidableEq, Repr

/-- The code point at a place of one of the runs. -/
def runChar? (runs : List Run) (place : Nat) : Option Char :=
  (runs.find? (fun r => r.place ≤ place && place < r.place + r.count)).map
    (fun r => Char.ofNat (r.code + (place - r.place)))

/-- Private use, by the places of GB 2312. -/
def privateInRows : List Run :=
  [⟨104, 0xE766, 6⟩, ⟨161, 0xE76D, 1⟩, ⟨172, 0xE76E, 2⟩, ⟨186, 0xE770, 2⟩, ⟨365, 0xE772, 11⟩,
   ⟨462, 0xE77D, 8⟩, ⟨494, 0xE785, 8⟩, ⟨555, 0xE797, 9⟩, ⟨597, 0xE7A0, 15⟩, ⟨645, 0xE7AF, 13⟩,
   ⟨690, 0xE7C9, 4⟩, ⟨731, 0xE7CD, 21⟩, ⟨752, 0xE7FE, 3⟩, ⟨831, 0xE801, 15⟩, ⟨846, 0xE000, 564⟩,
   ⟨5165, 0xE810, 5⟩, ⟨8178, 0xE234, 658⟩]

/-- Private use, by the places behind rows. -/
def privateBehindRows : List Run :=
  [⟨0, 0xE4C6, 287⟩, ⟨288, 0xE5E6, 384⟩, ⟨757, 0xE7BC, 11⟩, ⟨792, 0xE7E2, 1⟩, ⟨795, 0xE7E3, 1⟩,
   ⟨797, 0xE7E4, 3⟩, ⟨854, 0xE7F4, 10⟩, ⟨8945, 0xE816, 3⟩, ⟨8972, 0xE831, 1⟩, ⟨8982, 0xE83B, 1⟩,
   ⟨9008, 0xE855, 1⟩]

/-- Marks, and characters that came later, at the places behind rows. -/
def behindRows : Grid :=
  [(287, "\u3000"), (672, "ˊˋ˙–―‥‵℅℉↖↗↘↙∕∟∣≒≦≧⊿═║╒╓╔╕╖╗╘╙╚╛╜╝╞╟╠╡╢╣╤╥╦╧╨╩╪"),
   (719, "╫╬╭╮╯╰╱╲╳▁▂▃▄▅▆▇█▉▊▋▌▍▎▏▓▔▕▼▽◢◣◤◥☉⊕〒〝〞"),
   (768, "〡〢〣〤〥〦〧〨〩㊣㎎㎏㎜㎝㎞㎡㏄㏎㏑㏒㏕︰￢￤ ℡㈱ ‐   ー゛゜ヽヾ〆ゝゞ﹉﹊﹋﹌﹍﹎﹏"),
   (815, "﹐﹑﹒﹔﹕﹖﹗﹙﹚﹛﹜﹝﹞﹟﹠﹡﹢﹣﹤﹥﹦﹨﹩﹪﹫〾⿰⿱⿲⿳⿴⿵⿶⿷⿸⿹⿺⿻〇"),
   (8923, "\uF92C\uF979\uF995\uF9E7\uF9F1\uFA0C\uFA0D﨎﨏﨑﨓﨔\uFA18﨟\uFA20﨡﨣﨤﨧﨨﨩⺁   ⺄㑳㑇⺈⺋龴㖞㘚㘎⺌"),
   (8958, "⺗㥮㤘龵㧏㧟㩳㧐龶龷㭎㱮"), (8970, "㳠⺧ 龸⺪䁖䅟⺮䌷⺳⺶⺷ 䎱䎬⺻䏝䓖䙡䙌龹䜣䜩䝼䞍⻊䥇䥺䥽䦂䦃䦅䦆䦟䦛䦷䦶龺 䲣䲟䲠䲡䱷䲢䴓䴔"),
   (9017, "䴕䴖䴗䴘䴙䶮龻")]

/-- The ideographs that have no place in GB 2312. -/
def otherIdeographs : Array Char := Gb2312.grid.others 0x4E00 0x9FA5

/-- The number of a second byte among all. -/
def column? (b : Nat) : Option Nat :=
  if 0x40 ≤ b ∧ b ≤ 0x7E then some (b - 0x40)
  else if 0x80 ≤ b ∧ b ≤ 0xFE then some (b - 0x41)
  else none

/-- The characters behind rows, 96 for each row, and ideographs from row 9 on. -/
def behindRows? (place : Nat) : Option Char :=
  behindRows.char? place <|> runChar? privateBehindRows place
    <|> (if 9 * 96 ≤ place then otherIdeographs[32 * 190 + (place - 9 * 96)]? else none)

def pair? (a b : Nat) : Option Char :=
  (column? b).bind (fun column =>
    if a < 0xA1 then otherIdeographs[(a - 0x81) * 190 + column]?
    else if b < 0xA1 then behindRows? ((a - 0xA1) * 96 + column)
    else
      let place := (a - 0xA1) * 94 + (b - 0xA1)
      Gb2312.grid.char? place <|> runChar? privateInRows place)

/-! ### Four bytes -/

/-- Places from which code points follow one another, with the first of these. -/
def starts : List (Nat × Nat) :=
  [(0, 0x80), (36, 0xA5), (38, 0xA9), (45, 0xB2), (50, 0xB8), (81, 0xD8), (89, 0xE2), (95, 0xEB),
   (96, 0xEE), (100, 0xF4), (103, 0xF8), (104, 0xFB), (105, 0xFD), (109, 0x102), (126, 0x114),
   (133, 0x11C), (148, 0x12C), (172, 0x145), (175, 0x149), (179, 0x14E), (208, 0x16C),
   (306, 0x1CF), (307, 0x1D1), (308, 0x1D3), (309, 0x1D5), (310, 0x1D7), (311, 0x1D9),
   (312, 0x1DB), (313, 0x1DD), (341, 0x1FA), (428, 0x252), (443, 0x262), (544, 0x2C8),
   (545, 0x2CC), (558, 0x2DA), (741, 0x3A2), (742, 0x3AA), (749, 0x3C2), (750, 0x3CA),
   (805, 0x402), (819, 0x450), (820, 0x452), (7922, 0x2011), (7924, 0x2017), (7925, 0x201A),
   (7927, 0x201E), (7934, 0x2027), (7943, 0x2031), (7944, 0x2034), (7945, 0x2036),
   (7950, 0x203C), (8062, 0x20AD), (8148, 0x2104), (8149, 0x2106), (8152, 0x210A),
   (8164, 0x2117), (8174, 0x2122), (8236, 0x216C), (8240, 0x217A), (8262, 0x2194),
   (8264, 0x219A), (8374, 0x2209), (8380, 0x2210), (8381, 0x2212), (8384, 0x2216),
   (8388, 0x221B), (8390, 0x2221), (8392, 0x2224), (8393, 0x2226), (8394, 0x222C),
   (8396, 0x222F), (8401, 0x2238), (8406, 0x223E), (8416, 0x2249), (8419, 0x224D),
   (8424, 0x2253), (8437, 0x2262), (8439, 0x2268), (8445, 0x2270), (8482, 0x2296),
   (8485, 0x229A), (8496, 0x22A6), (8521, 0x22C0), (8603, 0x2313), (8936, 0x246A),
   (8946, 0x249C), (9046, 0x254C), (9050, 0x2574), (9063, 0x2590), (9066, 0x2596),
   (9076, 0x25A2), (9092, 0x25B4), (9100, 0x25BE), (9108, 0x25C8), (9111, 0x25CC),
   (9113, 0x25D0), (9131, 0x25E6), (9162, 0x2607), (9164, 0x260A), (9218, 0x2641),
   (9219, 0x2643), (11329, 0x2E82), (11331, 0x2E85), (11334, 0x2E89), (11336, 0x2E8D),
   (11346, 0x2E98), (11361, 0x2EA8), (11363, 0x2EAB), (11366, 0x2EAF), (11370, 0x2EB4),
   (11372, 0x2EB8), (11375, 0x2EBC), (11389, 0x2ECB), (11682, 0x2FFC), (11686, 0x3004),
   (11687, 0x3018), (11692, 0x301F), (11694, 0x302A), (11714, 0x303F), (11716, 0x3094),
   (11723, 0x309F), (11725, 0x30F7), (11730, 0x30FF), (11736, 0x312A), (11982, 0x322A),
   (11989, 0x3232), (12102, 0x32A4), (12336, 0x3390), (12348, 0x339F), (12350, 0x33A2),
   (12384, 0x33C5), (12393, 0x33CF), (12395, 0x33D3), (12397, 0x33D6), (12510, 0x3448),
   (12553, 0x3474), (12851, 0x359F), (12962, 0x360F), (12973, 0x361B), (13738, 0x3919),
   (13823, 0x396F), (13919, 0x39D1), (13933, 0x39E0), (14080, 0x3A74), (14298, 0x3B4F),
   (14585, 0x3C6F), (14698, 0x3CE1), (15583, 0x4057), (15847, 0x4160), (16318, 0x4338),
   (16434, 0x43AD), (16438, 0x43B2), (16481, 0x43DE), (16729, 0x44D7), (17102, 0x464D),
   (17122, 0x4662), (17315, 0x4724), (17320, 0x472A), (17402, 0x477D), (17418, 0x478E),
   (17859, 0x4948), (17909, 0x497B), (17911, 0x497E), (17915, 0x4984), (17916, 0x4987),
   (17936, 0x499C), (17939, 0x49A0), (17961, 0x49B8), (18664, 0x4C78), (18703, 0x4CA4),
   (18814, 0x4D1A), (18962, 0x4DAF), (19043, 0x9FA6), (33469, 0xE76C), (33470, 0xE7C8),
   (33471, 0xE7E7), (33484, 0xE815), (33485, 0xE819), (33490, 0xE81F), (33497, 0xE827),
   (33501, 0xE82D), (33505, 0xE833), (33513, 0xE83C), (33520, 0xE844), (33536, 0xE856),
   (33550, 0xE865), (37845, 0xF92D), (37921, 0xF97A), (37948, 0xF996), (38029, 0xF9E8),
   (38038, 0xF9F2), (38064, 0xFA10), (38065, 0xFA12), (38066, 0xFA15), (38069, 0xFA19),
   (38075, 0xFA22), (38076, 0xFA25), (38078, 0xFA2A), (39108, 0xFE32), (39109, 0xFE45),
   (39113, 0xFE53), (39114, 0xFE58), (39115, 0xFE67), (39116, 0xFE6C), (39265, 0xFF5F),
   (39394, 0xFFE6)]

/-- The place of four bytes. -/
def place (a b c d : Nat) : Nat :=
  (((a - 0x81) * 10 + (b - 0x30)) * 126 + (c - 0x81)) * 10 + (d - 0x30)

/-- The character at a place.  One code point of private use is out of order. -/
def placeChar? (n : Nat) : Option Char :=
  if n = 7457 then some '\uE7C7'
  else if n < 39420 then
    (starts.takeWhile (fun s => s.1 ≤ n)).getLast?.map (fun s => Char.ofNat (s.2 + (n - s.1)))
  else if 189000 ≤ n ∧ n ≤ 1237575 then some (Char.ofNat (0x10000 + (n - 189000)))
  else none

/-! ### Reading -/

/-- What has been begun. -/
inductive Begun where
  | nothing
  | one (a : Nat)
  | two (a b : Nat)
  | three (a b c : Nat)
deriving DecidableEq, Repr

/-- A byte that can be the first or the third. -/
def leads (b : Nat) : Bool := 0x81 ≤ b && b ≤ 0xFE

/-- A byte that can be the second or the last of four. -/
def isDigit (b : Nat) : Bool := 0x30 ≤ b && b ≤ 0x39

/-- A byte between characters. -/
def start (b : Nat) : List Char × Begun :=
  if b < 0x80 then ([Char.ofNat b], .nothing)
  else if b = 0x80 then (['€'], .nothing)
  else if leads b then ([], .one b)
  else ([replacement], .nothing)

/-- A byte behind a first one. -/
def second (a b : Nat) : List Char × Begun :=
  if isDigit b then ([], .two a b)
  else
    match pair? a b with
    | some c => ([c], .nothing)
    | none => Reader.misfit .nothing b

/-- A byte.  If the third or the fourth does not fit, the first is no character and the
    second is the digit that it is in ASCII. -/
def step : Begun → Nat → List Char × Begun
  | .nothing, b => start b
  | .one a, b => second a b
  | .two a b, c =>
    if leads c then ([], .three a b c)
    else
      let (out, next) := start c
      (replacement :: Char.ofNat b :: out, next)
  | .three a b c, d =>
    if isDigit d then ([(placeChar? (place a b c d)).getD replacement], .nothing)
    else
      let (out, next) := second c d
      (replacement :: Char.ofNat b :: out, next)

def reader : Reader Begun where
  start := .nothing
  step := step
  finish s := if s = .nothing then [] else [replacement]

end ResourceCatalog.Charset.Gb18030
