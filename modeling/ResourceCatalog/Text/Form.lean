/-
  ResourceCatalog/Text/Form.lean
  ==============================
  **Form-urlencoded name and value pairs.**

  Writing keeps the ASCII letters and digits and the characters star, hyphen,
  full stop and low line, writes a space as a plus sign, and every other byte of
  the UTF-8 text as a percent sign and two upper-case hexadecimal digits.

  Reading is lenient: pairs are cut at ampersands, empty ones are passed over,
  a pair without an equals sign has an empty value, a percent sign that two
  hexadecimal digits do not follow stands for itself, and bytes that are no
  UTF-8 are read as U+FFFD.  What is written is read back (`readText_writeText`).
-/
import ResourceCatalog.Text.Digit
import ResourceCatalog.Text.Pieces
import ResourceCatalog.Text.Utf8

namespace ResourceCatalog.Text.Form

/-! ### Writing -/

/-- Bytes that are written as themselves. -/
def isPlain (n : Nat) : Bool :=
  n == 0x2A || n == 0x2D || n == 0x2E || n == 0x5F
    || (0x30 ≤ n && n ≤ 0x39) || (0x41 ≤ n && n ≤ 0x5A) || (0x61 ≤ n && n ≤ 0x7A)

/-- The bytes that one byte is written as. -/
def writeByte (b : UInt8) : List UInt8 :=
  if isPlain b.toNat then [b]
  else if b = 0x20 then [0x2B]
  else
    [0x25, UInt8.ofNat (capitalDigit (b.toNat / 16)), UInt8.ofNat (capitalDigit (b.toNat % 16))]

def writeText (s : String) : List UInt8 := (Utf8.encode s).flatMap writeByte

def writePair (p : String × String) : List UInt8 := writeText p.1 ++ 0x3D :: writeText p.2

/-- The bytes of a list of pairs. -/
def writePairs (ps : List (String × String)) : List UInt8 := joined 0x26 (ps.map writePair)

/-- ASCII bytes as a text. -/
def asciiText (bs : List UInt8) : String := String.ofList (bs.map (fun b => Char.ofNat b.toNat))

/-- The written form of a list of pairs. -/
def write (ps : List (String × String)) : String := asciiText (writePairs ps)

/-! ### Reading -/

/-- The byte that a percent sign, followed by these two, stands for. -/
def escaped? (percent high low : UInt8) : Option UInt8 :=
  if percent = 0x25 then
    match digitValue? high.toNat, digitValue? low.toNat with
    | some h, some l => some (UInt8.ofNat (h * 16 + l))
    | _, _ => none
  else none

/-- Replace each percent sign and its two digits by the byte they stand for. -/
def percentDecode : List UInt8 → List UInt8
  | b :: h :: l :: rest =>
    match escaped? b h l with
    | some v => v :: percentDecode rest
    | none => b :: percentDecode (h :: l :: rest)
  | b :: rest => b :: percentDecode rest
  | [] => []

def plusToSpace (b : UInt8) : UInt8 := if b = 0x2B then 0x20 else b

/-- A name or a value. -/
def readText (bs : List UInt8) : String := Utf8.decode (percentDecode (bs.map plusToSpace))

/-- The pair in one piece between ampersands. -/
def readPair (bs : List UInt8) : String × String :=
  (readText (bs.takeWhile (· != 0x3D)), readText ((bs.dropWhile (· != 0x3D)).drop 1))

/-- The pairs in a sequence of bytes. -/
def readPairs (bs : List UInt8) : List (String × String) :=
  ((pieces 0x26 bs).filter (fun p => !p.isEmpty)).map readPair

/-- The pairs in a text. -/
def read (s : String) : List (String × String) := readPairs (Utf8.encode s)

/-! ### What is written is read back -/

theorem toNat_ofNat_capitalDigit {n : Nat} (h : n < 16) :
    (UInt8.ofNat (capitalDigit n)).toNat = capitalDigit n := by
  have : ∀ m : Fin 16, (UInt8.ofNat (capitalDigit m.val)).toNat = capitalDigit m.val := by
    decide
  exact this ⟨n, h⟩

/-- Any byte but a percent sign stands for itself, whatever follows. -/
theorem percentDecode_cons {b : UInt8} (h : b ≠ 0x25) (rest : List UInt8) :
    percentDecode (b :: rest) = b :: percentDecode rest := by
  match rest with
  | [] => rfl
  | [c] => rfl
  | c :: d :: cs => simp [percentDecode, escaped?, h]

/-- A written byte is read back, whatever follows. -/
theorem percentDecode_writeByte (b : UInt8) (rest : List UInt8) :
    percentDecode ((writeByte b ++ rest).map plusToSpace)
      = b :: percentDecode (rest.map plusToSpace) := by
  rw [writeByte]
  split
  · rename_i h
    have h25 : b ≠ 0x25 := fun e => absurd h (by rw [e]; decide)
    have h2B : b ≠ 0x2B := fun e => absurd h (by rw [e]; decide)
    simp only [List.cons_append, List.nil_append, List.map_cons]
    rw [plusToSpace, if_neg h2B, percentDecode_cons h25]
  · split
    · rename_i h
      subst h
      simp only [List.cons_append, List.nil_append, List.map_cons]
      exact percentDecode_cons (by decide) _
    · have hb : b.toNat < 256 := UInt8.toNat_lt b
      have hdigit : ∀ m : Fin 16, plusToSpace (UInt8.ofNat (capitalDigit m.val))
          = UInt8.ofNat (capitalDigit m.val) := by decide
      simp only [List.cons_append, List.nil_append, List.map_cons]
      rw [show plusToSpace 0x25 = 0x25 from rfl, hdigit ⟨b.toNat / 16, by omega⟩,
        hdigit ⟨b.toNat % 16, by omega⟩]
      rw [percentDecode, escaped?, if_pos rfl, toNat_ofNat_capitalDigit (by omega),
        toNat_ofNat_capitalDigit (by omega), digitValue?_capitalDigit (by omega),
        digitValue?_capitalDigit (by omega)]
      have : UInt8.ofNat (b.toNat / 16 * 16 + b.toNat % 16) = b := by
        rw [show b.toNat / 16 * 16 + b.toNat % 16 = b.toNat by omega]
        exact UInt8.ofNat_toNat
      simp only [this]

theorem percentDecode_flatMap_writeByte (bs : List UInt8) :
    percentDecode ((bs.flatMap writeByte).map plusToSpace) = bs := by
  induction bs with
  | nil => rfl
  | cons b bs ih => rw [List.flatMap_cons, percentDecode_writeByte, ih]

theorem readText_writeText (s : String) : readText (writeText s) = s := by
  rw [readText, writeText, percentDecode_flatMap_writeByte, Utf8.decode_encode]

end ResourceCatalog.Text.Form
