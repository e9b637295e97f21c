/-
  ResourceCatalog/Text/Utf8.lean
  ==============================
  **Texts as UTF-8 bytes, and bytes read as text.**

  Encoding is the core library's, character by character.  Reading never fails:
  bytes that are no UTF-8 are read as U+FFFD, one for each longest piece that
  begins some character, and reading goes on at the byte that did not fit.

  The reader is a machine that looks at one byte at a time.  Between characters
  it owes nothing; inside one it knows how many bytes are owed and the least and
  the greatest that the next may be, which is how overlong forms, surrogates and
  values past U+10FFFF are refused at the first byte that rules them out.
-/
namespace ResourceCatalog.Text.Utf8

/-- The bytes of a sequence of characters. -/
def encodeChars (cs : List Char) : List UInt8 := cs.flatMap String.utf8EncodeChar

/-- The bytes of a text. -/
def encode (s : String) : List UInt8 := encodeChars s.toList

/-- What stands for bytes that are no text. -/
def replacement : Char := '\uFFFD'

/-- A character whose first bytes have been read: how many bytes are owed, at
    least one, what the next one can be, and the bits read so far. -/
structure Partial where
  owed : Nat
  least : Nat
  greatest : Nat
  bits : Nat
deriving DecidableEq, Repr

/-- A byte met between characters: what is read off at once, and what is begun. -/
def start (b : Nat) : List Char × Option Partial :=
  if b < 0x80 then ([Char.ofNat b], none)
  else if 0xC2 ≤ b ∧ b ≤ 0xDF then ([], some ⟨1, 0x80, 0xBF, b - 0xC0⟩)
  else if 0xE0 ≤ b ∧ b ≤ 0xEF then
    ([], some ⟨2, if b = 0xE0 then 0xA0 else 0x80, if b = 0xED then 0x9F else 0xBF, b - 0xE0⟩)
  else if 0xF0 ≤ b ∧ b ≤ 0xF4 then
    ([], some ⟨3, if b = 0xF0 then 0x90 else 0x80, if b = 0xF4 then 0x8F else 0xBF, b - 0xF0⟩)
  else ([replacement], none)

/-- One byte.  A byte that does not go on with the character begun ends it as
    U+FFFD and is looked at again as the start of the next. -/
def step : Option Partial → Nat → List Char × Option Partial
  | none, b => start b
  | some p, b =>
    if p.least ≤ b ∧ b ≤ p.greatest then
      let bits := p.bits * 64 + (b - 0x80)
      if p.owed = 1 then ([Char.ofNat bits], none)
      else ([], some ⟨p.owed - 1, 0x80, 0xBF, bits⟩)
    else
      let (out, next) := start b
      (replacement :: out, next)

/-- Read bytes from a point inside or between characters. -/
def decodeFrom : Option Partial → List UInt8 → List Char
  | none, [] => []
  | some _, [] => [replacement]
  | st, b :: bs => (step st b.toNat).1 ++ decodeFrom (step st b.toNat).2 bs

/-- Read bytes as characters. -/
def decodeChars (bs : List UInt8) : List Char := decodeFrom none bs

/-- Read bytes as a text. -/
def decode (bs : List UInt8) : String := String.ofList (decodeChars bs)

/-- Read bytes that are UTF-8 throughout, and no others: they are what their
    reading is written as. -/
def decode? (bs : List UInt8) : Option String :=
  let s := decode bs
  if encode s = bs then some s else none

/-! ### Reading what was written -/

private theorem ofNat_toNat_lt {n : Nat} (h : n < 256) : (UInt8.ofNat n).toNat = n := by
  simp [UInt8.toNat_ofNat', Nat.mod_eq_of_lt h]

/-- A character's bytes are read as that character, whatever follows. -/
theorem decodeFrom_encodeChar (c : Char) (bs : List UInt8) :
    decodeFrom none (String.utf8EncodeChar c ++ bs) = c :: decodeFrom none bs := by
  have hv : c.val.toNat < 0xD800 ∨ (0xDFFF < c.val.toNat ∧ c.val.toNat < 0x110000) := c.valid
  have hc : Char.ofNat c.val.toNat = c := Char.ofNat_toNat c
  generalize hn : c.val.toNat = n at hv hc
  unfold String.utf8EncodeChar
  simp only [hn]
  split
  · rename_i h
    have h1 : (UInt8.ofNat n).toNat = n := ofNat_toNat_lt (by omega)
    simp [decodeFrom, step, start, h1, hc, show n < 128 by omega]
  · split
    · rename_i h0 h
      have h1 : (UInt8.ofNat (n / 64 % 32 + 192)).toNat = n / 64 + 192 := by
        rw [ofNat_toNat_lt (by omega)]; omega
      have h2 : (UInt8.ofNat (n % 64 + 128)).toNat = n % 64 + 128 := ofNat_toNat_lt (by omega)
      simp only [List.cons_append, List.nil_append, decodeFrom, step, start, h1, h2]
      rw [if_neg (by omega), if_pos (by omega)]
      simp only [Nat.add_sub_cancel]
      rw [if_pos (by omega), if_pos trivial]
      have : n / 64 * 64 + n % 64 = n := by omega
      simp [this, hc]
    · split
      · rename_i h0 h1' h
        have h1 : (UInt8.ofNat (n / 4096 % 16 + 224)).toNat = n / 4096 + 224 := by
          rw [ofNat_toNat_lt (by omega)]; omega
        have h2 : (UInt8.ofNat (n / 64 % 64 + 128)).toNat = n / 64 % 64 + 128 :=
          ofNat_toNat_lt (by omega)
        have h3 : (UInt8.ofNat (n % 64 + 128)).toNat = n % 64 + 128 := ofNat_toNat_lt (by omega)
        simp only [List.cons_append, List.nil_append, decodeFrom, step, start, h1, h2, h3]
        rw [if_neg (by omega), if_neg (by omega), if_pos (by omega)]
        simp only [Nat.add_sub_cancel]
        rw [if_pos (by constructor <;> split <;> omega), if_neg (by decide)]
        simp only [Nat.add_sub_cancel]
        rw [if_pos (by omega), if_pos trivial]
        have : (n / 4096 * 64 + n / 64 % 64) * 64 + n % 64 = n := by omega
        simp [this, hc]
      · rename_i h0 h1' h
        have h1 : (UInt8.ofNat (n / 262144 % 8 + 240)).toNat = n / 262144 + 240 := by
          rw [ofNat_toNat_lt (by omega)]; omega
        have h2 : (UInt8.ofNat (n / 4096 % 64 + 128)).toNat = n / 4096 % 64 + 128 :=
          ofNat_toNat_lt (by omega)
        have h3 : (UInt8.ofNat (n / 64 % 64 + 128)).toNat = n / 64 % 64 + 128 :=
          ofNat_toNat_lt (by omega)
        have h4 : (UInt8.ofNat (n % 64 + 128)).toNat = n % 64 + 128 := ofNat_toNat_lt (by omega)
        simp only [List.cons_append, List.nil_append, decodeFrom, step, start, h1, h2, h3, h4]
        rw [if_neg (by omega), if_neg (by omega), if_neg (by omega), if_pos (by omega)]
        simp only [Nat.add_sub_cancel]
        rw [if_pos (by constructor <;> split <;> omega), if_neg (by decide)]
        simp only [Nat.add_sub_cancel]
        rw [if_pos (by omega), if_neg (by decide)]
        simp only [Nat.add_sub_cancel]
        rw [if_pos (by omega), if_pos trivial]
        have : ((n / 262144 * 64 + n / 4096 % 64) * 64 + n / 64 % 64) * 64 + n % 64 = n := by
          omega
        simp [this, hc]

/-- Reading gives back what was written, and then reads on. -/
theorem decodeFrom_encodeChars (cs : List Char) (bs : List UInt8) :
    decodeFrom none (encodeChars cs ++ bs) = cs ++ decodeFrom none bs := by
  induction cs with
  | nil => rfl
  | cons c cs ih =>
    rw [encodeChars, List.flatMap_cons, List.append_assoc, decodeFrom_encodeChar]
    exact congrArg (c :: ·) ih

theorem decode_encode (s : String) : decode (encode s) = s := by
  have h := decodeFrom_encodeChars s.toList []
  rw [List.append_nil] at h
  rw [decode, decodeChars, encode, h, decodeFrom, List.append_nil, String.ofList_toList]

end ResourceCatalog.Text.Utf8
