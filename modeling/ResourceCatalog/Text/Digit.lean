/-
  ResourceCatalog/Text/Digit.lean
  ===============================
  **Digits of ASCII, and small letters.**

  Digits have values in bases up to sixteen.  Percent-encoded bytes are written
  with capitals, the escapes of JSON with small letters; either is read back
  (`digitValue?_capitalDigit`, `digitValue?_smallDigit`).  In base ten the decimal
  digits are read and nothing else is (`valueIn?_ten_eq_some_iff`).
-/
namespace ResourceCatalog.Text

/-- A decimal digit. -/
def isDigit (c : Char) : Bool := 0x30 ≤ c.toNat && c.toNat ≤ 0x39

/-- The value of the digit with this code, in bases up to sixteen and either case. -/
def digitValue? (code : Nat) : Option Nat :=
  if 0x30 ≤ code ∧ code ≤ 0x39 then some (code - 0x30)
  else if 0x41 ≤ code ∧ code ≤ 0x46 then some (code - 0x37)
  else if 0x61 ≤ code ∧ code ≤ 0x66 then some (code - 0x57)
  else none

/-- The code of a digit; those beyond nine are capitals. -/
def capitalDigit (n : Nat) : Nat := if n < 10 then 0x30 + n else 0x37 + n

/-- The code of a digit; those beyond nine are small letters. -/
def smallDigit (n : Nat) : Nat := if n < 10 then 0x30 + n else 0x57 + n

/-- The value of digits in a base; no digits are zero. -/
def valueIn? (base : Nat) (cs : List Char) : Option Nat :=
  cs.foldlM (fun n c => match digitValue? c.toNat with
    | some d => if d < base then some (n * base + d) else none
    | none => none) 0

/-- A capital letter of ASCII becomes small, any other character stays. -/
def lower (c : Char) : Char :=
  if 0x41 ≤ c.toNat ∧ c.toNat ≤ 0x5A then Char.ofNat (c.toNat + 0x20) else c

/-! ### What is written is read back -/

theorem digitValue?_capitalDigit {n : Nat} (h : n < 16) :
    digitValue? (capitalDigit n) = some n := by
  have : ∀ m : Fin 16, digitValue? (capitalDigit m.val) = some m.val := by decide
  exact this ⟨n, h⟩

theorem digitValue?_smallDigit {n : Nat} (h : n < 16) :
    digitValue? (smallDigit n) = some n := by
  have : ∀ m : Fin 16, digitValue? (smallDigit m.val) = some m.val := by decide
  exact this ⟨n, h⟩

/-! ### Decimal numbers -/

theorem digitValue?_of_isDigit {c : Char} (digit : isDigit c = true) :
    digitValue? c.toNat = some (c.toNat - 0x30) := by
  simp only [isDigit, Bool.and_eq_true, decide_eq_true_eq] at digit
  exact if_pos digit

/-- Letters are digits from ten on. -/
theorem ten_le_of_digitValue? {c : Char} {d : Nat} (letter : isDigit c = false)
    (value : digitValue? c.toNat = some d) : 10 ≤ d := by
  simp only [isDigit, Bool.and_eq_false_iff, decide_eq_false_iff_not] at letter
  grind [digitValue?]

/-- In base ten decimal digits have a value, and nothing else does. -/
theorem valueIn?_ten_eq_some_iff {cs : List Char} {n : Nat} :
    valueIn? 10 cs = some n ↔
      (∀ c ∈ cs, isDigit c = true) ∧ Nat.ofDigitChars 10 cs 0 = n := by
  rw [valueIn?]
  -- from any value that digits in front have come to
  generalize (0 : Nat) = m
  induction cs generalizing m with
  | nil => simp
  | cons c cs ih =>
    rw [List.foldlM_cons, List.forall_mem_cons, Nat.ofDigitChars_cons]
    cases digit : isDigit c with
    | true =>
      have small : c.toNat - 0x30 < 10 := by
        simp only [isDigit, Bool.and_eq_true, decide_eq_true_eq] at digit
        omega
      simp only [digitValue?_of_isDigit digit, if_pos small, Option.bind_eq_bind, Option.bind_some]
      rw [ih, Nat.mul_comm m 10]
      simp
    | false =>
      cases value : digitValue? c.toNat with
      | none => simp
      | some d => simp [Nat.not_lt.mpr (ten_le_of_digitValue? digit value)]

theorem isDigit_of_mem_toDigits {n : Nat} {c : Char} (h : c ∈ Nat.toDigits 10 n) :
    isDigit c = true := by
  have digit := Nat.isDigit_of_mem_toDigits (by decide) (by decide) h
  simp only [Char.isDigit, Bool.and_eq_true, decide_eq_true_eq] at digit
  simp only [isDigit, Bool.and_eq_true, decide_eq_true_eq]
  exact digit

end ResourceCatalog.Text
