/-
  ResourceCatalog/Proofs/Json/Lexemes.lean
  ========================================
  **White space, strings and numbers of JSON.**

  A grammar says which texts spell the code units of a string (`SpellsUnits`) or a number
  (`SpellsNumber`).  There is nothing in it of how a text is read.  The reader reads what is
  spelled, whatever follows that does not go on with it, and what it reads is spelled.
-/
import ResourceCatalog.Json.Reader

namespace ResourceCatalog.Json

/-! ### White space -/

def Blanks (cs : List Char) : Prop := ∀ c ∈ cs, isBlank c = true

theorem Blanks.nil : Blanks [] := fun _ hc => absurd hc List.not_mem_nil

theorem Blanks.append {gap gap' : List Char} (first : Blanks gap) (second : Blanks gap') :
    Blanks (gap ++ gap') := by
  intro c hc
  rcases List.mem_append.mp hc with hc | hc
  · exact first c hc
  · exact second c hc

theorem skipBlanks_append {gap : List Char} (blanks : Blanks gap) (cs : List Char) :
    skipBlanks (gap ++ cs) = skipBlanks cs := by
  induction gap with
  | nil => rfl
  | cons c gap ih =>
    rw [List.cons_append, skipBlanks, List.dropWhile_cons_of_pos (blanks c List.mem_cons_self)]
    exact ih (fun d hd => blanks d (List.mem_cons_of_mem c hd))

theorem skipBlanks_of_blanks {gap : List Char} (blanks : Blanks gap) : skipBlanks gap = [] := by
  rw [← List.append_nil gap, skipBlanks_append blanks]
  rfl

/-- What is skipped is white space. -/
theorem exists_gap (cs : List Char) : ∃ gap, Blanks gap ∧ cs = gap ++ skipBlanks cs :=
  ⟨cs.takeWhile isBlank, List.all_eq_true.mp List.all_takeWhile,
    (List.takeWhile_append_dropWhile).symm⟩

theorem skipBlanks_cons {c : Char} (h : isBlank c = false) (rest : List Char) :
    skipBlanks (c :: rest) = c :: rest := List.dropWhile_cons_of_neg (by simp [h])

/-! ### Strings -/

/-- Text between quotes, and the code units that it spells. -/
inductive SpellsUnits : List Nat → List Char → Prop
  | nil : SpellsUnits [] []
  | plain {c : Char} {units : List Nat} {cs : List Char} : c ≠ '"' → c ≠ '\\' → 0x20 ≤ c.toNat →
      SpellsUnits units cs → SpellsUnits (c.toNat :: units) (c :: cs)
  | escape {e : Char} {n : Nat} {units : List Nat} {cs : List Char} : escapeValue? e = some n →
      SpellsUnits units cs → SpellsUnits (n :: units) ('\\' :: e :: cs)
  | code {a b c d : Char} {n : Nat} {units : List Nat} {cs : List Char} :
      Text.valueIn? 16 [a, b, c, d] = some n →
      SpellsUnits units cs → SpellsUnits (n :: units) ('\\' :: 'u' :: a :: b :: c :: d :: cs)

theorem SpellsUnits.read {units : List Nat} {cs : List Char} (spells : SpellsUnits units cs)
    (rest : List Char) : readUnits (cs ++ '"' :: rest) = some (units, rest) := by
  induction spells with
  | nil => rfl
  | @plain c units cs quote backslash visible _ ih =>
    rw [List.cons_append, readUnits.eq_def]
    split
    · rename_i none
      cases none
    · rename_i found
      exact absurd (List.cons.inj found).1 quote
    · rename_i found
      exact absurd (List.cons.inj found).1 backslash
    · rename_i found
      exact absurd (List.cons.inj found).1 backslash
    · rename_i found
      cases found
      rw [if_neg (by simp [backslash, visible]), ih]
      rfl
  | @escape e n units cs value _ ih =>
    have other : e ≠ 'u' := by
      rintro rfl
      cases value
    rw [List.cons_append, List.cons_append, readUnits]
    · simp only [value, ih, consUnit]
    · rintro _ _ _ _ _ rfl
      exact fun _ => other rfl
  | code value _ ih =>
    simp only [List.cons_append, readUnits, value, ih, consUnit]

theorem eq_cons_of_consUnit {n : Nat} {found : Option (List Nat × List Char)} {units : List Nat}
    {rest : List Char} (h : consUnit n found = some (units, rest)) :
    ∃ units', units = n :: units' ∧ found = some (units', rest) := by
  cases found with
  | none => cases h
  | some pair =>
    cases h
    exact ⟨_, rfl, rfl⟩

theorem spells_of_readUnits {cs rest : List Char} {units : List Nat}
    (read : readUnits cs = some (units, rest)) :
    ∃ text, cs = text ++ '"' :: rest ∧ SpellsUnits units text := by
  fun_induction readUnits cs generalizing units with
  | case1 => cases read
  | case2 rest' =>
    cases read
    exact ⟨[], rfl, .nil⟩
  | case3 a b c d cs n value ih =>
    obtain ⟨units', rfl, found⟩ := eq_cons_of_consUnit read
    obtain ⟨text, rfl, spells⟩ := ih found
    exact ⟨_, rfl, .code value spells⟩
  | case4 => cases read
  | case5 e cs other n value ih =>
    obtain ⟨units', rfl, found⟩ := eq_cons_of_consUnit read
    obtain ⟨text, rfl, spells⟩ := ih found
    exact ⟨_, rfl, .escape value spells⟩
  | case6 => cases read
  | case7 => cases read
  | case8 c cs quote _ _ visible ih =>
    obtain ⟨units', rfl, found⟩ := eq_cons_of_consUnit read
    obtain ⟨text, rfl, spells⟩ := ih found
    simp only [Bool.or_eq_true, decide_eq_true_eq, not_or, Nat.not_lt] at visible
    exact ⟨_, rfl, .plain quote visible.1 visible.2 spells⟩

/-! ### Numbers -/

/-- What stands behind a number does not go on with it. -/
def EndsNumber (rest : List Char) : Prop :=
  ∀ c ∈ rest.head?, Text.isDigit c = false ∧ c ≠ '.' ∧ c ≠ 'e' ∧ c ≠ 'E'

theorem EndsNumber.nil : EndsNumber [] := by
  intro c hc
  cases hc

theorem EndsNumber.cons {c : Char} {rest : List Char}
    (h : Text.isDigit c = false ∧ c ≠ '.' ∧ c ≠ 'e' ∧ c ≠ 'E') : EndsNumber (c :: rest) := by
  intro d hd
  cases hd
  exact h

theorem EndsNumber.append {gap rest : List Char} (blanks : Blanks gap) (ends : EndsNumber rest) :
    EndsNumber (gap ++ rest) := by
  cases gap with
  | nil => exact ends
  | cons c gap =>
    have blank := blanks c List.mem_cons_self
    simp only [isBlank, Bool.or_eq_true, decide_eq_true_eq] at blank
    refine .cons ?_
    rcases blank with ((rfl | rfl) | rfl) | rfl <;> decide

theorem isBlank_of_isDigit {c : Char} (h : Text.isDigit c = true) :
    isBlank c = false ∧ c ≠ ']' ∧ c ≠ '"' ∧ c ≠ '[' ∧ c ≠ '\x7b' ∧ c ≠ 'n' ∧ c ≠ 't' ∧ c ≠ 'f' ∧
      c ≠ '-' := by
  refine ⟨?_, ?_, ?_, ?_, ?_, ?_, ?_, ?_, ?_⟩
  · rw [Bool.eq_false_iff]
    intro blank
    simp only [isBlank, Bool.or_eq_true, decide_eq_true_eq] at blank
    rcases blank with ((rfl | rfl) | rfl) | rfl <;> cases h
  all_goals
    rintro rfl
    cases h

theorem ofNat_add_sub {c : Char} (h : Text.isDigit c = true) :
    Char.ofNat (0x30 + (c.toNat - 0x30)) = c := by
  simp only [Text.isDigit, Bool.and_eq_true, decide_eq_true_eq] at h
  rw [Nat.add_sub_cancel' h.1, Char.ofNat_toNat]

/-- One digit or more. -/
structure IsDigits (cs : List Char) : Prop where
  filled : cs ≠ []
  digits : ∀ c ∈ cs, Text.isDigit c = true

def digitsOf (cs : List Char) : List Nat := cs.map (fun c => c.toNat - 0x30)

inductive SpellsFraction : List Nat → List Char → Prop
  | none : SpellsFraction [] []
  | point {cs : List Char} : IsDigits cs → SpellsFraction (digitsOf cs) ('.' :: cs)

inductive SpellsExponent : Option (Bool × List Nat) → List Char → Prop
  | none : SpellsExponent none []
  | bare {e : Char} {cs : List Char} : e = 'e' ∨ e = 'E' → IsDigits cs →
      SpellsExponent (some (false, digitsOf cs)) (e :: cs)
  | plus {e : Char} {cs : List Char} : e = 'e' ∨ e = 'E' → IsDigits cs →
      SpellsExponent (some (false, digitsOf cs)) (e :: '+' :: cs)
  | minus {e : Char} {cs : List Char} : e = 'e' ∨ e = 'E' → IsDigits cs →
      SpellsExponent (some (true, digitsOf cs)) (e :: '-' :: cs)

/-- A number without its sign; no zero stands in front of other digits. -/
inductive SpellsUnsigned (negative : Bool) : Number → List Char → Prop
  | parts {whole fractionText exponentText : List Char} {fraction : List Nat}
      {exponent : Option (Bool × List Nat)} : IsDigits whole →
      (whole.head? = some '0' → whole = ['0']) → SpellsFraction fraction fractionText →
      SpellsExponent exponent exponentText →
      SpellsUnsigned negative ⟨negative, digitsOf whole, fraction, exponent⟩
        (whole ++ (fractionText ++ exponentText))

inductive SpellsNumber : Number → List Char → Prop
  | positive {n : Number} {cs : List Char} : SpellsUnsigned false n cs → SpellsNumber n cs
  | negative {n : Number} {cs : List Char} : SpellsUnsigned true n cs → SpellsNumber n ('-' :: cs)

/-- No digit goes on with what stands in front. -/
def EndsDigits (rest : List Char) : Prop := ∀ c ∈ rest.head?, Text.isDigit c = false

theorem EndsNumber.endsDigits {rest : List Char} (ends : EndsNumber rest) : EndsDigits rest :=
  fun c hc => (ends c hc).1

theorem IsDigits.take {cs rest : List Char} (digits : IsDigits cs) (ends : EndsDigits rest) :
    takeDigits (cs ++ rest) = digitsOf cs ∧ dropDigits (cs ++ rest) = rest := by
  have stops : rest.takeWhile Text.isDigit = [] ∧ rest.dropWhile Text.isDigit = rest := by
    cases rest with
    | nil => exact ⟨rfl, rfl⟩
    | cons c rest =>
      have other := ends c rfl
      exact ⟨List.takeWhile_cons_of_neg (by simp [other]),
        List.dropWhile_cons_of_neg (by simp [other])⟩
  constructor
  · rw [takeDigits, List.takeWhile_append_of_pos digits.digits, stops.1, List.append_nil, digitsOf]
  · rw [dropDigits, List.dropWhile_append_of_pos digits.digits, stops.2]

/-- The digits that are taken are those in front. -/
theorem exists_digits {cs : List Char} (taken : takeDigits cs ≠ []) :
    ∃ front, IsDigits front ∧ takeDigits cs = digitsOf front ∧ cs = front ++ dropDigits cs := by
  refine ⟨cs.takeWhile Text.isDigit, ⟨?_, List.all_eq_true.mp List.all_takeWhile⟩, rfl,
    List.takeWhile_append_dropWhile.symm⟩
  intro none
  rw [takeDigits, none] at taken
  exact taken rfl

theorem digitsOf_ne_nil {cs : List Char} (digits : IsDigits cs) : digitsOf cs ≠ [] := by
  simpa [digitsOf] using digits.filled

theorem SpellsFraction.read {fraction : List Nat} {cs rest : List Char}
    (spells : SpellsFraction fraction cs) (ends : EndsDigits rest)
    (noPoint : rest.head? ≠ some '.') : readFraction (cs ++ rest) = some (fraction, rest) := by
  cases spells with
  | none =>
    rw [List.nil_append]
    unfold readFraction
    split
    · exact absurd rfl noPoint
    · rfl
  | point digits =>
    obtain ⟨taken, dropped⟩ := digits.take ends
    rw [List.cons_append, readFraction, taken, dropped]
    split
    · rename_i none
      exact absurd none (digitsOf_ne_nil digits)
    · rfl

theorem IsDigits.readExponentDigits {cs rest : List Char} (digits : IsDigits cs)
    (ends : EndsDigits rest) (negative : Bool) :
    readExponentDigits negative (cs ++ rest) = some (some (negative, digitsOf cs), rest) := by
  obtain ⟨taken, dropped⟩ := digits.take ends
  rw [Json.readExponentDigits, taken, dropped]
  split
  · rename_i none
    exact absurd none (digitsOf_ne_nil digits)
  · rfl

theorem readExponent_mark {e : Char} (mark : e = 'e' ∨ e = 'E') (cs : List Char) :
    readExponent (e :: cs) = readExponentSign cs := by
  rcases mark with rfl | rfl <;> rfl

theorem SpellsExponent.read {exponent : Option (Bool × List Nat)} {cs rest : List Char}
    (spells : SpellsExponent exponent cs) (ends : EndsNumber rest) :
    readExponent (cs ++ rest) = some (exponent, rest) := by
  cases spells with
  | none =>
    rw [List.nil_append]
    unfold readExponent
    split
    · exact absurd rfl (ends _ rfl).2.2.1
    · exact absurd rfl (ends _ rfl).2.2.2
    · rfl
  | @bare e cs mark digits =>
    rw [List.cons_append, readExponent_mark mark]
    have read := digits.readExponentDigits ends.endsDigits false
    obtain ⟨c, cs, rfl⟩ := List.exists_cons_of_ne_nil digits.filled
    have digit := digits.digits c List.mem_cons_self
    unfold readExponentSign
    split
    · rename_i sign
      obtain rfl := (List.cons.inj sign).1
      cases digit
    · rename_i sign
      obtain rfl := (List.cons.inj sign).1
      cases digit
    · exact read
  | plus mark digits =>
    rw [List.cons_append, readExponent_mark mark, List.cons_append, readExponentSign]
    exact digits.readExponentDigits ends.endsDigits false
  | minus mark digits =>
    rw [List.cons_append, readExponent_mark mark, List.cons_append, readExponentSign]
    exact digits.readExponentDigits ends.endsDigits true

theorem IsDigits.readWhole {cs rest : List Char} (digits : IsDigits cs)
    (leading : cs.head? = some '0' → cs = ['0']) (ends : EndsDigits rest) :
    readWhole (cs ++ rest) = some (digitsOf cs, rest) := by
  obtain ⟨taken, dropped⟩ := digits.take ends
  rw [Json.readWhole, taken, dropped]
  split
  · rename_i none
    exact absurd none (digitsOf_ne_nil digits)
  · rename_i zero
    obtain ⟨c, cs, rfl⟩ := List.exists_cons_of_ne_nil digits.filled
    have value : c.toNat - 0x30 = 0 := (List.cons.inj zero).1
    have back := ofNat_add_sub (digits.digits c List.mem_cons_self)
    rw [value] at back
    have single := leading (by rw [← back]; rfl)
    rw [single] at zero
    cases zero
  · rfl

theorem SpellsExponent.endsDigits {exponent : Option (Bool × List Nat)} {cs rest : List Char}
    (spells : SpellsExponent exponent cs) (ends : EndsNumber rest) :
    EndsDigits (cs ++ rest) ∧ (cs ++ rest).head? ≠ some '.' := by
  have marked {e : Char} (mark : e = 'e' ∨ e = 'E') (cs : List Char) :
      EndsDigits (e :: cs) ∧ (e :: cs).head? ≠ some '.' := by
    constructor
    · intro c hc
      cases hc
      rcases mark with rfl | rfl <;> decide
    · rcases mark with rfl | rfl <;> simp
  cases spells with
  | none =>
    refine ⟨ends.endsDigits, fun point => ?_⟩
    exact (ends '.' point).2.1 rfl
  | bare mark _ => exact marked mark _
  | plus mark _ => exact marked mark _
  | minus mark _ => exact marked mark _

theorem SpellsFraction.endsDigits {fraction : List Nat} {cs rest : List Char}
    (spells : SpellsFraction fraction cs) (ends : EndsDigits rest) : EndsDigits (cs ++ rest) := by
  cases spells with
  | none => exact ends
  | point _ =>
    intro c hc
    cases hc
    decide

theorem SpellsUnsigned.begins {negative : Bool} {n : Number} {cs : List Char}
    (spells : SpellsUnsigned negative n cs) :
    ∃ c tail, cs = c :: tail ∧ Text.isDigit c = true := by
  cases spells with
  | parts digits _ _ _ =>
    obtain ⟨c, tail, rfl⟩ := List.exists_cons_of_ne_nil digits.filled
    exact ⟨c, _, rfl, digits.digits c List.mem_cons_self⟩

theorem SpellsUnsigned.read {negative : Bool} {n : Number} {cs rest : List Char}
    (spells : SpellsUnsigned negative n cs) (ends : EndsNumber rest) :
    readUnsigned negative (cs ++ rest) = some (n, rest) := by
  cases spells with
  | parts digits leading fraction exponent =>
    obtain ⟨endsFraction, noPoint⟩ := exponent.endsDigits ends
    rw [readUnsigned, List.append_assoc, List.append_assoc,
      digits.readWhole leading (fraction.endsDigits endsFraction)]
    simp [fraction.read endsFraction noPoint, exponent.read ends]

/-! ### Numbers that are read -/

theorem spells_of_readWhole {cs rest : List Char} {whole : List Nat}
    (read : readWhole cs = some (whole, rest)) :
    ∃ text, cs = text ++ rest ∧ IsDigits text ∧ (text.head? = some '0' → text = ['0']) ∧
      whole = digitsOf text := by
  unfold readWhole at read
  split at read
  · cases read
  · cases read
  · rename_i filled leading
    cases read
    obtain ⟨front, digits, taken, parts⟩ := exists_digits filled
    refine ⟨front, parts, digits, ?_, taken⟩
    intro zero
    obtain ⟨behind, rfl⟩ := List.head?_eq_some_iff.mp zero
    cases behind with
    | nil => rfl
    | cons c behind => exact absurd taken (leading _ _)

theorem spells_of_readFraction {cs rest : List Char} {fraction : List Nat}
    (read : readFraction cs = some (fraction, rest)) :
    ∃ text, cs = text ++ rest ∧ SpellsFraction fraction text := by
  unfold readFraction at read
  split at read
  · split at read
    · cases read
    · rename_i filled
      cases read
      obtain ⟨front, digits, taken, parts⟩ := exists_digits filled
      rw [taken]
      exact ⟨'.' :: front, by rw [List.cons_append, ← parts], .point digits⟩
  · cases read
    exact ⟨[], rfl, .none⟩

theorem spells_of_readExponentDigits {cs rest : List Char} {negative : Bool}
    {exponent : Option (Bool × List Nat)}
    (read : readExponentDigits negative cs = some (exponent, rest)) :
    ∃ text, cs = text ++ rest ∧ IsDigits text ∧ exponent = some (negative, digitsOf text) := by
  unfold readExponentDigits at read
  split at read
  · cases read
  · rename_i filled
    cases read
    obtain ⟨front, digits, taken, parts⟩ := exists_digits filled
    exact ⟨front, parts, digits, by rw [taken]⟩

theorem spells_of_readExponent {cs rest : List Char} {exponent : Option (Bool × List Nat)}
    (read : readExponent cs = some (exponent, rest)) :
    ∃ text, cs = text ++ rest ∧ SpellsExponent exponent text := by
  have signed {e : Char} (mark : e = 'e' ∨ e = 'E') {cs : List Char}
      (read : readExponentSign cs = some (exponent, rest)) :
      ∃ text, e :: cs = text ++ rest ∧ SpellsExponent exponent text := by
    unfold readExponentSign at read
    split at read
    · obtain ⟨text, rfl, digits, rfl⟩ := spells_of_readExponentDigits read
      exact ⟨_, rfl, .plus mark digits⟩
    · obtain ⟨text, rfl, digits, rfl⟩ := spells_of_readExponentDigits read
      exact ⟨_, rfl, .minus mark digits⟩
    · obtain ⟨text, rfl, digits, rfl⟩ := spells_of_readExponentDigits read
      exact ⟨_, rfl, .bare mark digits⟩
  unfold readExponent at read
  split at read
  · exact signed (.inl rfl) read
  · exact signed (.inr rfl) read
  · cases read
    exact ⟨[], rfl, .none⟩

theorem spells_of_readUnsigned {negative : Bool} {cs rest : List Char} {n : Number}
    (read : readUnsigned negative cs = some (n, rest)) :
    ∃ text, cs = text ++ rest ∧ SpellsUnsigned negative n text := by
  simp only [readUnsigned, Option.bind_eq_bind, Option.bind_eq_some_iff, Option.pure_def] at read
  obtain ⟨⟨whole, _⟩, hwhole, ⟨fraction, _⟩, hfraction, ⟨exponent, _⟩, hexponent, made⟩ := read
  cases made
  obtain ⟨wholeText, rfl, digits, leading, rfl⟩ := spells_of_readWhole hwhole
  obtain ⟨fractionText, rfl, fractionSpelled⟩ := spells_of_readFraction hfraction
  obtain ⟨exponentText, rfl, exponentSpelled⟩ := spells_of_readExponent hexponent
  refine ⟨_, ?_, .parts digits leading fractionSpelled exponentSpelled⟩
  simp only [List.append_assoc]

end ResourceCatalog.Json
