/-
  ResourceCatalog/Proofs/Json/TextRoundTrip.lean
  ==============================================
  **Trees that are written are read back.**

  A tree of a whole value has one compact text, and that text spells the tree
  (`Tree.spells_compact`): it is one of the many that the grammar has for it.  So the reader
  gives that very tree back, and nothing is left behind it.

  Strings are shown first, character by character, then natural numbers, then
  trees by their shape.
-/
import ResourceCatalog.Proofs.Json.Grammar

namespace ResourceCatalog.Json

open Text (joined)

/-! ### Strings -/

theorem isLead_toNat (c : Char) : isLead c.toNat = false := by
  have valid : c.toNat < 0xD800 ∨ 0xDFFF < c.toNat ∧ c.toNat < 0x110000 := c.valid
  simp only [isLead, Bool.and_eq_false_iff, decide_eq_false_iff_not]
  omega

theorem isTrail_toNat (c : Char) : isTrail c.toNat = false := by
  have valid : c.toNat < 0xD800 ∨ 0xDFFF < c.toNat ∧ c.toNat < 0x110000 := c.valid
  simp only [isTrail, Bool.and_eq_false_iff, decide_eq_false_iff_not]
  omega

/-- No character is half of a surrogate pair. -/
theorem charsOfUnits?_map_toNat (cs : List Char) :
    charsOfUnits? (cs.map Char.toNat) = some cs := by
  induction cs with
  | nil => rfl
  | cons c cs ih =>
    cases cs with
    | nil => simp [charsOfUnits?, isLead_toNat, isTrail_toNat, Char.ofNat_toNat]
    | cons d ds =>
      rw [List.map_cons] at ih
      simp only [List.map_cons, charsOfUnits?, isLead_toNat, isTrail_toNat, ih, Bool.false_eq_true,
        if_false, Option.map_some, Char.ofNat_toNat]

/-- The escape of a control character holds its code. -/
theorem valueIn?_escape {n : Nat} (control : n < 0x20) :
    Text.valueIn? 16 ['0', '0', Char.ofNat (Text.smallDigit (n / 16)),
      Char.ofNat (Text.smallDigit (n % 16))] = some n := by
  have all : ∀ m : Fin 0x20, Text.valueIn? 16 ['0', '0', Char.ofNat (Text.smallDigit (m.val / 16)),
      Char.ofNat (Text.smallDigit (m.val % 16))] = some m.val := by decide
  exact all ⟨n, control⟩

/-- A written character spells its code. -/
theorem SpellsUnits.writeChar (c : Char) {units : List Nat} {cs : List Char}
    (behind : SpellsUnits units cs) : SpellsUnits (c.toNat :: units) (Tree.writeChar c ++ cs) := by
  unfold Tree.writeChar
  split
  · rename_i quote
    subst quote
    exact .escape rfl behind
  split
  · rename_i backslash
    subst backslash
    exact .escape rfl behind
  -- the five controls that have an escape of their own
  iterate 5
    split
    · rename_i code
      rw [code]
      exact .escape rfl behind
  split
  · rename_i control
    exact .code (valueIn?_escape control) behind
  · rename_i quote backslash _ _ _ _ _ visible
    exact .plain quote backslash (Nat.le_of_not_lt visible) behind

theorem spellsUnits_writeChars (cs : List Char) :
    SpellsUnits (cs.map Char.toNat) (cs.flatMap Tree.writeChar) := by
  induction cs with
  | nil => exact .nil
  | cons c cs ih => exact ih.writeChar c

theorem spells_writeString (s : String) : Spells (.text s) (Tree.writeString s) := by
  have spelled := Spells.string (spellsUnits_writeChars s.toList)
  rwa [charsOfUnits?_map_toNat, Option.map_some, String.ofList_toList] at spelled

/-! ### Natural numbers -/

theorem writeDigits_ofNat (n : Nat) :
    Tree.writeDigits (Number.ofNat n).whole = Nat.toDigits 10 n := by
  rw [Tree.writeDigits, Number.ofNat, List.map_map]
  refine (List.map_congr_left ?_).trans (List.map_id _)
  intro c hc
  exact ofNat_add_sub (Text.isDigit_of_mem_toDigits hc)

theorem write_nat (n : Nat) : (Tree.nat n).write = Nat.toDigits 10 n := by
  rw [Tree.nat, Tree.write, Tree.writeNumber, writeDigits_ofNat]
  simp [Number.ofNat]

/-- Only zero is written with a leading zero. -/
theorem toDigits_cases (n : Nat) :
    (∃ c, Nat.toDigits 10 n = [c]) ∨
      ∃ c cs, Nat.toDigits 10 n = c :: cs ∧ c.toNat - 0x30 ≠ 0 := by
  induction n using Nat.strongRecOn with
  | ind n ih =>
    by_cases small : n < 10
    · exact Or.inl ⟨_, Nat.toDigits_of_lt_base small⟩
    · have large : 10 ≤ n := Nat.le_of_not_lt small
      rw [Nat.toDigits_of_base_le (by decide) large]
      by_cases two : n / 10 < 10
      · refine Or.inr ⟨_, _, by rw [Nat.toDigits_of_lt_base two]; rfl, ?_⟩
        rw [Nat.toNat_digitChar_sub_48_of_lt_ten two]
        omega
      · rcases ih (n / 10) (by omega) with ⟨c, single⟩ | ⟨c, cs, digits, leading⟩
        · rw [Nat.toDigits_of_base_le (by decide) (Nat.le_of_not_lt two)] at single
          have length := congrArg List.length single
          simp at length
        · exact Or.inr ⟨c, _, by rw [digits]; rfl, leading⟩

theorem spells_nat (n : Nat) : Spells (.nat n) (Tree.nat n).write := by
  have digits : IsDigits (Nat.toDigits 10 n) :=
    ⟨Nat.toDigits_ne_nil, fun c hc => Text.isDigit_of_mem_toDigits hc⟩
  have leading : (Nat.toDigits 10 n).head? = some '0' → Nat.toDigits 10 n = ['0'] := by
    intro zero
    rcases toDigits_cases n with ⟨c, single⟩ | ⟨c, cs, several, other⟩
    · rw [single] at zero ⊢
      rw [Option.some.inj zero]
    · rw [several] at zero
      obtain rfl := Option.some.inj zero
      exact absurd rfl other
  have spelled : SpellsUnsigned false _ _ := .parts digits leading .none .none
  rw [List.append_nil, List.append_nil] at spelled
  rw [write_nat]
  exact .number (.positive spelled)

/-! ### Trees -/

namespace Tree

/-- A tree of a whole value: strings that can be read, natural numbers, closed arrays, and
    closed objects with strings for keys. -/
inductive Whole : Tree → Prop where
  | null : Whole .null
  | bool (b : Bool) : Whole (.bool b)
  | nat (n : Nat) : Whole (.nat n)
  | text (s : String) : Whole (.text s)
  | list {items : List Tree} (h : ∀ t ∈ items, Whole t) : Whole (.list items)
  | record {members : List (String × Tree)} (h : ∀ m ∈ members, Whole m.2) :
    Whole (.record members)

attribute [simp] Whole.null Whole.bool Whole.nat Whole.text Whole.record

theorem writeItems_eq_joined (items : List Tree) :
    writeItems items = joined ',' (items.map write) := by
  induction items with
  | nil => rfl
  | cons t ts ih =>
    cases ts with
    | nil => rfl
    | cons u us =>
      rw [writeItems, ih]
      rfl

theorem writeMembers_eq_joined (members : List (Tree × Tree)) :
    writeMembers members = joined ',' (members.map (fun m => m.1.write ++ ':' :: m.2.write)) := by
  induction members with
  | nil => rfl
  | cons m ms ih =>
    cases ms with
    | nil => rfl
    | cons n ns =>
      rw [writeMembers, ih]
      simp [joined]

theorem spells_write_list {items : List Tree} (spelled : ∀ t ∈ items, Spells t t.write) :
    Spells (.list items) (Tree.list items).write := by
  rw [list, write, writeItems_eq_joined]
  by_cases filled : items = []
  · subst filled
    exact .emptyArray .nil
  · have array := @Spells.array (items.map (fun t => (t, t.write))) (by simpa using filled)
      (by simpa using spelled)
    simpa [Function.comp_def] using array

theorem spells_write_record {members : List (String × Tree)}
    (spelled : ∀ m ∈ members, Spells m.2 m.2.write) :
    Spells (.record members) (Tree.record members).write := by
  rw [record, write, writeMembers_eq_joined]
  by_cases filled : members = []
  · subst filled
    exact .emptyObject .nil
  · have object := @Spells.object
      (members.map (fun m => ((text m.1, (text m.1).write), (m.2, m.2.write))))
      (by simpa using filled)
      (by
        intro m hm
        obtain ⟨n, -, rfl⟩ := List.mem_map.mp hm
        exact ⟨_, rfl⟩)
      (by
        intro m hm
        obtain ⟨n, -, rfl⟩ := List.mem_map.mp hm
        exact spells_writeString n.1)
      (by
        intro m hm
        obtain ⟨n, hn, rfl⟩ := List.mem_map.mp hm
        exact spelled n hn)
    simpa [Function.comp_def] using object

/-- A tree is spelled by what it is written as, by cases on its shape. -/
theorem spells_write {t : Tree} (whole : Whole t) : Spells t t.write := by
  induction whole with
  | null => exact .null
  | bool b =>
    cases b with
    | false => exact .no
    | true => exact .yes
  | nat n => exact spells_nat n
  | text s => exact spells_writeString s
  | list _ ih => exact spells_write_list ih
  | record _ ih => exact spells_write_record ih

/-- **The compact text of a tree spells it.** -/
theorem spells_compact {t : Tree} (whole : Whole t) : Spells t t.compact.toList := by
  rw [compact, String.toList_ofList]
  exact spells_write whole

end Tree

end ResourceCatalog.Json
