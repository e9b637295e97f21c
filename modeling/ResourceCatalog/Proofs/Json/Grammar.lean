/-
  ResourceCatalog/Proofs/Json/Grammar.lean
  ========================================
  **What the reader takes for JSON is what the grammar generates.**

  A grammar says which texts spell a tree (`Spells`): tokens with white space between them,
  commas between the items of an array and the members of an object, and escapes in strings.
  There is nothing in it of how a text is read.

  The reader reads every text that is spelled, as the tree that it spells, and stops behind it
  (`Spells.read`).  The other way round, what it has read before the place where it stopped
  spells the tree that it gives (`spells_of_read`).  So a text is a whole document exactly when
  it is spelled (`Document.ofString_eq_iff`).
-/
import Mathlib.Data.List.Forall2
import ResourceCatalog.Json.Decode
import ResourceCatalog.Proofs.Json.Lexemes
import ResourceCatalog.Text.Pieces

namespace ResourceCatalog.Json

open Text (joined)

/-! ### Values -/

/-- The texts of a tree: white space may stand around a value and between any two tokens.  The keys
    of an object are strings. -/
inductive Spells : Tree → List Char → Prop
  | padded {t : Tree} {before cs behind : List Char} : Blanks before → Blanks behind →
      Spells t cs → Spells t (before ++ (cs ++ behind))
  | null : Spells .null ['n', 'u', 'l', 'l']
  | yes : Spells (.bool true) ['t', 'r', 'u', 'e']
  | no : Spells (.bool false) ['f', 'a', 'l', 's', 'e']
  | number {n : Number} {cs : List Char} : SpellsNumber n cs → Spells (.number n) cs
  | string {units : List Nat} {cs : List Char} : SpellsUnits units cs →
      Spells (.string ((charsOfUnits? units).map String.ofList)) ('"' :: (cs ++ ['"']))
  | emptyArray {gap : List Char} : Blanks gap → Spells (.array [] true) ('[' :: (gap ++ [']']))
  | array {items : List (Tree × List Char)} : items ≠ [] →
      (∀ item ∈ items, Spells item.1 item.2) →
      Spells (.array (items.map Prod.fst) true)
        ('[' :: (joined ',' (items.map Prod.snd) ++ [']']))
  | emptyObject {gap : List Char} : Blanks gap →
      Spells (.object [] true) ('\x7b' :: (gap ++ ['\x7d']))
  | object {members : List ((Tree × List Char) × (Tree × List Char))} : members ≠ [] →
      (∀ m ∈ members, ∃ s, m.1.1 = .string s) → (∀ m ∈ members, Spells m.1.1 m.1.2) →
      (∀ m ∈ members, Spells m.2.1 m.2.2) →
      Spells (.object (members.map (fun m => (m.1.1, m.2.1))) true)
        ('\x7b' :: (joined ',' (members.map (fun m => m.1.2 ++ ':' :: m.2.2)) ++ ['\x7d']))

/-- The reader gives the tree, and leaves no more than white space in front of the rest. -/
def IsRead (t : Tree) (cs : List Char) : Prop :=
  ∀ fuel rest, 2 * cs.length ≤ fuel → EndsNumber rest →
    ∃ gap, Blanks gap ∧ readValue fuel (cs ++ rest) = (t, some (gap ++ rest))

/-- A text that is not empty is read by one step of the reader at least. -/
theorem IsRead.of_step {t : Tree} {cs : List Char} (filled : cs ≠ [])
    (step : ∀ fuel rest, 2 * cs.length ≤ fuel + 1 → EndsNumber rest →
      readValue (fuel + 1) (cs ++ rest) = (t, some rest)) : IsRead t cs := by
  intro fuel rest enough ends
  refine ⟨[], .nil, ?_⟩
  cases fuel with
  | zero => exact absurd (List.length_eq_zero_iff.mp (by omega)) filled
  | succ fuel => exact step fuel rest enough ends

/-- Behind white space, a value begins with a character that closes nothing. -/
def Begins (cs : List Char) : Prop :=
  ∃ gap c tail, cs = gap ++ c :: tail ∧ Blanks gap ∧ isBlank c = false ∧ c ≠ ']' ∧ c ≠ '\x7d'

theorem Begins.append {cs : List Char} (begins : Begins cs) (more : List Char) :
    Begins (cs ++ more) := by
  obtain ⟨gap, c, tail, rfl, blanks, visible⟩ := begins
  exact ⟨gap, c, tail ++ more, by rw [List.append_assoc, List.cons_append], blanks, visible⟩

theorem Begins.skipBlanks {cs : List Char} (begins : Begins cs) :
    ∃ c tail, skipBlanks cs = c :: tail ∧ c ≠ ']' ∧ c ≠ '\x7d' := by
  obtain ⟨gap, c, tail, rfl, blanks, visible, other⟩ := begins
  exact ⟨c, tail, by rw [skipBlanks_append blanks, skipBlanks_cons visible], other⟩

/-- Texts that are joined begin as the first of them does. -/
theorem begins_joined {texts : List (List Char)} (filled : texts ≠ [])
    (begins : ∀ text ∈ texts, Begins text) : Begins (joined ',' texts) := by
  obtain ⟨text, texts, rfl⟩ := List.exists_cons_of_ne_nil filled
  have first := begins text List.mem_cons_self
  cases texts with
  | nil => exact first
  | cons next texts => exact first.append _

theorem readValue_skipBlanks {cs cs' : List Char} (same : skipBlanks cs = skipBlanks cs')
    (fuel : Nat) : readValue fuel cs = readValue fuel cs' := by
  cases fuel with
  | zero => rfl
  | succ fuel => rw [readValue, readValue, same]

theorem Spells.begins {t : Tree} {cs : List Char} (spells : Spells t cs) : Begins cs := by
  induction spells with
  | @padded _ before _ behind blanks _ _ ih =>
    obtain ⟨gap, c, tail, rfl, gapBlanks, visible⟩ := ih
    refine ⟨before ++ gap, c, tail ++ behind, ?_, blanks.append gapBlanks, visible⟩
    simp only [List.append_assoc, List.cons_append]
  | null => exact ⟨[], _, _, rfl, .nil, by decide⟩
  | yes => exact ⟨[], _, _, rfl, .nil, by decide⟩
  | no => exact ⟨[], _, _, rfl, .nil, by decide⟩
  | number spells =>
    cases spells with
    | positive spells =>
      obtain ⟨c, tail, rfl, digit⟩ := spells.begins
      have token := isBlank_of_isDigit digit
      refine ⟨[], c, tail, rfl, .nil, token.1, token.2.1, ?_⟩
      rintro rfl
      cases digit
    | negative _ => exact ⟨[], _, _, rfl, .nil, by decide⟩
  | string _ => exact ⟨[], _, _, rfl, .nil, by decide⟩
  | emptyArray _ => exact ⟨[], _, _, rfl, .nil, by decide⟩
  | array _ _ _ => exact ⟨[], _, _, rfl, .nil, by decide⟩
  | emptyObject _ => exact ⟨[], _, _, rfl, .nil, by decide⟩
  | object _ _ _ _ _ _ => exact ⟨[], _, _, rfl, .nil, by decide⟩

theorem SpellsNumber.isRead {n : Number} {cs : List Char} (spells : SpellsNumber n cs) :
    IsRead (.number n) cs := by
  cases spells with
  | positive spells =>
    obtain ⟨c, tail, rfl, digit⟩ := spells.begins
    obtain ⟨blank, -, quote, bracket, brace, n', t', f', minus⟩ := isBlank_of_isDigit digit
    apply IsRead.of_step (List.cons_ne_nil c tail)
    intro fuel rest _ ends
    have read := spells.read ends
    rw [List.cons_append] at read ⊢
    rw [readValue, skipBlanks_cons blank]
    simp [readNumber, quote, bracket, brace, n', t', f', minus, read]
  | negative spells =>
    apply IsRead.of_step (List.cons_ne_nil _ _)
    intro fuel rest _ ends
    rw [List.cons_append, readValue, skipBlanks_cons rfl]
    simp [readNumber, spells.read ends]

/-! ### Arrays and objects that are spelled -/

theorem isRead_items {items : List (Tree × List Char)} (filled : items ≠ [])
    (read : ∀ item ∈ items, IsRead item.1 item.2) :
    ∀ fuel rest, 2 * (joined ',' (items.map Prod.snd)).length + 1 ≤ fuel →
      readItems fuel (joined ',' (items.map Prod.snd) ++ ']' :: rest) =
        (items.map Prod.fst, some rest) := by
  induction items with
  | nil => exact absurd rfl filled
  | cons item items ih =>
    intro fuel rest enough
    have first := read item List.mem_cons_self
    cases fuel with
    | zero => omega
    | succ fuel =>
      cases items with
      | nil =>
        obtain ⟨gap, blanks, here⟩ := first fuel (']' :: rest) (by simpa [joined] using enough)
          (.cons (by decide))
        simp only [List.map_cons, List.map_nil, joined]
        rw [readItems, here]
        simp only [skipBlanks_append blanks, skipBlanks_cons (c := ']') rfl]
      | cons next items =>
        simp only [List.map_cons, joined, List.length_append, List.length_cons] at enough
        obtain ⟨gap, blanks, here⟩ := first fuel
          (',' :: (joined ',' ((next :: items).map Prod.snd) ++ ']' :: rest)) (by omega)
          (.cons (by decide))
        have behind := ih (List.cons_ne_nil next items)
          (fun other hother => read other (List.mem_cons_of_mem item hother)) fuel rest
          (by rw [List.map_cons]; omega)
        simp only [List.map_cons, joined, List.append_assoc, List.cons_append] at here behind ⊢
        rw [readItems, here]
        simp only [skipBlanks_append blanks, skipBlanks_cons (c := ',') rfl, behind]

theorem skipBlanks_skipBlanks (cs : List Char) : skipBlanks (skipBlanks cs) = skipBlanks cs := by
  obtain ⟨gap, blanks, parts⟩ := exists_gap cs
  have skipped := skipBlanks_append blanks (skipBlanks cs)
  rwa [← parts, eq_comm] at skipped

theorem readItems_skipBlanks (fuel : Nat) (cs : List Char) :
    readItems fuel (skipBlanks cs) = readItems fuel cs := by
  cases fuel with
  | zero => rfl
  | succ fuel => rw [readItems, readItems, readValue_skipBlanks (skipBlanks_skipBlanks cs)]

theorem readMembers_skipBlanks (fuel : Nat) (cs : List Char) :
    readMembers fuel (skipBlanks cs) = readMembers fuel cs := by
  cases fuel with
  | zero => rfl
  | succ fuel => rw [readMembers, readMembers, skipBlanks_skipBlanks]

theorem isRead_array {items : List (Tree × List Char)} (filled : items ≠ [])
    (begins : ∀ item ∈ items, Begins item.2) (read : ∀ item ∈ items, IsRead item.1 item.2) :
    IsRead (.array (items.map Prod.fst) true)
      ('[' :: (joined ',' (items.map Prod.snd) ++ [']'])) := by
  apply IsRead.of_step (List.cons_ne_nil _ _)
  intro fuel rest enough _
  simp only [List.length_cons, List.length_append, List.length_nil] at enough
  have inside := isRead_items filled read fuel rest (by omega)
  have start : Begins (joined ',' (items.map Prod.snd)) := by
    refine begins_joined (by simpa using filled) (fun text htext => ?_)
    obtain ⟨item, hitem, rfl⟩ := List.mem_map.mp htext
    exact begins item hitem
  obtain ⟨c, tail, skipped, notClosed, -⟩ := (start.append (']' :: rest)).skipBlanks
  rw [List.cons_append, List.append_assoc, List.singleton_append, readValue, skipBlanks_cons rfl]
  simp only
  split
  · rename_i closed
    rw [skipped] at closed
    exact absurd (List.cons.inj closed).1 notClosed
  · rw [readItems_skipBlanks, inside]
    rfl

/-- A string stands in quotes, and white space around them. -/
theorem Spells.string_text {s : Option String} {cs : List Char} (spells : Spells (.string s) cs) :
    ∃ before units text behind, Blanks before ∧ Blanks behind ∧ SpellsUnits units text ∧
      s = (charsOfUnits? units).map String.ofList ∧
      cs = before ++ '"' :: (text ++ '"' :: behind) := by
  generalize ht : Tree.string s = t at spells
  induction spells with
  | @padded _ before _ behind blanks blanks' _ ih =>
    obtain ⟨before', units, text, behind', hbefore, hbehind, spelled, value, rfl⟩ := ih ht
    refine ⟨before ++ before', units, text, behind' ++ behind, blanks.append hbefore,
      hbehind.append blanks', spelled, value, ?_⟩
    simp only [List.append_assoc, List.cons_append]
  | string spelled =>
    cases ht
    exact ⟨[], _, _, [], .nil, .nil, spelled, rfl, rfl⟩
  | _ => cases ht

/-- A key is read up to its colon, whatever follows. -/
theorem Spells.key_read {s : Option String} {keyText : List Char}
    (key : Spells (.string s) keyText) (cs : List Char) :
    ∃ quoted behind, skipBlanks (keyText ++ ':' :: cs) = '"' :: quoted ∧
      readString quoted = (.string s, some behind) ∧ skipBlanks behind = ':' :: cs := by
  obtain ⟨before, units, text, behind, hbefore, hbehind, spelled, rfl, rfl⟩ := key.string_text
  refine ⟨text ++ '"' :: (behind ++ ':' :: cs), behind ++ ':' :: cs, ?_, ?_, ?_⟩
  · simp only [List.append_assoc, List.cons_append]
    rw [skipBlanks_append hbefore, skipBlanks_cons rfl]
  · rw [readString, spelled.read]
  · rw [skipBlanks_append hbehind, skipBlanks_cons rfl]

theorem isRead_members {members : List ((Tree × List Char) × (Tree × List Char))}
    (filled : members ≠ []) (strings : ∀ m ∈ members, ∃ s, m.1.1 = .string s)
    (keys : ∀ m ∈ members, Spells m.1.1 m.1.2) (read : ∀ m ∈ members, IsRead m.2.1 m.2.2) :
    ∀ fuel rest,
      2 * (joined ',' (members.map (fun m => m.1.2 ++ ':' :: m.2.2))).length + 1 ≤ fuel →
      readMembers fuel
          (joined ',' (members.map (fun m => m.1.2 ++ ':' :: m.2.2)) ++ '\x7d' :: rest) =
        (members.map (fun m => (m.1.1, m.2.1)), some rest) := by
  induction members with
  | nil => exact absurd rfl filled
  | cons m members ih =>
    intro fuel rest enough
    obtain ⟨⟨key, keyText⟩, ⟨value, valueText⟩⟩ := m
    obtain ⟨s, rfl⟩ : ∃ s, key = .string s := strings _ List.mem_cons_self
    have keySpelled : Spells (.string s) keyText := keys _ List.mem_cons_self
    have first : IsRead value valueText := read _ List.mem_cons_self
    cases fuel with
    | zero => omega
    | succ fuel =>
      cases members with
      | nil =>
        simp only [List.map_cons, List.map_nil, joined, List.length_append,
          List.length_cons] at enough
        obtain ⟨gap, blanks, here⟩ := first fuel ('\x7d' :: rest) (by omega) (.cons (by decide))
        simp only [List.map_cons, List.map_nil, joined, List.append_assoc, List.cons_append]
        obtain ⟨quoted, behind, start, string, colon⟩ :=
          keySpelled.key_read (valueText ++ '\x7d' :: rest)
        rw [readMembers, start]
        simp only [string, colon, here, skipBlanks_append blanks, skipBlanks_cons (c := '\x7d') rfl]
      | cons next members =>
        simp only [List.map_cons, joined, List.length_append, List.length_cons] at enough
        have others := ih (List.cons_ne_nil next members)
          (fun m hm => strings m (List.mem_cons_of_mem _ hm))
          (fun m hm => keys m (List.mem_cons_of_mem _ hm))
          (fun m hm => read m (List.mem_cons_of_mem _ hm)) fuel rest (by rw [List.map_cons]; omega)
        obtain ⟨gap, blanks, here⟩ := first fuel
          (',' :: (joined ',' ((next :: members).map (fun m => m.1.2 ++ ':' :: m.2.2)) ++
            '\x7d' :: rest)) (by omega) (.cons (by decide))
        simp only [List.map_cons, joined, List.append_assoc, List.cons_append] at here others ⊢
        obtain ⟨quoted, behind, start, string, colon⟩ := keySpelled.key_read _
        rw [readMembers, start]
        simp only [string, colon, here, skipBlanks_append blanks, skipBlanks_cons (c := ',') rfl,
          others]

theorem isRead_object {members : List ((Tree × List Char) × (Tree × List Char))}
    (filled : members ≠ []) (strings : ∀ m ∈ members, ∃ s, m.1.1 = .string s)
    (keys : ∀ m ∈ members, Spells m.1.1 m.1.2) (read : ∀ m ∈ members, IsRead m.2.1 m.2.2) :
    IsRead (.object (members.map (fun m => (m.1.1, m.2.1))) true)
      ('\x7b' :: (joined ',' (members.map (fun m => m.1.2 ++ ':' :: m.2.2)) ++ ['\x7d'])) := by
  apply IsRead.of_step (List.cons_ne_nil _ _)
  intro fuel rest enough _
  simp only [List.length_cons, List.length_append, List.length_nil] at enough
  have inside := isRead_members filled strings keys read fuel rest (by omega)
  have start : Begins (joined ',' (members.map (fun m => m.1.2 ++ ':' :: m.2.2))) := by
    refine begins_joined (by simpa using filled) (fun text htext => ?_)
    obtain ⟨m, hm, rfl⟩ := List.mem_map.mp htext
    exact (keys m hm).begins.append _
  obtain ⟨c, tail, skipped, -, notClosed⟩ := (start.append ('\x7d' :: rest)).skipBlanks
  rw [List.cons_append, List.append_assoc, List.singleton_append, readValue, skipBlanks_cons rfl]
  simp only
  split
  · rename_i closed
    rw [skipped] at closed
    exact absurd (List.cons.inj closed).1 notClosed
  · rw [readMembers_skipBlanks, inside]
    rfl

/-- **A text that is spelled is read as its tree.** -/
theorem Spells.read {t : Tree} {cs : List Char} (spells : Spells t cs) : IsRead t cs := by
  induction spells with
  | @padded _ before cs behind blanks blanks' _ ih =>
    intro fuel rest enough ends
    simp only [List.length_append] at enough
    obtain ⟨gap, hgap, read⟩ := ih fuel (behind ++ rest) (by omega) (ends.append blanks')
    refine ⟨gap ++ behind, hgap.append blanks', ?_⟩
    simp only [List.append_assoc]
    rw [readValue_skipBlanks (skipBlanks_append blanks _), read]
  | null => exact .of_step (List.cons_ne_nil _ _) (fun _ _ _ _ => rfl)
  | yes => exact .of_step (List.cons_ne_nil _ _) (fun _ _ _ _ => rfl)
  | no => exact .of_step (List.cons_ne_nil _ _) (fun _ _ _ _ => rfl)
  | number spelled => exact spelled.isRead
  | string spelled =>
    apply IsRead.of_step (List.cons_ne_nil _ _)
    intro fuel rest _ _
    rw [List.cons_append, List.append_assoc, List.singleton_append, readValue, skipBlanks_cons rfl]
    simp only [readString, spelled.read]
  | emptyArray blanks =>
    apply IsRead.of_step (List.cons_ne_nil _ _)
    intro fuel rest _ _
    rw [List.cons_append, List.append_assoc, List.singleton_append, readValue, skipBlanks_cons rfl]
    simp only [skipBlanks_append blanks, skipBlanks_cons (c := ']') rfl]
  | array filled items ih =>
    exact isRead_array filled (fun item hitem => (items item hitem).begins) ih
  | emptyObject blanks =>
    apply IsRead.of_step (List.cons_ne_nil _ _)
    intro fuel rest _ _
    rw [List.cons_append, List.append_assoc, List.singleton_append, readValue, skipBlanks_cons rfl]
    simp only [skipBlanks_append blanks, skipBlanks_cons (c := '\x7d') rfl]
  | object filled strings keys _ _ ih => exact isRead_object filled strings keys ih

/-! ### Texts inside of texts -/

theorem infix_joined {texts : List (List Char)} {text : List Char} (h : text ∈ texts) :
    text <:+: joined ',' texts := by
  induction texts with
  | nil => exact absurd h List.not_mem_nil
  | cons first texts ih =>
    cases texts with
    | nil =>
      obtain rfl := List.mem_singleton.mp h
      exact List.infix_rfl
    | cons next texts =>
      rcases List.mem_cons.mp h with rfl | h
      · exact (List.prefix_append _ _).isInfix
      · refine (ih h).trans (List.IsSuffix.isInfix ?_)
        exact (List.suffix_cons _ _).trans (List.suffix_append _ _)

/-- The text of an object holds a text of each of its values. -/
theorem Spells.value_text {members : List (Tree × Tree)} {cs : List Char}
    (spells : Spells (.object members true) cs) {m : Tree × Tree} (h : m ∈ members) :
    ∃ text, Spells m.2 text ∧ text <:+: cs := by
  generalize ht : Tree.object members true = t at spells
  induction spells with
  | padded _ _ _ ih =>
    obtain ⟨text, spelled, inside⟩ := ih ht
    exact ⟨text, spelled, inside.trans (List.infix_append' _ _ _)⟩
  | emptyObject _ =>
    cases ht
    exact absurd h List.not_mem_nil
  | object _ _ _ values _ _ =>
    cases ht
    obtain ⟨m, hm, rfl⟩ := List.mem_map.mp h
    refine ⟨m.2.2, values m hm, ?_⟩
    have member := infix_joined (List.mem_map_of_mem (f := fun m => m.1.2 ++ ':' :: m.2.2) hm)
    have own : m.2.2 <:+: m.1.2 ++ ':' :: m.2.2 :=
      ((List.suffix_cons _ _).trans (List.suffix_append _ _)).isInfix
    exact (own.trans member).trans
      ((List.prefix_append _ _).isInfix.trans (List.suffix_cons _ _).isInfix)
  | _ => cases ht

/-- The text of an array is made of texts of its items. -/
theorem Spells.item_texts {items : List Tree} {cs : List Char} (spells : Spells (.list items) cs)
    (filled : items ≠ []) :
    ∃ texts, List.Forall₂ Spells items texts ∧ '[' :: (joined ',' texts ++ [']']) <:+: cs := by
  generalize ht : Tree.list items = t at spells
  induction spells with
  | padded _ _ _ ih =>
    obtain ⟨texts, spelled, inside⟩ := ih ht
    exact ⟨texts, spelled, inside.trans (List.infix_append' _ _ _)⟩
  | emptyArray _ =>
    cases ht
    exact absurd rfl filled
  | @array items _ all _ =>
    cases ht
    refine ⟨items.map Prod.snd, ?_, List.infix_rfl⟩
    rw [List.forall₂_map_left_iff, List.forall₂_map_right_iff, List.forall₂_same]
    exact all
  | _ => cases ht

/-! ### Texts that are read -/

/-- What was read as items is the texts of some items, up to the bracket. -/
def SpellsItems (items : List Tree) (cs rest : List Char) : Prop :=
  ∃ spelled : List (Tree × List Char), spelled ≠ [] ∧ items = spelled.map Prod.fst ∧
    cs = joined ',' (spelled.map Prod.snd) ++ ']' :: rest ∧ ∀ item ∈ spelled, Spells item.1 item.2

/-- What was read as members is the texts of some members, up to the brace. -/
def SpellsMembers (members : List (Tree × Tree)) (cs rest : List Char) : Prop :=
  ∃ spelled : List ((Tree × List Char) × (Tree × List Char)), spelled ≠ [] ∧
    members = spelled.map (fun m => (m.1.1, m.2.1)) ∧
    cs = joined ',' (spelled.map (fun m => m.1.2 ++ ':' :: m.2.2)) ++ '\x7d' :: rest ∧
    (∀ m ∈ spelled, ∃ s, m.1.1 = .string s) ∧ (∀ m ∈ spelled, Spells m.1.1 m.1.2) ∧
    ∀ m ∈ spelled, Spells m.2.1 m.2.2

theorem SpellsItems.last {t : Tree} {text : List Char} (spelled : Spells t text)
    (rest : List Char) : SpellsItems [t] (text ++ ']' :: rest) rest :=
  ⟨[(t, text)], by simp, rfl, rfl, by simpa using spelled⟩

theorem SpellsItems.more {t : Tree} {items : List Tree} {text cs rest : List Char}
    (others : SpellsItems items cs rest) (spelled : Spells t text) :
    SpellsItems (t :: items) (text ++ ',' :: cs) rest := by
  obtain ⟨spelledItems, filled, rfl, rfl, all⟩ := others
  obtain ⟨next, more, rfl⟩ := List.exists_cons_of_ne_nil filled
  refine ⟨(t, text) :: next :: more, by simp, rfl, by simp [joined], ?_⟩
  rw [List.forall_mem_cons]
  exact ⟨spelled, all⟩

section Member

variable {s : Option String} {value : Tree} {keyText valueText : List Char}

theorem SpellsMembers.last (key : Spells (.string s) keyText) (spelled : Spells value valueText)
    (rest : List Char) :
    SpellsMembers [(.string s, value)] (keyText ++ ':' :: (valueText ++ '\x7d' :: rest)) rest :=
  ⟨[((.string s, keyText), (value, valueText))], by simp, rfl, by simp [joined], by simp,
    by simpa using key, by simpa using spelled⟩

theorem SpellsMembers.more {members : List (Tree × Tree)} {cs rest : List Char}
    (others : SpellsMembers members cs rest) (key : Spells (.string s) keyText)
    (spelled : Spells value valueText) :
    SpellsMembers ((.string s, value) :: members) (keyText ++ ':' :: (valueText ++ ',' :: cs))
      rest := by
  obtain ⟨spelledMembers, filled, rfl, rfl, strings, keys, values⟩ := others
  obtain ⟨next, more, rfl⟩ := List.exists_cons_of_ne_nil filled
  refine ⟨((.string s, keyText), (value, valueText)) :: next :: more, by simp, rfl,
    by simp [joined], ?_, ?_, ?_⟩
  · rw [List.forall_mem_cons]
    exact ⟨⟨s, rfl⟩, strings⟩
  · rw [List.forall_mem_cons]
    exact ⟨key, keys⟩
  · rw [List.forall_mem_cons]
    exact ⟨spelled, values⟩

end Member

theorem spells_of_readString {cs rest : List Char} {t : Tree}
    (read : readString cs = (t, some rest)) :
    ∃ text, '"' :: cs = text ++ rest ∧ Spells t text ∧ ∃ s, t = .string s := by
  rw [readString] at read
  split at read
  · rename_i units rest' found
    cases read
    obtain ⟨text, rfl, spelled⟩ := spells_of_readUnits found
    exact ⟨'"' :: (text ++ ['"']), by simp, .string spelled, _, rfl⟩
  · cases read

theorem spells_of_readNumber {cs rest : List Char} {t : Tree}
    (read : readNumber cs = (t, some rest)) : ∃ text, cs = text ++ rest ∧ Spells t text := by
  unfold readNumber at read
  simp only at read
  split at read
  · rename_i n rest' found
    cases read
    split at found
    · obtain ⟨text, rfl, spelled⟩ := spells_of_readUnsigned found
      exact ⟨'-' :: text, rfl, .number (.negative spelled)⟩
    · obtain ⟨text, rfl, spelled⟩ := spells_of_readUnsigned found
      exact ⟨text, rfl, .number (.positive spelled)⟩
  · cases read

/-- White space behind a value goes with its text. -/
theorem Spells.behind {t : Tree} {text rest rest' : List Char} {c : Char} (spells : Spells t text)
    (skipped : skipBlanks rest = c :: rest') :
    ∃ text', text ++ rest = text' ++ c :: rest' ∧ Spells t text' := by
  obtain ⟨gap, blanks, parts⟩ := exists_gap rest
  rw [skipped] at parts
  exact ⟨[] ++ (text ++ gap), by rw [parts]; simp, .padded .nil blanks spells⟩

section Step

variable {fuel : Nat} {cs rest : List Char}
  (valueStep : ∀ {cs rest t}, readValue fuel cs = (t, some rest) →
    ∃ text, cs = text ++ rest ∧ Spells t text)
  (itemsStep : ∀ {cs rest items}, readItems fuel cs = (items, some rest) →
    SpellsItems items cs rest)
  (membersStep : ∀ {cs rest members}, readMembers fuel cs = (members, some rest) →
    SpellsMembers members cs rest)

include itemsStep membersStep in
theorem spells_of_readValue_succ {t : Tree} (read : readValue (fuel + 1) cs = (t, some rest)) :
    ∃ text, cs = text ++ rest ∧ Spells t text := by
  obtain ⟨gap, blanks, parts⟩ := exists_gap cs
  suffices core : ∃ text, skipBlanks cs = text ++ rest ∧ Spells t text by
    obtain ⟨text, found, spelled⟩ := core
    refine ⟨gap ++ (text ++ []), ?_, .padded blanks .nil spelled⟩
    rw [parts, found, List.append_nil, List.append_assoc]
  rw [readValue] at read
  generalize skipBlanks cs = cs at read
  split at read
  · cases read
    exact ⟨_, rfl, .null⟩
  · cases read
    exact ⟨_, rfl, .yes⟩
  · cases read
    exact ⟨_, rfl, .no⟩
  · obtain ⟨text, found, spelled, -⟩ := spells_of_readString read
    exact ⟨text, found, spelled⟩
  · rename_i inside
    split at read
    · rename_i behind skipped
      cases read
      obtain ⟨inner, innerBlanks, innerParts⟩ := exists_gap inside
      exact ⟨'[' :: (inner ++ [']']), by rw [innerParts, skipped]; simp, .emptyArray innerBlanks⟩
    · rw [readItems_skipBlanks] at read
      cases found : readItems fuel inside with
      | mk items after =>
        rw [found] at read
        cases read
        obtain ⟨spelled, filled, rfl, rfl, all⟩ := itemsStep found
        exact ⟨_, by simp, .array filled all⟩
  · rename_i inside
    split at read
    · rename_i behind skipped
      cases read
      obtain ⟨inner, innerBlanks, innerParts⟩ := exists_gap inside
      exact ⟨'\x7b' :: (inner ++ ['\x7d']), by rw [innerParts, skipped]; simp,
        .emptyObject innerBlanks⟩
    · rw [readMembers_skipBlanks] at read
      cases found : readMembers fuel inside with
      | mk members after =>
        rw [found] at read
        cases read
        obtain ⟨spelled, filled, rfl, rfl, strings, keys, values⟩ := membersStep found
        exact ⟨_, by simp, .object filled strings keys values⟩
  · exact spells_of_readNumber read

include valueStep itemsStep in
theorem spells_of_readItems_succ {items : List Tree}
    (read : readItems (fuel + 1) cs = (items, some rest)) : SpellsItems items cs rest := by
  rw [readItems] at read
  split at read
  · cases read
  · rename_i item behind found
    obtain ⟨text, rfl, spelled⟩ := valueStep found
    split at read
    · rename_i rest' skipped
      cases read
      obtain ⟨text', parts, spelled'⟩ := spelled.behind skipped
      rw [parts]
      exact .last spelled' _
    · rename_i rest' skipped
      obtain ⟨text', parts, spelled'⟩ := spelled.behind skipped
      cases others : readItems fuel rest' with
      | mk items after =>
        rw [others] at read
        cases read
        rw [parts]
        exact (itemsStep others).more spelled'
    · cases read

include valueStep membersStep in
theorem spells_of_readMembers_succ {members : List (Tree × Tree)}
    (read : readMembers (fuel + 1) cs = (members, some rest)) : SpellsMembers members cs rest := by
  obtain ⟨gap, blanks, start⟩ := exists_gap cs
  rw [readMembers] at read
  split at read
  · rename_i inside skipped
    rw [skipped] at start
    split at read
    · cases read
    · rename_i key behindKey foundKey
      obtain ⟨keyText, quoted, keySpelled, s, rfl⟩ := spells_of_readString foundKey
      split at read
      · rename_i afterColon colon
        obtain ⟨keyText', keyParts, keySpelled'⟩ := keySpelled.behind colon
        have keyPadded : Spells (.string s) (gap ++ (keyText' ++ [])) :=
          .padded blanks .nil keySpelled'
        have whole : cs = (gap ++ (keyText' ++ [])) ++ ':' :: afterColon := by
          rw [start, quoted, keyParts, List.append_nil, List.append_assoc]
        rw [whole]
        split at read
        · cases read
        · rename_i value behindValue foundValue
          obtain ⟨valueText, rfl, valueSpelled⟩ := valueStep foundValue
          split at read
          · rename_i rest' closed
            cases read
            obtain ⟨valueText', valueParts, valueSpelled'⟩ := valueSpelled.behind closed
            rw [valueParts]
            exact .last keyPadded valueSpelled' _
          · rename_i rest' comma
            obtain ⟨valueText', valueParts, valueSpelled'⟩ := valueSpelled.behind comma
            cases others : readMembers fuel rest' with
            | mk members after =>
              rw [others] at read
              cases read
              rw [valueParts]
              exact (membersStep others).more keyPadded valueSpelled'
          · cases read
      · cases read
  · cases read

end Step

/-- **What is read is spelled**, up to the place where the reader stops. -/
theorem spells_of_read (fuel : Nat) :
    (∀ {cs rest t}, readValue fuel cs = (t, some rest) →
        ∃ text, cs = text ++ rest ∧ Spells t text) ∧
      (∀ {cs rest items}, readItems fuel cs = (items, some rest) → SpellsItems items cs rest) ∧
      ∀ {cs rest members}, readMembers fuel cs = (members, some rest) →
        SpellsMembers members cs rest := by
  induction fuel with
  | zero =>
    refine ⟨?_, ?_, ?_⟩
    all_goals
      intro _ _ _ read
      cases read
  | succ fuel ih =>
    obtain ⟨value, items, members⟩ := ih
    exact ⟨spells_of_readValue_succ items members, spells_of_readItems_succ value items,
      spells_of_readMembers_succ value members⟩

/-! ### Whole texts -/

/-- **A text is a whole document exactly when it is spelled.** -/
theorem Document.ofString_eq_iff {s : String} {t : Tree} :
    Document.ofString s = ⟨t, true⟩ ↔ Spells t s.toList := by
  constructor
  · intro document
    cases read : readValue (2 * s.toList.length + 2) s.toList with
    | mk root after =>
      cases after with
      | none =>
        simp [ofString, read] at document
      | some rest =>
        simp only [ofString, read, Document.mk.injEq, List.isEmpty_iff] at document
        obtain ⟨rfl, ended⟩ := document
        obtain ⟨text, parts, spelled⟩ := (spells_of_read _).1 read
        obtain ⟨gap, blanks, behind⟩ := exists_gap rest
        rw [ended, List.append_nil] at behind
        subst behind
        have padded := Spells.padded .nil blanks spelled
        rwa [List.nil_append, ← parts] at padded
  · intro spells
    obtain ⟨gap, blanks, read⟩ := spells.read (2 * s.toList.length + 2) [] (by omega) .nil
    rw [List.append_nil, List.append_nil] at read
    simp [ofString, read, skipBlanks_of_blanks blanks]

variable {α : Type}

/-- A decoder takes from a text what it takes from the tree that the text spells. -/
theorem decodeText_of_spells {t : Tree} {s : String} (spells : Spells t s.toList)
    (decode : Decoder α) : decodeText decode s = decode t := by
  rw [decodeText, Document.ofString_eq_iff.mpr spells]
  cases decode t <;> rfl

/-- What is decoded from a text is decoded from a tree that the text spells. -/
theorem spells_of_decodeText {decode : Decoder α} {s : String} {a : α}
    (h : decodeText decode s = .ok a) : ∃ t, Spells t s.toList ∧ decode t = .ok a := by
  rw [decodeText] at h
  cases document : Document.ofString s with
  | mk root ends =>
    rw [document] at h
    cases read : decode root with
    | error e =>
      simp [read] at h
    | ok b =>
      simp only [read] at h
      cases ends with
      | false => simp at h
      | true => exact ⟨root, Document.ofString_eq_iff.mp document, by rw [read, ← h]; simp⟩

end ResourceCatalog.Json
