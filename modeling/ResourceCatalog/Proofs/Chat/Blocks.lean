/-
  ResourceCatalog/Proofs/Chat/Blocks.lean
  =======================================
  **A formatted reply loses no text.**

  Every line of a reply becomes one block.  What a block may be is told by the shape of the
  trimmed line alone (`Shows`): which characters it begins with, where its pairs of asterisks
  are, and which text is left when marks and white space are taken away.  The shapes
  are tried in turn, and exactly one block is shown for each line (`shows_iff`); a line can be
  put together again from its block.

  Some shapes end at a number of characters that is used to slice the line by bytes.  All of
  these characters are of one byte, so no slice goes through the middle of a character.
-/
import Mathlib.Data.List.Forall2
import ResourceCatalog.Chat.Format

namespace ResourceCatalog

namespace Chat

open Text

/-! ### Pairs of asterisks -/

/-- Two asterisks stand side by side. -/
def HasPair (cs : List Char) : Prop := ['*', '*'] <:+: cs

theorem hasPair_cons {c : Char} {cs : List Char} :
    HasPair (c :: cs) ↔ (c = '*' ∧ cs.head? = some '*') ∨ HasPair cs := by
  rw [HasPair, List.infix_cons_iff, List.cons_prefix_cons, eq_comm]
  cases cs with
  | nil => simp [HasPair]
  | cons d cs => simp [HasPair, eq_comm]

theorem HasPair.append {cs : List Char} (pair : HasPair cs) (more : List Char) :
    HasPair (cs ++ more) :=
  List.IsInfix.trans pair (List.prefix_append cs more).isInfix

theorem hasBold_iff {cs : List Char} : hasBold cs = true ↔ HasPair cs := by
  fun_induction hasBold cs with
  | case1 rest => simp [hasPair_cons]
  | case2 c rest none ih =>
    have here : ¬ (c = '*' ∧ rest.head? = some '*') := by
      rintro ⟨rfl, next⟩
      cases rest with
      | nil => cases next
      | cons d rest =>
        cases next
        exact none rest rfl rfl
    rw [hasPair_cons, ih]
    simp only [here, false_or]
  | case3 => simp [HasPair]

/-- A line is cut at the leftmost pair of asterisks, and what follows is cut in the same
    way: no pair can be found before the one that ends a piece. -/
inductive CutAtPairs : List Char → List (List Char) → Prop
  | last {piece : List Char} : ¬ HasPair piece → CutAtPairs piece [piece]
  | cut {piece rest : List Char} {pieces : List (List Char)} : ¬ HasPair (piece ++ ['*']) →
      CutAtPairs rest pieces → CutAtPairs (piece ++ '*' :: '*' :: rest) (piece :: pieces)

theorem boldPieces_cons {c : Char} {cs : List Char} (here : ¬ (c = '*' ∧ cs.head? = some '*')) :
    boldPieces (c :: cs) = consPiece c (boldPieces cs) := by
  rw [boldPieces]
  rintro rest rfl rfl
  exact here ⟨rfl, rfl⟩

theorem boldPieces_of_not_hasPair {piece : List Char} (none : ¬ HasPair piece) :
    boldPieces piece = [piece] := by
  induction piece with
  | nil => rfl
  | cons c piece ih =>
    rw [hasPair_cons, not_or] at none
    rw [boldPieces_cons none.1, ih none.2, consPiece]

theorem boldPieces_append {piece : List Char} (none : ¬ HasPair (piece ++ ['*']))
    (rest : List Char) : boldPieces (piece ++ '*' :: '*' :: rest) = piece :: boldPieces rest := by
  induction piece with
  | nil => rfl
  | cons c piece ih =>
    rw [List.cons_append, hasPair_cons, not_or] at none
    have here : ¬ (c = '*' ∧ (piece ++ '*' :: '*' :: rest).head? = some '*') := by
      have first := none.1
      cases piece with
      | nil => simpa using first
      | cons d piece => simpa using first
    rw [List.cons_append, boldPieces_cons here, ih none.2, consPiece]

theorem CutAtPairs.cons {c : Char} {cs piece : List Char} {pieces : List (List Char)}
    (cut : CutAtPairs cs (piece :: pieces)) (here : ¬ (c = '*' ∧ cs.head? = some '*')) :
    CutAtPairs (c :: cs) ((c :: piece) :: pieces) := by
  cases cut with
  | last none => exact .last (fun pair => (hasPair_cons.mp pair).elim here none)
  | @cut _ rest _ none others =>
    refine @CutAtPairs.cut (c :: piece) rest _ (fun pair => ?_) others
    rcases hasPair_cons.mp pair with pair | pair
    · refine here ⟨pair.1, ?_⟩
      have next := pair.2
      cases piece with
      | nil => rfl
      | cons d piece => simpa using next
    · exact none pair

theorem cutAtPairs_iff {line : List Char} {pieces : List (List Char)} :
    CutAtPairs line pieces ↔ boldPieces line = pieces := by
  constructor
  · intro cut
    induction cut with
    | last none => exact boldPieces_of_not_hasPair none
    | cut none _ ih => rw [boldPieces_append none, ih]
  · rintro rfl
    induction line using boldPieces.induct with
    | case1 rest ih =>
      have none : ¬ HasPair ([] ++ ['*']) := by
        rw [List.nil_append, hasPair_cons]
        simp [HasPair]
      exact .cut none ih
    | case2 c rest here ih =>
      have apart : ¬ (c = '*' ∧ rest.head? = some '*') := by
        rintro ⟨rfl, next⟩
        cases rest with
        | nil => cases next
        | cons d rest =>
          cases next
          exact here rest rfl rfl
      rw [boldPieces_cons apart]
      cases found : boldPieces rest with
      | nil =>
        rw [found] at ih
        cases ih
      | cons piece pieces =>
        rw [found] at ih
        exact ih.cons apart
    | case3 => exact .last (by simp [HasPair])

theorem CutAtPairs.not_hasPair {line : List Char} {pieces : List (List Char)}
    (cut : CutAtPairs line pieces) : ∀ piece ∈ pieces, ¬ HasPair piece := by
  induction cut with
  | last none => simpa using none
  | cut none _ ih =>
    rw [List.forall_mem_cons]
    exact ⟨fun pair => none (pair.append ['*']), ih⟩

theorem CutAtPairs.intercalate_eq {line : List Char} {pieces : List (List Char)}
    (cut : CutAtPairs line pieces) : ['*', '*'].intercalate pieces = line := by
  induction cut with
  | last => simp [List.intercalate]
  | @cut piece rest pieces none others ih =>
    cases pieces with
    | nil => cases others
    | cons next pieces =>
      rw [List.intercalate] at ih ⊢
      rw [List.intersperse_cons_cons]
      simp [ih]

/-! ### The spans of a paragraph -/

/-- The pieces that have characters, every second one of all pieces bold. -/
def spansOf (pieces : List (List Char)) : List Span :=
  (pieces.zipIdx.filter (fun piece => !piece.1.isEmpty)).map
    (fun piece => ⟨String.ofList piece.1, piece.2 % 2 = 1⟩)

/-- The spans of a line with pairs of asterisks, and what they have of its text. -/
structure IsBold (line : List Char) (pieces : List (List Char)) (spans : List Span) : Prop where
  cut : CutAtPairs line pieces
  alternate : spans = spansOf pieces
  without_pairs : ∀ span ∈ spans, span.text ≠ "" ∧ ¬ HasPair span.text.toList
  concatenated : spans.flatMap (fun span => span.text.toList) = pieces.flatten
  rebuilt : ['*', '*'].intercalate pieces = line

theorem boldSpans_eq (n : Nat) (pieces : List (List Char)) :
    boldSpans (decide (n % 2 = 1)) pieces =
      ((pieces.zipIdx n).filter (fun piece => !piece.1.isEmpty)).map
        (fun piece => ⟨String.ofList piece.1, piece.2 % 2 = 1⟩) := by
  induction pieces generalizing n with
  | nil => rfl
  | cons piece pieces ih =>
    have next : (!decide (n % 2 = 1)) = decide ((n + 1) % 2 = 1) := by
      rw [Bool.eq_iff_iff]
      simp only [Bool.not_eq_true', decide_eq_false_iff_not, decide_eq_true_eq]
      omega
    rw [boldSpans, List.zipIdx_cons, next, ih]
    cases piece <;> simp

theorem mem_spansOf {pieces : List (List Char)} {span : Span} (h : span ∈ spansOf pieces) :
    span.text ≠ "" ∧ span.text.toList ∈ pieces := by
  simp only [spansOf, List.mem_map, List.mem_filter] at h
  obtain ⟨⟨piece, i⟩, ⟨hpiece, filled⟩, rfl⟩ := h
  have member : piece ∈ pieces := List.fst_mem_of_mem_zipIdx hpiece
  refine ⟨?_, by simpa using member⟩
  intro empty
  have nothing : piece = [] := by simpa using congrArg String.toList empty
  simp [nothing] at filled

theorem flatMap_boldSpans (bold : Bool) (pieces : List (List Char)) :
    (boldSpans bold pieces).flatMap (fun span => span.text.toList) = pieces.flatten := by
  induction pieces generalizing bold with
  | nil => rfl
  | cons piece pieces ih =>
    rw [boldSpans]
    cases piece <;> simp [ih]

theorem isBold_iff {line : List Char} {spans : List Span} :
    (∃ pieces, IsBold line pieces spans) ↔ boldSpans false (boldPieces line) = spans := by
  have alternate : boldSpans false (boldPieces line) = spansOf (boldPieces line) :=
    boldSpans_eq 0 _
  have cut : CutAtPairs line (boldPieces line) := cutAtPairs_iff.mpr rfl
  constructor
  · rintro ⟨pieces, bold⟩
    rw [bold.alternate, alternate, cutAtPairs_iff.mp bold.cut]
  · rintro rfl
    refine ⟨boldPieces line, cut, alternate, ?_, flatMap_boldSpans _ _, cut.intercalate_eq⟩
    intro span hspan
    rw [alternate] at hspan
    obtain ⟨filled, member⟩ := mem_spansOf hspan
    exact ⟨filled, cut.not_hasPair _ member⟩

/-! ### Bullets, numbered items and headers -/

/-- A bullet or a hyphen, white space, and a trimmed text. -/
def IsBullet (l text : List Char) : Prop :=
  ∃ mark blank, (mark = '•' ∨ mark = '-') ∧ AllBlank blank ∧ IsTrimmed text ∧
    l = mark :: (blank ++ text)

/-- Digits and a full stop, one white space, and some text behind it. -/
def IsNumbered (l marker text : List Char) : Prop :=
  ∃ digits space, digits ≠ [] ∧ (∀ c ∈ digits, isDigit c = true) ∧ marker = digits ++ ['.'] ∧
    isSpace space = true ∧ text ≠ [] ∧ l = marker ++ space :: text

/-- All the number signs that a line begins with, white space, and a text that begins with
    something else. -/
def IsHeader (l : List Char) (level : Nat) (text : List Char) : Prop :=
  ∃ blank, 0 < level ∧ AllBlank blank ∧ (∀ c ∈ text.head?, isSpace c = false) ∧
    (blank ++ text).head? ≠ some '#' ∧ l = List.replicate level '#' ++ (blank ++ text)

theorem bulletText?_eq_some_iff {l text : List Char} (trimmed : IsTrimmed l) :
    bulletText? l = some text ↔ IsBullet l text := by
  constructor
  · intro read
    obtain ⟨mark, rest, rfl, hmark, rfl⟩ :
        ∃ mark rest, l = mark :: rest ∧ (mark = '•' ∨ mark = '-') ∧ trimChars rest = text := by
      revert read
      fun_cases bulletText? l with
      | case1 rest => exact fun read => ⟨_, rest, rfl, .inl rfl, Option.some.inj read⟩
      | case2 rest => exact fun read => ⟨_, rest, rfl, .inr rfl, Option.some.inj read⟩
      | case3 => exact fun read => nomatch read
    -- the line has no white space at its end, so all that is trimmed off stands in front
    have last : ∀ c ∈ (rest.dropWhile isSpace).getLast?, isSpace c = false := by
      intro c hc
      refine trimmed.last c ?_
      rw [List.getLast?_cons, Option.mem_def.mp (getLast?_dropWhile hc)]
      rfl
    refine ⟨mark, rest.takeWhile isSpace, hmark, List.all_eq_true.mp List.all_takeWhile,
      isTrimmed_trimChars rest, ?_⟩
    rw [trimChars, dropEndWhile_of_getLast? last, List.takeWhile_append_dropWhile]
  · rintro ⟨mark, blank, hmark, hblank, htext, rfl⟩
    have read : trimChars (blank ++ text) = text := by
      rw [trimChars, List.dropWhile_append_of_pos hblank, ← trimChars, htext.trimChars_eq]
    rcases hmark with rfl | rfl
    · rw [bulletText?, read]
    · rw [bulletText?, read]

theorem numbered?_eq_some_iff {l marker text : List Char} :
    numbered? l = some (marker, text) ↔ IsNumbered l marker text := by
  constructor
  · intro read
    have parts := List.takeWhile_append_dropWhile (p := isDigit) (l := l)
    rw [numbered?] at read
    split at read
    · rename_i space rest behind
      split at read
      · cases read
      · rename_i hfit
        cases read
        simp only [Bool.or_eq_true, List.isEmpty_iff, Bool.not_eq_true', not_or,
          Bool.not_eq_false] at hfit
        refine ⟨l.takeWhile isDigit, space, hfit.1.1, List.all_eq_true.mp List.all_takeWhile,
          rfl, hfit.2, hfit.1.2, ?_⟩
        rw [behind] at parts
        rw [List.append_assoc]
        exact parts.symm
    · cases read
  · rintro ⟨digits, space, filled, hdigits, rfl, hspace, htext, rfl⟩
    have front : (digits ++ '.' :: space :: text).takeWhile isDigit = digits := by
      rw [List.takeWhile_append_of_pos hdigits]
      simp [isDigit]
    have behind : (digits ++ '.' :: space :: text).dropWhile isDigit = '.' :: space :: text := by
      rw [List.dropWhile_append_of_pos hdigits]
      simp [isDigit]
    rw [List.append_assoc, List.singleton_append, numbered?, front, behind]
    simp [filled, htext, hspace]

theorem takeWhile_replicate_append {level : Nat} {rest : List Char} (next : rest.head? ≠ some '#') :
    (List.replicate level '#' ++ rest).takeWhile (· = '#') = List.replicate level '#' := by
  rw [List.takeWhile_append_of_pos (by simp)]
  cases rest with
  | nil => simp
  | cons c rest =>
    have other : c ≠ '#' := by simpa using next
    simp [other]

theorem isHeader_iff {l : List Char} {level : Nat} {text : List Char} :
    IsHeader l level text ↔ 0 < level ∧ (l.takeWhile (· = '#')).length = level ∧
      (l.drop level).dropWhile isSpace = text := by
  constructor
  · rintro ⟨blank, positive, hblank, htext, next, rfl⟩
    refine ⟨positive, ?_, ?_⟩
    · rw [takeWhile_replicate_append next, List.length_replicate]
    · rw [List.drop_left' List.length_replicate, List.dropWhile_append_of_pos hblank,
        dropWhile_of_head? htext]
  · rintro ⟨positive, hlevel, rfl⟩
    have signs : l.takeWhile (· = '#') = List.replicate level '#' :=
      List.eq_replicate_iff.mpr ⟨hlevel, fun c hc => by
        simpa using List.all_eq_true.mp List.all_takeWhile c hc⟩
    have behind : (l.takeWhile (· = '#') ++ l.dropWhile (· = '#')).drop level =
        l.dropWhile (· = '#') := List.drop_left' hlevel
    rw [List.takeWhile_append_dropWhile] at behind
    refine ⟨(l.drop level).takeWhile isSpace, positive, List.all_eq_true.mp List.all_takeWhile,
      head?_dropWhile, ?_, ?_⟩
    · rw [List.takeWhile_append_dropWhile, behind]
      intro next
      simpa using head?_dropWhile '#' next
    · rw [List.takeWhile_append_dropWhile, behind, ← signs, List.takeWhile_append_dropWhile]

/-! ### The block of a line -/

/-- The blocks that a trimmed line can be shown as: the first shape that it has decides. -/
inductive Shows (l : List Char) : Block → Prop
  | blank : l = [] → Shows l .blank
  | bold {pieces spans} : HasPair l → IsBold l pieces spans → Shows l (.paragraph spans)
  | bullet {text} : ¬ HasPair l → IsBullet l text → Shows l (.bullet (String.ofList text))
  | numbered {marker text} : ¬ HasPair l → (∀ t, ¬ IsBullet l t) → IsNumbered l marker text →
      Shows l (.numbered (String.ofList marker) (String.ofList text))
  | header {level text} : ¬ HasPair l → (∀ t, ¬ IsBullet l t) → (∀ m t, ¬ IsNumbered l m t) →
      IsHeader l level text → Shows l (.header level (String.ofList text))
  | plain : l ≠ [] → ¬ HasPair l → (∀ t, ¬ IsBullet l t) → (∀ m t, ¬ IsNumbered l m t) →
      (∀ n t, ¬ IsHeader l n t) → Shows l (.paragraph [⟨String.ofList l, false⟩])

theorem shows_blockOf {l : List Char} (trimmed : IsTrimmed l) : Shows l (blockOf l) := by
  by_cases empty : l = []
  · subst empty
    exact .blank rfl
  by_cases pair : HasPair l
  · obtain ⟨pieces, bold⟩ := isBold_iff.mpr (Eq.refl (boldSpans false (boldPieces l)))
    simpa [blockOf, empty, hasBold_iff.mpr pair] using Shows.bold pair bold
  have noBold : hasBold l = false := by simpa using mt hasBold_iff.mp pair
  simp only [blockOf, List.isEmpty_iff, empty, if_false, noBold, Bool.false_eq_true]
  split
  · rename_i text read
    exact .bullet pair ((bulletText?_eq_some_iff trimmed).mp read)
  · rename_i noBullet
    have notBullet : ∀ t, ¬ IsBullet l t := by
      intro t bullet
      rw [(bulletText?_eq_some_iff trimmed).mpr bullet] at noBullet
      cases noBullet
    split
    · rename_i marker text read
      exact .numbered pair notBullet (numbered?_eq_some_iff.mp read)
    · rename_i noNumber
      have notNumbered : ∀ m t, ¬ IsNumbered l m t := by
        intro m t numbered
        rw [numbered?_eq_some_iff.mpr numbered] at noNumber
        cases noNumber
      split
      · rename_i noSign
        refine .plain empty pair notBullet notNumbered (fun n t header => ?_)
        obtain ⟨positive, level, -⟩ := isHeader_iff.mp header
        omega
      · rename_i sign
        exact .header pair notBullet notNumbered
          (isHeader_iff.mpr ⟨Nat.pos_of_ne_zero sign, rfl, rfl⟩)

theorem Shows.eq_blockOf {l : List Char} {block : Block} (shows : Shows l block)
    (trimmed : IsTrimmed l) : block = blockOf l := by
  have noBold (none : ¬ HasPair l) : hasBold l = false := by simpa using mt hasBold_iff.mp none
  have noBullet (none : ∀ t, ¬ IsBullet l t) : bulletText? l = .none :=
    Option.eq_none_iff_forall_ne_some.mpr
      (fun t read => none t ((bulletText?_eq_some_iff trimmed).mp read))
  have noNumber (none : ∀ m t, ¬ IsNumbered l m t) : numbered? l = .none :=
    Option.eq_none_iff_forall_ne_some.mpr
      (fun read found => none read.1 read.2 (numbered?_eq_some_iff.mp found))
  cases shows with
  | blank empty =>
    subst empty
    rfl
  | bold pair bold =>
    have filled : l ≠ [] := by
      rintro rfl
      simp [HasPair] at pair
    simp [blockOf, filled, hasBold_iff.mpr pair, isBold_iff.mp ⟨_, bold⟩]
  | bullet pair bullet =>
    have filled : l ≠ [] := by
      rintro rfl
      obtain ⟨mark, blank, -, -, -, whole⟩ := bullet
      cases whole
    simp [blockOf, filled, noBold pair, (bulletText?_eq_some_iff trimmed).mpr bullet]
  | numbered pair notBullet numbered =>
    have filled : l ≠ [] := by
      rintro rfl
      obtain ⟨digits, space, -, -, -, -, -, whole⟩ := numbered
      simp at whole
    simp [blockOf, filled, noBold pair, noBullet notBullet, numbered?_eq_some_iff.mpr numbered]
  | header pair notBullet notNumbered header =>
    obtain ⟨positive, level, text⟩ := isHeader_iff.mp header
    have filled : l ≠ [] := by
      rintro rfl
      simp at level
      omega
    simp [blockOf, filled, noBold pair, noBullet notBullet, noNumber notNumbered, level, text,
      Nat.ne_of_gt positive]
  | plain filled pair notBullet notNumbered notHeader =>
    have noSign : (l.takeWhile (· = '#')).length = 0 := by
      refine Nat.eq_zero_of_not_pos (fun sign => ?_)
      exact notHeader _ _ (isHeader_iff.mpr ⟨sign, rfl, rfl⟩)
    simp only [blockOf, List.isEmpty_iff, filled, if_false, noBold pair, Bool.false_eq_true,
      noBullet notBullet, noNumber notNumbered, noSign, if_true]

/-- A trimmed line is shown as exactly one block. -/
theorem shows_iff {l : List Char} (trimmed : IsTrimmed l) {block : Block} :
    Shows l block ↔ block = blockOf l :=
  ⟨fun shows => shows.eq_blockOf trimmed, fun same => same ▸ shows_blockOf trimmed⟩

/-! ### Slices by bytes -/

/-- The places at which a line is sliced: behind its digits, behind the full stop that follows
    them, and behind its number signs. -/
inductive SlicedAt (l : List Char) : Nat → Prop
  | digits : SlicedAt l (l.takeWhile isDigit).length
  | stop : (l.dropWhile isDigit).head? = some '.' → SlicedAt l ((l.takeWhile isDigit).length + 1)
  | signs : SlicedAt l (l.takeWhile (· = '#')).length

/-- The first bytes of a text are as many of its first characters, and none is cut through. -/
structure CutsCharacters (l : List Char) (n : Nat) : Prop where
  valid : String.Pos.Raw.IsValid (String.ofList l) ⟨n⟩
  bytes : (String.ofList (l.take n)).utf8ByteSize = n

theorem utf8ByteSize_of_ascii {cs : List Char} (ascii : ∀ c ∈ cs, c.toNat < 128) :
    (String.ofList cs).utf8ByteSize = cs.length := by
  induction cs with
  | nil => rfl
  | cons c cs ih =>
    rw [List.forall_mem_cons] at ascii
    have one : c.utf8Size = 1 :=
      Char.utf8Size_eq_one_iff.mpr (UInt32.le_iff_toNat_le.mpr (Nat.le_of_lt_succ ascii.1))
    rw [String.ofList_cons, String.utf8ByteSize_append, String.utf8ByteSize_singleton, one,
      ih ascii.2, List.length_cons, Nat.add_comm]

theorem cutsCharacters_of_ascii {front : List Char} (ascii : ∀ c ∈ front, c.toNat < 128)
    (behind : List Char) :
    CutsCharacters (front ++ behind) front.length := by
  have bytes := utf8ByteSize_of_ascii ascii
  refine ⟨String.Pos.Raw.isValid_iff_exists_append.mpr ?_, ?_⟩
  · refine ⟨String.ofList front, String.ofList behind, String.ofList_append, ?_⟩
    rw [String.rawEndPos, bytes]
  · rw [List.take_left, bytes]

theorem isDigit_ascii {c : Char} (digit : isDigit c = true) : c.toNat < 128 := by
  simp only [isDigit, Bool.and_eq_true, decide_eq_true_eq] at digit
  omega

/-- **No slice goes through the middle of a character**: all that stands before it is ASCII. -/
theorem SlicedAt.cutsCharacters {l : List Char} {n : Nat} (sliced : SlicedAt l n) :
    CutsCharacters l n := by
  have digits : ∀ c ∈ l.takeWhile isDigit, c.toNat < 128 :=
    fun c hc => isDigit_ascii (List.all_eq_true.mp List.all_takeWhile c hc)
  have parts := List.takeWhile_append_dropWhile (p := isDigit) (l := l)
  cases sliced with
  | digits =>
    have cut := cutsCharacters_of_ascii digits (l.dropWhile isDigit)
    rwa [parts] at cut
  | stop next =>
    obtain ⟨rest, behind⟩ := List.head?_eq_some_iff.mp next
    have front : ∀ c ∈ l.takeWhile isDigit ++ ['.'], c.toNat < 128 := by
      simpa [or_imp, forall_and] using digits
    have cut := cutsCharacters_of_ascii front rest
    rw [List.append_assoc, List.singleton_append, ← behind, parts] at cut
    simpa using cut
  | signs =>
    have signs : ∀ c ∈ l.takeWhile (· = '#'), c.toNat < 128 := by
      intro c hc
      have sign : c = '#' := by simpa using List.all_eq_true.mp List.all_takeWhile c hc
      subst sign
      decide
    have cut := cutsCharacters_of_ascii signs (l.dropWhile (· = '#'))
    rwa [List.takeWhile_append_dropWhile] at cut

/-! ### The whole reply -/

/-- **Formatting loses no text**: a reply is its lines with line ends between them, and each of
    them is shown as one block, in order.  It is the block of the first shape that the
    trimmed line has, and the line is sliced between characters only. -/
theorem format_loses_nothing (text : String) :
    ∃ lines : List (List Char), lines ≠ [] ∧ joined '\n' lines = text.toList ∧
      (∀ line ∈ lines, ¬ '\n' ∈ line) ∧
      List.Forall₂ (fun line block => ∃ l, (∀ k, IsTrimOf k line ↔ k = l) ∧
        (∀ b, Shows l b ↔ b = block) ∧ ∀ n, SlicedAt l n → CutsCharacters l n)
        lines (format text) := by
  refine ⟨pieces '\n' text.toList, pieces_ne_nil _ _, joined_pieces _ _,
    fun line hline => not_mem_of_mem_pieces hline, ?_⟩
  rw [format, List.forall₂_map_right_iff, List.forall₂_same]
  intro line _
  refine ⟨trimChars line, fun k => ?_, fun b => shows_iff (isTrimmed_trimChars line),
    fun n sliced => sliced.cutsCharacters⟩
  rw [isTrimOf_iff, eq_comm]

example : format "• a\n***b** c\n1.\u3000d\n-" =
    [.bullet "a", .paragraph [⟨"*b", true⟩, ⟨" c", false⟩], .numbered "1." "d", .bullet ""] := by
  decide +kernel

end Chat

end ResourceCatalog
