/-
  ResourceCatalog/Text/Space.lean
  ===============================
  **White space, and texts without it at their ends.**

  A character is white space when Unicode gives it the property White_Space:
  twenty-five characters, six of them controls.  Configuration values, chat
  drafts and the lines of a reply are trimmed by this class: what is left is the
  one text of which no more can be trimmed off (`isTrimOf_iff`).
-/
namespace ResourceCatalog.Text

/-- The characters with the Unicode property White_Space. -/
def isSpace (c : Char) : Bool :=
  let n := c.toNat
  (0x09 ≤ n && n ≤ 0x0D) || n == 0x20 || n == 0x85 || n == 0xA0 || n == 0x1680
    || (0x2000 ≤ n && n ≤ 0x200A) || n == 0x2028 || n == 0x2029 || n == 0x202F
    || n == 0x205F || n == 0x3000

/-- Every character that the core library takes for white space is in the class. -/
theorem isSpace_of_isWhitespace {c : Char} (h : c.isWhitespace = true) : isSpace c = true := by
  simp only [Char.isWhitespace, Bool.or_eq_true, decide_eq_true_eq] at h
  rcases h with (((rfl | rfl) | rfl) | rfl) <;> decide

/-- Leave out the longest ending whose characters all pass the test. -/
def dropEndWhile (p : Char → Bool) : List Char → List Char
  | [] => []
  | c :: cs =>
    match dropEndWhile p cs with
    | [] => if p c then [] else [c]
    | d :: ds => c :: d :: ds

/-- Leave out white space at the start and at the end. -/
def trimChars (cs : List Char) : List Char := dropEndWhile isSpace (cs.dropWhile isSpace)

/-- A text without white space at its start and its end. -/
def trim (s : String) : String := String.ofList (trimChars s.toList)

/-- Nothing but white space. -/
def isBlank (s : String) : Bool := s.toList.all isSpace

/-! ### What trimming leaves -/

theorem dropEndWhile_eq_nil_iff {p : Char → Bool} {cs : List Char} :
    dropEndWhile p cs = [] ↔ ∀ c ∈ cs, p c = true := by
  induction cs with
  | nil => simp [dropEndWhile]
  | cons c cs ih =>
    rw [dropEndWhile, List.forall_mem_cons]
    split
    · rename_i h
      have hall := ih.1 h
      by_cases hc : p c = true
      · simpa [hc] using hall
      · simp [hc]
    · rename_i d ds h
      have : ¬ ∀ c ∈ cs, p c = true := fun hall => by simp [ih.2 hall] at h
      simp [this]

/-- What is left out at the end passed the test. -/
theorem dropEndWhile_append (p : Char → Bool) (cs : List Char) :
    ∃ out, cs = dropEndWhile p cs ++ out ∧ ∀ c ∈ out, p c = true := by
  induction cs with
  | nil => exact ⟨[], rfl, fun _ h => (List.not_mem_nil h).elim⟩
  | cons c cs ih =>
    obtain ⟨out, hout, hall⟩ := ih
    rw [dropEndWhile]
    split
    · rename_i h
      rw [h, List.nil_append] at hout
      by_cases hc : p c = true
      · refine ⟨c :: cs, by simp [hc], ?_⟩
        intro x hx
        rcases List.mem_cons.1 hx with rfl | hx
        · exact hc
        · exact hall x (hout ▸ hx)
      · exact ⟨out, by simp [hc, hout], hall⟩
    · rename_i d ds h
      rw [h] at hout
      exact ⟨out, by rw [hout]; simp, hall⟩

theorem dropEndWhile_of_getLast? {p : Char → Bool} {cs : List Char}
    (last : ∀ c ∈ cs.getLast?, p c = false) : dropEndWhile p cs = cs := by
  induction cs with
  | nil => rfl
  | cons c cs ih =>
    cases cs with
    | nil => simp [dropEndWhile, last c rfl]
    | cons d cs =>
      rw [dropEndWhile, ih (fun x hx => last x (by rwa [List.getLast?_cons_cons]))]

theorem dropEndWhile_append_of_all {p : Char → Bool} {cs out : List Char}
    (all : ∀ c ∈ out, p c = true) : dropEndWhile p (cs ++ out) = dropEndWhile p cs := by
  induction cs with
  | nil => exact dropEndWhile_eq_nil_iff.mpr all
  | cons c cs ih => rw [List.cons_append, dropEndWhile, dropEndWhile, ih]

theorem getLast?_dropEndWhile {p : Char → Bool} {cs : List Char} :
    ∀ c ∈ (dropEndWhile p cs).getLast?, p c = false := by
  induction cs with
  | nil => exact fun c hc => nomatch hc
  | cons c cs ih =>
    rw [dropEndWhile]
    split
    · split
      · exact fun c hc => nomatch hc
      · rename_i visible
        intro x hx
        cases hx
        simpa using visible
    · rename_i d ds h
      rw [h] at ih
      rwa [List.getLast?_cons_cons]

/-- What is left is the one beginning that ends where it has to. -/
theorem dropEndWhile_eq_iff {p : Char → Bool} {cs rest : List Char} :
    dropEndWhile p cs = rest ↔
      (∀ c ∈ rest.getLast?, p c = false) ∧ ∃ out, cs = rest ++ out ∧ ∀ c ∈ out, p c = true := by
  constructor
  · rintro rfl
    exact ⟨getLast?_dropEndWhile, dropEndWhile_append p cs⟩
  · rintro ⟨last, out, rfl, all⟩
    rw [dropEndWhile_append_of_all all, dropEndWhile_of_getLast? last]

theorem head?_dropEndWhile {p : Char → Bool} {cs : List Char} (first : ∀ c ∈ cs.head?, p c = false) :
    ∀ c ∈ (dropEndWhile p cs).head?, p c = false := by
  cases cs with
  | nil => exact first
  | cons c cs =>
    rw [dropEndWhile]
    split
    · rw [if_neg (by simp [first c rfl])]
      exact first
    · exact first

theorem head?_dropWhile {p : Char → Bool} {cs : List Char} :
    ∀ c ∈ (cs.dropWhile p).head?, p c = false := by
  intro c hc
  have stopped := List.head?_dropWhile_not p cs
  rw [Option.mem_def.mp hc] at stopped
  simpa using stopped

theorem dropWhile_of_head? {p : Char → Bool} {cs : List Char} (first : ∀ c ∈ cs.head?, p c = false) :
    cs.dropWhile p = cs := by
  cases cs with
  | nil => rfl
  | cons c cs => exact List.dropWhile_cons_of_neg (by simp [first c rfl])

/-- What is left of a text ends as the text does. -/
theorem getLast?_dropWhile {p : Char → Bool} {cs : List Char} {c : Char}
    (h : c ∈ (cs.dropWhile p).getLast?) : c ∈ cs.getLast? := by
  rw [← List.takeWhile_append_dropWhile (p := p) (l := cs), List.getLast?_append]
  rw [Option.mem_def] at h ⊢
  rw [h, Option.some_or]

/-- A character that fails the test stays at the end. -/
theorem getLast?_dropWhile_of_not {p : Char → Bool} {cs : List Char} {c : Char}
    (ends : cs.getLast? = some c) (fails : p c = false) : (cs.dropWhile p).getLast? = some c := by
  rw [← List.takeWhile_append_dropWhile (p := p) (l := cs), List.getLast?_append,
    Option.or_eq_some_iff] at ends
  rcases ends with ends | ⟨-, inFront⟩
  · exact ends
  · have passes := List.all_eq_true.mp List.all_takeWhile c (List.mem_of_getLast? inFront)
    rw [fails] at passes
    cases passes

/-- Trimming once is enough. -/
theorem trimChars_trimChars (cs : List Char) : trimChars (trimChars cs) = trimChars cs := by
  rw [trimChars, trimChars, dropWhile_of_head? (head?_dropEndWhile head?_dropWhile),
    dropEndWhile_of_getLast? getLast?_dropEndWhile]

theorem trimChars_eq_nil_iff {cs : List Char} :
    trimChars cs = [] ↔ ∀ c ∈ cs, isSpace c = true := by
  rw [trimChars, dropEndWhile_eq_nil_iff]
  constructor
  · intro blank c hc
    rw [← List.takeWhile_append_dropWhile (p := isSpace) (l := cs), List.mem_append] at hc
    rcases hc with hc | hc
    · exact List.all_eq_true.mp List.all_takeWhile c hc
    · exact blank c hc
  · exact fun blank c hc => blank c ((List.dropWhile_suffix _).mem hc)

theorem trim_trim (s : String) : trim (trim s) = trim s := by
  rw [trim, trim, String.toList_ofList, trimChars_trimChars]

theorem isBlank_trim (s : String) : isBlank (trim s) = isBlank s := by
  rw [Bool.eq_iff_iff, isBlank, isBlank, List.all_eq_true, List.all_eq_true, trim,
    String.toList_ofList, ← trimChars_eq_nil_iff, trimChars_trimChars, trimChars_eq_nil_iff]

/-! ### Trimmed texts -/

/-- Neither the first nor the last character is white space. -/
structure IsTrimmed (l : List Char) : Prop where
  first : ∀ c ∈ l.head?, isSpace c = false
  last : ∀ c ∈ l.getLast?, isSpace c = false

def AllBlank (cs : List Char) : Prop := ∀ c ∈ cs, isSpace c = true

/-- A line is a text in white space, and nothing more can be trimmed off the text. -/
def IsTrimOf (l line : List Char) : Prop :=
  IsTrimmed l ∧ ∃ before behind, line = before ++ (l ++ behind) ∧ AllBlank before ∧ AllBlank behind

theorem isTrimmed_trimChars (cs : List Char) : IsTrimmed (trimChars cs) :=
  ⟨head?_dropEndWhile head?_dropWhile, getLast?_dropEndWhile⟩

theorem isTrimmed_of_visible {l : List Char} (visible : ∀ c ∈ l, isSpace c = false) :
    IsTrimmed l where
  first _ hc := visible _ (List.mem_of_head? hc)
  last _ hc := visible _ (List.mem_of_getLast? hc)

/-- What stands behind a trimmed text does not change how it begins. -/
theorem IsTrimmed.head?_append {l : List Char} (trimmed : IsTrimmed l) (filled : l ≠ [])
    (behind : List Char) : ∀ c ∈ (l ++ behind).head?, isSpace c = false := by
  cases l with
  | nil => exact (filled rfl).elim
  | cons c l => exact trimmed.first

theorem IsTrimmed.append {l behind : List Char} (trimmed : IsTrimmed l) (filled : l ≠ [])
    (visible : ∀ c ∈ behind, isSpace c = false) : IsTrimmed (l ++ behind) where
  first := trimmed.head?_append filled behind
  last c hc := by
    rw [List.getLast?_append, Option.mem_def, Option.or_eq_some_iff] at hc
    rcases hc with hc | ⟨-, hc⟩
    · exact visible c (List.mem_of_getLast? hc)
    · exact trimmed.last c hc

theorem IsTrimmed.trimChars_eq {l : List Char} (trimmed : IsTrimmed l) : trimChars l = l := by
  rw [trimChars, dropWhile_of_head? trimmed.first, dropEndWhile_of_getLast? trimmed.last]

theorem isTrimmed_iff {l : List Char} : IsTrimmed l ↔ trimChars l = l :=
  ⟨IsTrimmed.trimChars_eq, fun same => same ▸ isTrimmed_trimChars l⟩

instance (l : List Char) : Decidable (IsTrimmed l) := decidable_of_iff _ isTrimmed_iff.symm

theorem isTrimOf_iff {l line : List Char} : IsTrimOf l line ↔ trimChars line = l := by
  constructor
  · rintro ⟨trimmed, before, behind, rfl, hbefore, hbehind⟩
    rw [trimChars, List.dropWhile_append_of_pos hbefore]
    by_cases hl : l = []
    · subst hl
      exact trimChars_eq_nil_iff.mpr hbehind
    · rw [dropWhile_of_head? (trimmed.head?_append hl behind), dropEndWhile_append_of_all hbehind,
        dropEndWhile_of_getLast? trimmed.last]
  · rintro rfl
    obtain ⟨behind, hbehind, blank⟩ := dropEndWhile_append isSpace (line.dropWhile isSpace)
    refine ⟨isTrimmed_trimChars line, line.takeWhile isSpace, behind, ?_, ?_, blank⟩
    · rw [trimChars, ← hbehind, List.takeWhile_append_dropWhile]
    · exact List.all_eq_true.mp List.all_takeWhile

/-- A text is trimmed when there is nothing to trim. -/
theorem IsTrimmed.isTrimOf {l : List Char} (trimmed : IsTrimmed l) : IsTrimOf l l :=
  isTrimOf_iff.mpr trimmed.trimChars_eq

end ResourceCatalog.Text
