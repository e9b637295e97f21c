/-
  ResourceCatalog/Proofs/Text/FormRoundTrip.lean
  ==============================================
  **Written pairs are read back.**

  A written name or value has no ampersand, equals sign, question mark or number
  sign in it, so pairs that are put together are cut apart in the same places and
  nothing ends them early.  All of it is ASCII, so the bytes are the characters.
-/
import ResourceCatalog.Text.Form

namespace ResourceCatalog.Text

/-! ### Pieces -/

section Pieces

variable {α : Type} [DecidableEq α]

theorem pieces_append (sep : α) (xs ys : List α) :
    pieces sep (xs ++ sep :: ys) = pieces sep xs ++ pieces sep ys := by
  induction xs with
  | nil => simp [pieces]
  | cons x xs ih =>
    rw [List.cons_append, pieces, pieces, ih]
    split
    · rfl
    · cases hp : pieces sep xs with
      | nil => exact absurd hp (pieces_ne_nil sep xs)
      | cons p ps => rfl

/-- What is put together is cut up in the same places, and wherever its parts are. -/
theorem pieces_joined (sep : α) {ps : List (List α)} (h : ps ≠ []) :
    pieces sep (joined sep ps) = ps.flatMap (pieces sep) := by
  induction ps with
  | nil => exact absurd rfl h
  | cons p ps ih =>
    cases ps with
    | nil => simp [joined]
    | cons q ps =>
      rw [joined, pieces_append, ih (List.cons_ne_nil q ps), ← List.flatMap_cons]

theorem flatMap_pieces_of_not_mem {sep : α} {ps : List (List α)} (h : ∀ p ∈ ps, ¬ sep ∈ p) :
    ps.flatMap (pieces sep) = ps := by
  induction ps with
  | nil => rfl
  | cons p ps ih =>
    rw [List.flatMap_cons, pieces_of_not_mem (h p List.mem_cons_self),
      ih (fun q hq => h q (List.mem_cons_of_mem p hq)), List.singleton_append]

omit [DecidableEq α] in
theorem mem_joined {sep x : α} {ps : List (List α)} (h : x ∈ joined sep ps) :
    x = sep ∨ ∃ p ∈ ps, x ∈ p := by
  induction ps with
  | nil => cases h
  | cons p ps ih =>
    cases ps with
    | nil => exact Or.inr ⟨p, List.mem_cons_self, h⟩
    | cons q ps =>
      rw [joined, List.mem_append, List.mem_cons] at h
      rcases h with h | rfl | h
      · exact Or.inr ⟨p, List.mem_cons_self, h⟩
      · exact Or.inl rfl
      · rcases ih h with rfl | ⟨r, hr, hx⟩
        · exact Or.inl rfl
        · exact Or.inr ⟨r, List.mem_cons_of_mem p hr, hx⟩

end Pieces

namespace Form

/-! ### The bytes of written text -/

/-- A byte of a written name or value: a plain one, a plus sign or a percent sign. -/
def IsWritten (b : UInt8) : Prop := isPlain b.toNat = true ∨ b = 0x2B ∨ b = 0x25

theorem isWritten_of_mem_writeByte {b c : UInt8} (h : c ∈ writeByte b) : IsWritten c := by
  have digit : ∀ m : Fin 16, isPlain (UInt8.ofNat (capitalDigit m.val)).toNat = true := by decide
  have bound : b.toNat < 256 := UInt8.toNat_lt b
  rw [writeByte] at h
  split at h
  · rename_i plain
    obtain rfl := List.mem_singleton.mp h
    exact Or.inl plain
  · split at h
    · obtain rfl := List.mem_singleton.mp h
      exact Or.inr (Or.inl rfl)
    · simp only [List.mem_cons, List.not_mem_nil, or_false] at h
      rcases h with rfl | rfl | rfl
      · exact Or.inr (Or.inr rfl)
      · exact Or.inl (digit ⟨b.toNat / 16, by omega⟩)
      · exact Or.inl (digit ⟨b.toNat % 16, by omega⟩)

theorem isWritten_of_mem_writeText {s : String} {c : UInt8} (h : c ∈ writeText s) :
    IsWritten c := by
  obtain ⟨b, -, hc⟩ := List.mem_flatMap.mp h
  exact isWritten_of_mem_writeByte hc

/-- Written text is ASCII, and has none of the characters that cut an address up. -/
theorem IsWritten.spec {b : UInt8} (h : IsWritten b) :
    b.toNat < 128 ∧ b ≠ 0x26 ∧ b ≠ 0x3D := by
  rcases h with plain | rfl | rfl
  · refine ⟨?_, ?_, ?_⟩
    · simp only [isPlain, Bool.or_eq_true, Bool.and_eq_true, beq_iff_eq, decide_eq_true_iff] at plain
      omega
    · rintro rfl
      cases plain
    · rintro rfl
      cases plain
  · decide
  · decide

theorem not_mem_writeText {s : String} {sep : UInt8} (h : sep = 0x26 ∨ sep = 0x3D) :
    ¬ sep ∈ writeText s := by
  intro mem
  obtain ⟨-, noAmpersand, noEquals⟩ := (isWritten_of_mem_writeText mem).spec
  rcases h with rfl | rfl
  · exact noAmpersand rfl
  · exact noEquals rfl

theorem mem_writePairs {ps : List (String × String)} {b : UInt8} (h : b ∈ writePairs ps) :
    IsWritten b ∨ b = 0x26 ∨ b = 0x3D := by
  rcases mem_joined h with rfl | ⟨bytes, hbytes, hb⟩
  · exact Or.inr (Or.inl rfl)
  · obtain ⟨p, -, rfl⟩ := List.mem_map.mp hbytes
    rw [writePair, List.mem_append, List.mem_cons] at hb
    rcases hb with hb | rfl | hb
    · exact Or.inl (isWritten_of_mem_writeText hb)
    · exact Or.inr (Or.inr rfl)
    · exact Or.inl (isWritten_of_mem_writeText hb)

/-! ### The round trip -/

theorem readPair_writePair (p : String × String) : readPair (writePair p) = p := by
  have name : ∀ b ∈ writeText p.1, (b != 0x3D) = true := by
    intro b hb
    exact bne_iff_ne.mpr (isWritten_of_mem_writeText hb).spec.2.2
  rw [readPair, writePair, List.takeWhile_append_of_pos name, List.dropWhile_append_of_pos name]
  simp [readText_writeText]

theorem readPairs_writePairs (ps : List (String × String)) : readPairs (writePairs ps) = ps := by
  cases hps : ps with
  | nil => rfl
  | cons p rest =>
    rw [← hps]
    have parts : ps.map writePair ≠ [] := by simp [hps]
    have apart : ∀ bytes ∈ ps.map writePair, ¬ (0x26 : UInt8) ∈ bytes := by
      intro bytes hbytes
      obtain ⟨p, -, rfl⟩ := List.mem_map.mp hbytes
      rw [writePair, List.mem_append, List.mem_cons, not_or, not_or]
      exact ⟨not_mem_writeText (Or.inl rfl), by decide, not_mem_writeText (Or.inl rfl)⟩
    rw [readPairs, writePairs, pieces_joined _ parts, flatMap_pieces_of_not_mem apart]
    have full : (ps.map writePair).filter (fun bytes => !bytes.isEmpty) = ps.map writePair := by
      refine List.filter_eq_self.mpr (fun bytes hbytes => ?_)
      obtain ⟨p, -, rfl⟩ := List.mem_map.mp hbytes
      simp [writePair]
    rw [full, List.map_map]
    refine (List.map_congr_left (fun p _ => ?_)).trans (List.map_id _)
    exact readPair_writePair p

/-- ASCII bytes are the bytes of the text they make. -/
theorem encode_asciiText {bs : List UInt8} (h : ∀ b ∈ bs, b.toNat < 128) :
    Utf8.encode (asciiText bs) = bs := by
  have one : ∀ n : Fin 128, String.utf8EncodeChar (Char.ofNat n.val) = [UInt8.ofNat n.val] := by
    decide
  rw [Utf8.encode, asciiText, String.toList_ofList, Utf8.encodeChars]
  induction bs with
  | nil => rfl
  | cons b bs ih =>
    rw [List.map_cons, List.flatMap_cons, one ⟨b.toNat, h b List.mem_cons_self⟩,
      ih (fun c hc => h c (List.mem_cons_of_mem b hc)), UInt8.ofNat_toNat, List.singleton_append]

/-- **What is written is read back**, whatever the names and values are. -/
theorem read_write (ps : List (String × String)) : read (write ps) = ps := by
  have ascii : ∀ b ∈ writePairs ps, b.toNat < 128 := by
    intro b hb
    rcases mem_writePairs hb with written | rfl | rfl
    · exact written.spec.1
    · decide
    · decide
  rw [read, write, encode_asciiText ascii, readPairs_writePairs]

theorem write_eq_empty_iff {ps : List (String × String)} : write ps = "" ↔ ps = [] := by
  constructor
  · intro empty
    rw [← read_write ps, empty]
    rfl
  · rintro rfl
    rfl

/-- The characters of what is written: ASCII letters and digits, and these. -/
def isFormChar (c : Char) : Bool :=
  c.isAlphanum || ['*', '-', '.', '_', '+', '%', '=', '&'].contains c

/-- **What is written is made of few characters**, whatever the names and values are. -/
theorem isFormChar_of_mem_write {ps : List (String × String)} {c : Char}
    (h : c ∈ (write ps).toList) : isFormChar c = true := by
  rw [write, asciiText, String.toList_ofList] at h
  obtain ⟨b, hb, rfl⟩ := List.mem_map.mp h
  have plain : ∀ n : Fin 128, isPlain n.val = true → isFormChar (Char.ofNat n.val) = true := by
    decide
  rcases mem_writePairs hb with written | rfl | rfl
  · have ascii := written.spec.1
    rcases written with letter | rfl | rfl
    · exact plain ⟨b.toNat, ascii⟩ letter
    · decide
    · decide
  · decide
  · decide

/-- Nothing in what is written begins a query or ends it. -/
theorem mem_write {ps : List (String × String)} {c : Char} (h : c ∈ (write ps).toList) :
    c ≠ '?' ∧ c ≠ '#' := by
  have form := isFormChar_of_mem_write h
  constructor
  · rintro rfl
    revert form
    decide
  · rintro rfl
    revert form
    decide

theorem write_head? (ps : List (String × String)) : (write ps).toList.head? ≠ some '?' :=
  fun mark => (mem_write (List.mem_of_head? mark)).1 rfl

end Form

end ResourceCatalog.Text
