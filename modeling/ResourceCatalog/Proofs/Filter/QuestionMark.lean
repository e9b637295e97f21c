/-
  ResourceCatalog/Proofs/Filter/QuestionMark.lean
  ===============================================
  **One question mark is dropped, and a second one makes a difference.**

  A question mark in front of a text goes into its first name and changes nothing
  behind it (`read_mark`).  So the foreign parameters of a query are those of the
  query without its mark, unless it has another one behind that
  (`foreignPairs_withoutMark_iff`).
-/
import ResourceCatalog.Proofs.Filter.QueryRoundTrip

namespace ResourceCatalog

namespace Text.Form

theorem readText_mark (bs : List UInt8) : readText (0x3F :: bs) = "?" ++ readText bs := by
  have mark : (0x3F : UInt8).toNat = 63 := rfl
  rw [readText, List.map_cons, show plusToSpace 0x3F = 0x3F from rfl,
    percentDecode_cons (by decide)]
  apply String.toList_injective
  simp [readText, Utf8.decode, Utf8.decodeChars, Utf8.decodeFrom, Utf8.step, Utf8.start, mark]

theorem readPair_mark (bs : List UInt8) :
    readPair (0x3F :: bs) = ("?" ++ (readPair bs).1, (readPair bs).2) := by
  unfold readPair
  rw [List.takeWhile_cons_of_pos (by decide), List.dropWhile_cons_of_pos (by decide), readText_mark]

/-- A question mark in front goes into the first name.  Without it, an empty first piece
    is passed over. -/
theorem read_mark (text : String) :
    ∃ key value tail, read ("?" ++ text) = ("?" ++ key, value) :: tail ∧
      (read text = (key, value) :: tail ∨ read text = tail) := by
  have bytes : Utf8.encode ("?" ++ text) = 0x3F :: Utf8.encode text := by
    unfold Utf8.encode Utf8.encodeChars
    simp
    rfl
  unfold read readPairs
  rw [bytes, pieces, if_neg (by decide)]
  rcases hpieces : pieces 0x26 (Utf8.encode text) with _ | ⟨first, others⟩
  · exact absurd hpieces (pieces_ne_nil _ _)
  · refine ⟨(readPair first).1, (readPair first).2,
      (others.filter (fun p => !p.isEmpty)).map readPair, ?_, ?_⟩
    · simp [consPiece, readPair_mark]
    · cases first with
      | nil => exact Or.inr rfl
      | cons b bs => exact Or.inl rfl

end Text.Form

namespace FilterQuery

open Text

theorem isOwnKey_mark (key : String) : isOwnKey ("?" ++ key) = false := by
  have other : ∀ own : String, own.toList.head? ≠ some '?' → "?" ++ key ≠ own := by
    intro own hown same
    apply hown
    rw [← same]
    simp
  simp [isOwnKey, other tagsKey (by decide), other typesKey (by decide),
    other searchTextKey (by decide)]

theorem withoutMark_double_mark (rest : String) : withoutMark ("??" ++ rest) = "?" ++ rest := by
  rw [show "??" ++ rest = "?" ++ ("?" ++ rest) by rw [← String.append_assoc]; rfl]
  exact withoutMark_mark ("?" ++ rest)

/-- A query that loses its first question mark and still has one in front. -/
theorem exists_double_mark {q : String} (h : (withoutMark q).toList.head? = some '?')
    (changed : withoutMark q ≠ q) : ∃ rest, q = "??" ++ rest := by
  rw [withoutMark] at h
  split at h
  · rename_i rest hq
    cases rest with
    | nil => simp at h
    | cons c cs =>
      simp only [String.toList_ofList, List.head?_cons, Option.some.injEq] at h
      refine ⟨String.ofList cs, ?_⟩
      apply String.toList_injective
      simp [hq, h]
  · rename_i unmarked
    refine absurd ?_ changed
    rw [withoutMark]
    split
    · rename_i rest hq
      exact absurd hq (unmarked rest)
    · rfl

/-- **A second question mark makes a difference**: without the first one it belongs to the
    name of a parameter, and without both there is no such parameter. -/
theorem foreignPairs_withoutMark_iff (q : String) :
    foreignPairs (withoutMark q) = foreignPairs q ↔ ¬ ∃ rest, q = "??" ++ rest := by
  constructor
  · rintro same ⟨rest, rfl⟩
    obtain ⟨key, value, tail, marked, bare⟩ := Form.read_mark rest
    unfold foreignPairs at same
    rw [withoutMark_double_mark, withoutMark_mark, marked,
      List.filter_cons_of_pos (by simp [isOwnKey_mark])] at same
    -- the lists differ in length, or else in their first names
    have longer := congrArg List.length same
    rcases bare with bare | bare
    · rw [bare] at same longer
      by_cases own : isOwnKey key = true
      · simp [own] at longer
      · rw [List.filter_cons_of_pos (by simpa using own)] at same
        have name := congrArg String.length (Prod.mk.inj (List.cons.inj same).1).1
        simp at name
    · simp [bare] at longer
  · intro single
    have again : withoutMark (withoutMark q) = withoutMark q := by
      by_cases changed : withoutMark q = q
      · rw [changed, changed]
      · exact withoutMark_of_head? (fun mark => single (exists_double_mark mark changed))
    unfold foreignPairs
    rw [again]

end FilterQuery

end ResourceCatalog
