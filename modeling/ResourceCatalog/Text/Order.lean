/-
  ResourceCatalog/Text/Order.lean
  ===============================
  **Texts in code point order.**

  Texts are compared character by character, characters by their code points,
  and a text comes before every longer text that it starts.  This is the order
  in which tags are stored, shown and sent.
-/
import ResourceCatalog.OrderedSet

namespace ResourceCatalog.Text

/-- Code point order on sequences of characters. -/
def charsBefore : List Char → List Char → Bool
  | [], [] => false
  | [], _ :: _ => true
  | _ :: _, [] => false
  | a :: as, b :: bs =>
    if a.toNat < b.toNat then true
    else if b.toNat < a.toNat then false
    else charsBefore as bs

/-- Code point order on texts. -/
def before (s t : String) : Bool := charsBefore s.toList t.toList

theorem charsBefore_irrefl (cs : List Char) : charsBefore cs cs = false := by
  induction cs with
  | nil => rfl
  | cons c cs ih => simp [charsBefore, ih]

theorem charsBefore_trans {as bs cs : List Char} (h1 : charsBefore as bs = true)
    (h2 : charsBefore bs cs = true) : charsBefore as cs = true := by
  induction as generalizing bs cs with
  | nil =>
    cases cs with
    | nil => cases bs <;> simp [charsBefore] at h1 h2
    | cons c cs => rfl
  | cons a as ih =>
    cases bs with
    | nil => simp [charsBefore] at h1
    | cons b bs =>
      cases cs with
      | nil => simp [charsBefore] at h2
      | cons c cs =>
        simp only [charsBefore] at h1 h2 ⊢
        split at h1
        · split at h2
          · rw [if_pos (by omega)]
          · split at h2
            · cases h2
            · rw [if_pos (by omega)]
        · split at h1
          · cases h1
          · split at h2
            · rw [if_pos (by omega)]
            · split at h2
              · cases h2
              · rw [if_neg (by omega), if_neg (by omega)]
                exact ih h1 h2

theorem charsBefore_total {as bs : List Char} (h1 : charsBefore as bs = false)
    (h2 : charsBefore bs as = false) : as = bs := by
  induction as generalizing bs with
  | nil =>
    cases bs with
    | nil => rfl
    | cons b bs => simp [charsBefore] at h1
  | cons a as ih =>
    cases bs with
    | nil => simp [charsBefore] at h2
    | cons b bs =>
      simp only [charsBefore] at h1 h2
      split at h1
      · cases h1
      · rename_i hab
        split at h2
        · cases h2
        · rename_i hba
          rw [if_neg hba] at h1
          have hc : a = b := Char.toNat_inj.1 (by omega)
          have ht : as = bs := ih h1 h2
          rw [hc, ht]

/-- The code points of a text. -/
def codePoints (s : String) : List Nat := s.toList.map Char.toNat

theorem before_iff_lex {s t : String} :
    before s t = true ↔ List.Lex (· < ·) (codePoints s) (codePoints t) := by
  rw [before, codePoints, codePoints]
  generalize s.toList = as
  generalize t.toList = bs
  induction as generalizing bs with
  | nil => cases bs <;> simp [charsBefore]
  | cons a as ih =>
    cases bs with
    | nil => simp [charsBefore]
    | cons b bs =>
      rw [charsBefore, List.map_cons, List.map_cons, List.cons_lex_cons_iff]
      split
      · rename_i less
        exact ⟨fun _ => Or.inl less, fun _ => rfl⟩
      · split
        · rename_i notLess more
          simp only [Bool.false_eq_true, false_iff]
          omega
        · rename_i notLess notMore
          rw [ih]
          constructor
          · intro rest
            exact Or.inr ⟨by omega, rest⟩
          · rintro (less | ⟨-, rest⟩)
            · exact absurd less notLess
            · exact rest

instance : Sortable String where
  before := before
  before_irrefl s := charsBefore_irrefl s.toList
  before_trans _ _ _ h1 h2 := charsBefore_trans h1 h2
  before_total _ _ h1 h2 := String.toList_inj.1 (charsBefore_total h1 h2)

end ResourceCatalog.Text
