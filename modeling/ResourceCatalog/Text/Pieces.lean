/-
  ResourceCatalog/Text/Pieces.lean
  ================================
  **Sequences cut at a separator.**

  `pieces` cuts at every separator and keeps the empty pieces, so joining the
  pieces with the separator gives the sequence back (`joined_pieces`); there is
  always one piece more than there are separators.
-/
namespace ResourceCatalog.Text

variable {α : Type} [DecidableEq α]

/-- Put an element in front of the first piece. -/
def consPiece (x : α) : List (List α) → List (List α)
  | [] => [[x]]
  | p :: ps => (x :: p) :: ps

/-- The pieces between separators, empty ones included. -/
def pieces (sep : α) : List α → List (List α)
  | [] => [[]]
  | x :: xs => if x = sep then [] :: pieces sep xs else consPiece x (pieces sep xs)

/-- Pieces with the separator between them. -/
def joined (sep : α) : List (List α) → List α
  | [] => []
  | [p] => p
  | p :: q :: ps => p ++ sep :: joined sep (q :: ps)

theorem pieces_ne_nil (sep : α) (xs : List α) : pieces sep xs ≠ [] := by
  cases xs with
  | nil => simp [pieces]
  | cons x xs =>
    rw [pieces]
    split
    · simp
    · cases pieces sep xs <;> simp [consPiece]

theorem joined_pieces (sep : α) (xs : List α) : joined sep (pieces sep xs) = xs := by
  induction xs with
  | nil => rfl
  | cons x xs ih =>
    rw [pieces]
    split
    · rename_i h
      cases hp : pieces sep xs with
      | nil => exact (pieces_ne_nil sep xs hp).elim
      | cons p ps =>
        rw [hp] at ih
        simp [joined, ih, h]
    · cases hp : pieces sep xs with
      | nil => exact (pieces_ne_nil sep xs hp).elim
      | cons p ps =>
        rw [hp] at ih
        cases ps with
        | nil => simpa [consPiece, joined] using ih
        | cons q ps => simpa [consPiece, joined] using ih

/-- No piece holds a separator. -/
theorem not_mem_of_mem_pieces {sep : α} {xs p : List α} (h : p ∈ pieces sep xs) : ¬ sep ∈ p := by
  induction xs generalizing p with
  | nil =>
    rw [pieces, List.mem_singleton] at h
    simp [h]
  | cons x xs ih =>
    rw [pieces] at h
    split at h
    · rcases List.mem_cons.1 h with rfl | h
      · simp
      · exact ih h
    · rename_i hx
      cases hp : pieces sep xs with
      | nil => exact (pieces_ne_nil sep xs hp).elim
      | cons q qs =>
        rw [hp, consPiece] at h
        rw [hp] at ih
        rcases List.mem_cons.1 h with rfl | h
        · intro hmem
          rcases List.mem_cons.1 hmem with e | hmem
          · exact hx e.symm
          · exact ih List.mem_cons_self hmem
        · exact ih (List.mem_cons_of_mem _ h)

theorem foldr_consPiece_cons {β : Type} (xs p : List β) (ps : List (List β)) :
    xs.foldr consPiece (p :: ps) = (xs ++ p) :: ps := by
  induction xs with
  | nil => rfl
  | cons x xs ih => rw [List.foldr_cons, ih, consPiece, List.cons_append]

/-- What holds no separator goes with the first piece of what follows. -/
theorem pieces_append_of_not_mem {sep : α} {xs : List α} (h : ¬ sep ∈ xs) (ys : List α) :
    pieces sep (xs ++ ys) = xs.foldr consPiece (pieces sep ys) := by
  induction xs with
  | nil => rfl
  | cons x xs ih =>
    rw [List.mem_cons, not_or] at h
    rw [List.cons_append, pieces, if_neg (fun same => h.1 same.symm), ih h.2, List.foldr_cons]

/-- Without a separator there is one piece. -/
theorem pieces_of_not_mem {sep : α} {xs : List α} (h : ¬ sep ∈ xs) : pieces sep xs = [xs] := by
  simpa [pieces, foldr_consPiece_cons] using pieces_append_of_not_mem h []

end ResourceCatalog.Text
