/-
  ResourceCatalog/OrderedSet.lean
  ===============================
  **Finite sets kept as strictly ascending lists.**

  A set of filters has one written form: its members in ascending order, each
  once.  The order is part of the type, so two sets with the same members are
  the same value (`OrderedSet.ext_mem`), and whatever is written from one of
  them, a query or a request, is written the same from the other.

  The order itself is a class (`Sortable`) with a decidable test and the three
  laws of a strict total order.
-/
namespace ResourceCatalog

/-- A strict total order with a decidable test: whether the first argument comes
    strictly before the second. -/
class Sortable (α : Type) where
  before : α → α → Bool
  before_irrefl : ∀ a, before a a = false
  before_trans : ∀ a b c, before a b = true → before b c = true → before a c = true
  before_total : ∀ a b, before a b = false → before b a = false → a = b

open Sortable

variable {α : Type} [Sortable α]

theorem before_asymm {a b : α} (h : before a b = true) : before b a = false := by
  cases hb : before b a with
  | false => rfl
  | true => simpa [before_irrefl a] using before_trans a b a h hb

/-- A list in ascending order; what is repeated stays repeated. -/
def sorted (xs : List α) : List α := xs.mergeSort (fun a b => !before b a)

/-- Strictly ascending lists. -/
def Ascending (xs : List α) : Prop := xs.Pairwise (fun a b => before a b = true)

/-- A finite set, held as the strictly ascending list of its members. -/
structure OrderedSet (α : Type) [Sortable α] where
  toList : List α
  ascending : Ascending toList

namespace OrderedSet

instance [DecidableEq α] : DecidableEq (OrderedSet α) := fun s t =>
  match decEq s.toList t.toList with
  | isTrue h => isTrue (by cases s; cases t; cases h; rfl)
  | isFalse h => isFalse (fun e => h (e ▸ rfl))

instance [Repr α] : Repr (OrderedSet α) := ⟨fun s n => reprPrec s.toList n⟩

/-- The set without members. -/
def empty : OrderedSet α := ⟨[], List.Pairwise.nil⟩

instance : Inhabited (OrderedSet α) := ⟨empty⟩

instance : Membership α (OrderedSet α) := ⟨fun s a => a ∈ s.toList⟩

theorem mem_def {a : α} {s : OrderedSet α} : a ∈ s ↔ a ∈ s.toList := Iff.rfl

instance [DecidableEq α] (a : α) (s : OrderedSet α) : Decidable (a ∈ s) :=
  inferInstanceAs (Decidable (a ∈ s.toList))

def isEmpty (s : OrderedSet α) : Bool := s.toList.isEmpty

/-! ### Insertion -/

/-- Put a member at its place in an ascending list, unless it is there already. -/
def place (a : α) : List α → List α
  | [] => [a]
  | b :: bs =>
    if before a b then a :: b :: bs
    else if before b a then b :: place a bs
    else b :: bs

theorem mem_place {a x : α} {xs : List α} : x ∈ place a xs ↔ x = a ∨ x ∈ xs := by
  induction xs with
  | nil => simp [place]
  | cons b bs ih =>
    rw [place]
    split
    · simp
    · split
      · simp only [List.mem_cons, ih]
        exact or_left_comm
      · rename_i h1 h2
        have : a = b := before_total a b (by simpa using h1) (by simpa using h2)
        subst this
        simp

theorem ascending_place {a : α} {xs : List α} (h : Ascending xs) : Ascending (place a xs) := by
  induction xs with
  | nil => exact List.pairwise_singleton _ _
  | cons b bs ih =>
    have hb := List.pairwise_cons.1 h
    rw [place]
    split
    · rename_i hab
      refine List.pairwise_cons.2 ⟨fun c hc => ?_, h⟩
      rcases List.mem_cons.1 hc with rfl | hc
      · exact hab
      · exact before_trans a b c hab (hb.1 c hc)
    · split
      · rename_i hba
        refine List.pairwise_cons.2 ⟨fun c hc => ?_, ih hb.2⟩
        rcases mem_place.1 hc with rfl | hc
        · exact hba
        · exact hb.1 c hc
      · exact h

/-- The set with one more member. -/
def insert (a : α) (s : OrderedSet α) : OrderedSet α :=
  ⟨place a s.toList, ascending_place s.ascending⟩

@[simp] theorem mem_insert {a x : α} {s : OrderedSet α} : x ∈ s.insert a ↔ x = a ∨ x ∈ s :=
  mem_place

/-- The set of the members of a list, in whatever order and however often they stand there. -/
def ofList (xs : List α) : OrderedSet α := xs.foldr insert empty

@[simp] theorem not_mem_empty {x : α} : ¬ x ∈ (empty : OrderedSet α) := List.not_mem_nil

@[simp] theorem mem_ofList {x : α} {xs : List α} : x ∈ ofList xs ↔ x ∈ xs := by
  induction xs with
  | nil => exact ⟨fun h => (not_mem_empty h).elim, fun h => (List.not_mem_nil h).elim⟩
  | cons a as ih =>
    rw [ofList, List.foldr_cons, mem_insert, List.mem_cons]
    exact or_congr Iff.rfl ih

/-! ### Removal and toggling -/

section Removal

variable [DecidableEq α]

/-- The set without one member. -/
def erase (a : α) (s : OrderedSet α) : OrderedSet α :=
  ⟨s.toList.filter (fun x => x ≠ a), s.ascending.filter _⟩

@[simp] theorem mem_erase {a x : α} {s : OrderedSet α} : x ∈ s.erase a ↔ x ∈ s ∧ x ≠ a := by
  simp [mem_def, erase]

/-- Take a member out if it is there, and put it in otherwise. -/
def toggle (a : α) (s : OrderedSet α) : OrderedSet α :=
  if a ∈ s then s.erase a else s.insert a

/-- Toggling changes membership of the toggled element and of no other. -/
theorem mem_toggle {a x : α} {s : OrderedSet α} :
    x ∈ s.toggle a ↔ (x = a ∧ ¬ x ∈ s) ∨ (x ≠ a ∧ x ∈ s) := by
  rw [toggle]
  split
  · rename_i h
    rw [mem_erase]
    constructor
    · exact fun ⟨hx, hne⟩ => Or.inr ⟨hne, hx⟩
    · rintro (⟨rfl, hx⟩ | ⟨hne, hx⟩)
      · exact (hx h).elim
      · exact ⟨hx, hne⟩
  · rename_i h
    rw [mem_insert]
    by_cases hx : x = a
    · subst hx
      simp [h]
    · simp [hx]

theorem toggle_ne (a : α) (s : OrderedSet α) : s.toggle a ≠ s := by
  intro same
  have toggled : a ∈ s.toggle a ↔ (a = a ∧ ¬ a ∈ s) ∨ (a ≠ a ∧ a ∈ s) := mem_toggle
  rw [same] at toggled
  by_cases h : a ∈ s <;> simp [h] at toggled

end Removal

/-! ### Sets are determined by their members -/

theorem ascending_ext {xs ys : List α} (hx : Ascending xs) (hy : Ascending ys)
    (h : ∀ a, a ∈ xs ↔ a ∈ ys) : xs = ys := by
  induction xs generalizing ys with
  | nil =>
    cases ys with
    | nil => rfl
    | cons y ys => exact (List.not_mem_nil ((h y).2 List.mem_cons_self)).elim
  | cons x xs ih =>
    cases ys with
    | nil => exact (List.not_mem_nil ((h x).1 List.mem_cons_self)).elim
    | cons y ys =>
      have hx' := List.pairwise_cons.1 hx
      have hy' := List.pairwise_cons.1 hy
      have hxy : x = y := by
        rcases List.mem_cons.1 ((h x).1 List.mem_cons_self) with e | hxm
        · exact e
        · rcases List.mem_cons.1 ((h y).2 List.mem_cons_self) with e | hym
          · exact e.symm
          · simpa [before_asymm (hx'.1 y hym)] using hy'.1 x hxm
      subst hxy
      congr 1
      refine ih hx'.2 hy'.2 (fun a => ⟨fun ha => ?_, fun ha => ?_⟩)
      · rcases List.mem_cons.1 ((h a).1 (List.mem_cons_of_mem _ ha)) with e | hm
        · subst e
          simpa [before_irrefl a] using hx'.1 a ha
        · exact hm
      · rcases List.mem_cons.1 ((h a).2 (List.mem_cons_of_mem _ ha)) with e | hm
        · subst e
          simpa [before_irrefl a] using hy'.1 a ha
        · exact hm

/-- Two sets with the same members are the same set. -/
theorem ext_mem {s t : OrderedSet α} (h : ∀ a, a ∈ s ↔ a ∈ t) : s = t := by
  cases s with
  | mk xs hx =>
    cases t with
    | mk ys hy =>
      have : xs = ys := ascending_ext hx hy h
      subst this
      rfl

theorem ofList_toList (s : OrderedSet α) : ofList s.toList = s :=
  ext_mem (fun _ => mem_ofList)

end OrderedSet

end ResourceCatalog
