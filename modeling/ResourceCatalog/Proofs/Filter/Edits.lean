/-
  ResourceCatalog/Proofs/Filter/Edits.lean
  ========================================
  **Toggles do not depend on their order, and cancel in pairs.**

  Whether a member is in a set that is toggled again and again depends on two things: on
  whether it was there at the start, and on whether it was toggled an odd number of times
  (`OrderedSet.mem_toggled`).  So the tags and the kinds after any number of edits are
  symmetric differences, and the order of the edits shows in the search text only.

  A tag without characters is toggled in vain, whether or not it was there at the start.
-/
import Mathlib.Algebra.Ring.Parity
import Mathlib.Data.Set.SymmDiff
import Mathlib.Order.ConditionallyCompleteLattice.Basic
import ResourceCatalog.Filter.Query

namespace ResourceCatalog

/-! ### Sets that are toggled -/

namespace OrderedSet

variable {α : Type} [Sortable α] [DecidableEq α]

/-- The members of a list are toggled one after the other. -/
def toggled (xs : List α) (s : OrderedSet α) : OrderedSet α := xs.foldl (fun s a => s.toggle a) s

@[simp] theorem toggled_nil (s : OrderedSet α) : s.toggled [] = s := rfl

@[simp] theorem toggled_cons (a : α) (xs : List α) (s : OrderedSet α) :
    s.toggled (a :: xs) = (s.toggle a).toggled xs := rfl

/-- **What is toggled an odd number of times changes sides**, and nothing else does. -/
theorem mem_toggled {xs : List α} {s : OrderedSet α} {x : α} :
    x ∈ s.toggled xs ↔ (x ∈ s ∧ ¬ Odd (xs.count x)) ∨ (Odd (xs.count x) ∧ ¬ x ∈ s) := by
  induction xs generalizing s with
  | nil => simp
  | cons a xs ih =>
    rw [toggled_cons, ih, mem_toggle]
    by_cases here : x = a
    · subst here
      rw [List.count_cons_self, Nat.odd_add_one]
      by_cases inside : x ∈ s <;> simp [inside]
    · rw [List.count_cons_of_ne (Ne.symm here)]
      simp [here]

/-- Only how often each member is toggled matters. -/
theorem toggled_perm {xs ys : List α} (h : xs.Perm ys) (s : OrderedSet α) :
    s.toggled xs = s.toggled ys := by
  apply ext_mem
  intro x
  rw [mem_toggled, mem_toggled, h.count_eq]

theorem toggle_toggle (a : α) (s : OrderedSet α) : (s.toggle a).toggle a = s := by
  apply ext_mem
  intro x
  rw [mem_toggle, mem_toggle]
  by_cases here : x = a <;> by_cases inside : x ∈ s <;> simp [here, inside]

end OrderedSet

/-! ### Edits -/

/-- A change of the filters. -/
inductive Edit where
  | toggleTag (tag : String)
  | toggleType (type : ResourceType)
  | withSearchText (text : String)
deriving DecidableEq, Repr

namespace Edit

def apply : Edit → FilterState → FilterState
  | toggleTag tag, s => s.toggleTag tag
  | toggleType type, s => s.toggleType type
  | withSearchText text, s => s.withSearchText text

/-- The tag that the edit selects or deselects. -/
def tag? : Edit → Option String
  | toggleTag tag => if tag = "" then none else some tag
  | _ => none

def type? : Edit → Option ResourceType
  | toggleType type => some type
  | _ => none

/-- The search text that the edit sets. -/
def text? : Edit → Option String
  | withSearchText text => some text
  | _ => none

end Edit

namespace FilterState

/-- The filters after some edits, one after the other. -/
def edited (es : List Edit) (s : FilterState) : FilterState := es.foldl (fun s e => e.apply s) s

@[simp] theorem edited_nil (s : FilterState) : s.edited [] = s := rfl

@[simp] theorem edited_cons (e : Edit) (es : List Edit) (s : FilterState) :
    s.edited (e :: es) = (e.apply s).edited es := rfl

theorem edited_append (es fs : List Edit) (s : FilterState) :
    s.edited (es ++ fs) = (s.edited es).edited fs := List.foldl_append

/-! ### The three parts of the filters -/

theorem tags_edited (es : List Edit) (s : FilterState) :
    (s.edited es).tags = s.tags.toggled (es.filterMap Edit.tag?) := by
  induction es generalizing s with
  | nil => rfl
  | cons e es ih =>
    rw [edited_cons, ih]
    cases e with
    | toggleTag tag =>
      by_cases blank : tag = "" <;> simp [Edit.apply, Edit.tag?, toggleTag, blank]
    | toggleType type => rfl
    | withSearchText text => rfl

theorem types_edited (es : List Edit) (s : FilterState) :
    (s.edited es).types = s.types.toggled (es.filterMap Edit.type?) := by
  induction es generalizing s with
  | nil => rfl
  | cons e es ih =>
    rw [edited_cons, ih]
    cases e with
    | toggleTag tag => exact congrArg (OrderedSet.toggled _) (s.types_toggleTag tag)
    | toggleType type => rfl
    | withSearchText text => rfl

theorem searchText_edited (es : List Edit) (s : FilterState) :
    (s.edited es).searchText = (es.filterMap Edit.text?).getLast?.getD s.searchText := by
  induction es generalizing s with
  | nil => rfl
  | cons e es ih =>
    rw [edited_cons, ih]
    cases e with
    | toggleTag tag => exact congrArg (Option.getD _) (s.searchText_toggleTag tag)
    | toggleType type => rfl
    | withSearchText text =>
      -- a later text counts instead of this one
      have texts : (Edit.withSearchText text :: es).filterMap Edit.text? =
          text :: es.filterMap Edit.text? := rfl
      rw [texts, List.getLast?_cons]
      cases (es.filterMap Edit.text?).getLast? <;> rfl

/-! ### How often something is toggled -/

theorem count_tags (es : List Edit) (tag : String) :
    Odd ((es.filterMap Edit.tag?).count tag) ↔ tag ≠ "" ∧ Odd (es.count (.toggleTag tag)) := by
  rw [List.count_filterMap, List.count]
  by_cases blank : tag = ""
  · have never : es.countP (fun e => e.tag? == some tag) = 0 := by
      apply List.countP_eq_zero.mpr
      intro e he
      cases e <;> simp [Edit.tag?, blank]
    rw [never]
    simp [blank]
  · have same : es.countP (fun e => e.tag? == some tag) = es.countP (· == .toggleTag tag) := by
      apply List.countP_congr
      intro e he
      cases e with
      | toggleTag other =>
        by_cases named : other = tag <;> simp [Edit.tag?, named, blank]
      | toggleType type => simp [Edit.tag?]
      | withSearchText text => simp [Edit.tag?]
    simp [same, blank]

theorem count_types (es : List Edit) (type : ResourceType) :
    (es.filterMap Edit.type?).count type = es.count (.toggleType type) := by
  rw [List.count_filterMap, List.count]
  apply List.countP_congr
  intro e he
  cases e <;> simp [Edit.type?]

/-! ### Edits in another order -/

/-- The same edits in another order, the search texts among them in the same one. -/
def Reordered (es fs : List Edit) : Prop :=
  es.Perm fs ∧ es.filterMap Edit.text? = fs.filterMap Edit.text?

instance (es fs : List Edit) : Decidable (Reordered es fs) := inferInstanceAs (Decidable (_ ∧ _))

theorem eq_of_parts {s t : FilterState} (text : s.searchText = t.searchText)
    (tags : s.tags = t.tags) (types : s.types = t.types) : s = t := by
  cases s
  cases t
  simp_all

theorem edited_of_reordered {es fs : List Edit} (h : Reordered es fs) (s : FilterState) :
    s.edited fs = s.edited es := by
  obtain ⟨perm, texts⟩ := h
  apply eq_of_parts
  · rw [searchText_edited, searchText_edited, texts]
  · rw [tags_edited, tags_edited, OrderedSet.toggled_perm (perm.filterMap _)]
  · rw [types_edited, types_edited, OrderedSet.toggled_perm (perm.filterMap _)]

theorem edited_pair {e : Edit} (toggle : e.text? = none) (s : FilterState) :
    s.edited [e, e] = s := by
  cases e with
  | toggleTag tag =>
    apply eq_of_parts
    · exact (searchText_toggleTag _ _).trans (searchText_toggleTag _ _)
    · by_cases blank : tag = ""
      · simp [Edit.apply, toggleTag, blank]
      · simp [Edit.apply, toggleTag, blank, OrderedSet.toggle_toggle]
    · exact (types_toggleTag _ _).trans (types_toggleTag _ _)
  | toggleType type => exact eq_of_parts rfl rfl (OrderedSet.toggle_toggle type s.types)
  | withSearchText text => cases toggle

/-- The other one of a pair may come later. -/
theorem edited_twice {e : Edit} (toggle : e.text? = none) (before between after : List Edit)
    (s : FilterState) :
    s.edited (before ++ e :: (between ++ e :: after)) = s.edited (before ++ (between ++ after)) := by
  have together : Reordered (before ++ e :: (between ++ e :: after))
      ([e, e] ++ (before ++ (between ++ after))) := by
    constructor
    · have inner : (e :: (between ++ e :: after)).Perm ([e, e] ++ (between ++ after)) :=
        (List.perm_middle).cons e
      exact (inner.append_left before).trans
        (List.perm_append_comm_assoc before [e, e] (between ++ after))
    · simp [toggle]
  rw [← edited_of_reordered together, edited_append, edited_pair toggle]

/-! ### Symmetric differences -/

/-- **Edits are symmetric differences**: the tags after any edits are those that were there at
    the start and those, other than the empty one, that were toggled an odd number of times,
    but for what is both; so are the kinds, and the search text is the last that was set.
    So edits in another order, and toggles that come in pairs, lead to the same filters, the
    same query over every other one, and the same listing request. -/
theorem edits_are_symmetric_differences (s : FilterState) (es : List Edit) :
    {tag | tag ∈ (s.edited es).tags} =
        symmDiff {tag | tag ∈ s.tags} {tag | tag ≠ "" ∧ Odd (es.count (.toggleTag tag))} ∧
      {type | type ∈ (s.edited es).types} =
        symmDiff {type | type ∈ s.types} {type | Odd (es.count (.toggleType type))} ∧
      (s.edited es).searchText = (es.filterMap Edit.text?).getLast?.getD s.searchText ∧
      (∀ fs, Reordered es fs →
        s.edited fs = s.edited es ∧
        (∀ existing,
          FilterQuery.merge existing (s.edited fs) = FilterQuery.merge existing (s.edited es)) ∧
        (s.edited fs).listRequest = (s.edited es).listRequest) ∧
      ∀ e, e.text? = none →
        s.edited [e, e] = s ∧
        (∀ existing,
          FilterQuery.merge existing (s.edited [e, e]) = FilterQuery.merge existing s) ∧
        ∀ before between after, s.edited (before ++ e :: (between ++ e :: after)) =
          s.edited (before ++ (between ++ after)) := by
  refine ⟨?_, ?_, searchText_edited es s, ?_, ?_⟩
  · ext tag
    rw [Set.mem_symmDiff, Set.mem_ofPred_eq, tags_edited, OrderedSet.mem_toggled, count_tags]
    rfl
  · ext type
    rw [Set.mem_symmDiff, Set.mem_ofPred_eq, types_edited, OrderedSet.mem_toggled, count_types]
    rfl
  · intro fs reordered
    rw [edited_of_reordered reordered s]
    exact ⟨rfl, fun _ => rfl, rfl⟩
  · intro e toggle
    rw [edited_pair toggle s]
    exact ⟨rfl, fun _ => rfl, fun before between after => edited_twice toggle before between after s⟩

/-- Filters with an empty tag, which no toggle takes out. -/
def unwritable : FilterState := { tags := .ofList ["", "b"], searchText := "start" }

def shuffled : List Edit :=
  [.toggleTag "a", .withSearchText "x", .toggleTag "", .toggleType .model, .toggleTag "b",
   .toggleTag "a", .withSearchText "y", .toggleTag "ü"]

def sortedOut : List Edit :=
  [.toggleTag "ü", .toggleType .model, .withSearchText "x", .toggleTag "a", .toggleTag "a",
   .withSearchText "y", .toggleTag "b", .toggleTag ""]

theorem edits_are_symmetric_differences_shuffled :
    Reordered shuffled sortedOut ∧ (Edit.toggleTag "").text? = none ∧
      unwritable.edited sortedOut = unwritable.edited shuffled ∧
      FilterQuery.merge "?page=2&tags=b" (unwritable.edited sortedOut) =
        FilterQuery.merge "?page=2&tags=b" (unwritable.edited shuffled) ∧
      unwritable.edited [.toggleTag "", .toggleTag ""] = unwritable ∧
      (unwritable.edited shuffled).tags.toList = ["", "ü"] ∧
      (unwritable.edited shuffled).types.toList = [.model] ∧
      (unwritable.edited shuffled).searchText = "y" := by
  obtain ⟨-, -, -, reordered, twice⟩ := edits_are_symmetric_differences unwritable shuffled
  have order : Reordered shuffled sortedOut := by decide +kernel
  obtain ⟨same, query, -⟩ := reordered sortedOut order
  exact ⟨order, rfl, same, query _, (twice (.toggleTag "") rfl).1, by decide +kernel,
    by decide +kernel, by decide +kernel⟩

end FilterState

end ResourceCatalog
