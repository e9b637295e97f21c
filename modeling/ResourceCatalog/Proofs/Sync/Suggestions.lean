/-
  ResourceCatalog/Proofs/Sync/Suggestions.lean
  ============================================
  **Tag suggestions are a canonical set.**

  The values of the tags that come in are suggested in code point order, each once and
  without the empty one.  Sorting them and leaving out what stands next to its like comes
  to the same list: in a sorted list all that is alike stands together
  (`OrderedSet.toList_ofList_eq_destutter`).  So ids, order and repetitions do not show.

  They are handed over in one call, and nothing else is touched, before the filters have
  been read as well as after.
-/
import Mathlib.Data.List.Destutter
import ResourceCatalog.Proofs.Sync.Trail
import ResourceCatalog.Text.Order

namespace ResourceCatalog

/-! ### Sorting and leaving out repetitions -/

namespace OrderedSet

open Sortable

variable {α : Type} [Sortable α]

theorem mem_sorted {x : α} {xs : List α} : x ∈ sorted xs ↔ x ∈ xs := List.mem_mergeSort

/-- Nothing in a sorted list comes before what stands in front of it. -/
theorem pairwise_sorted (xs : List α) : (sorted xs).Pairwise (fun a b => before b a = false) := by
  have trans : ∀ a b c : α, (!before b a) = true → (!before c b) = true → (!before c a) = true := by
    intro a b c ab bc
    rw [Bool.not_eq_true'] at ab bc ⊢
    by_contra ca
    rw [Bool.not_eq_false] at ca
    -- otherwise `b` comes before `c` or is `c`, and so before `a`
    cases hbc : before b c with
    | true => simp [before_trans b c a hbc ca] at ab
    | false =>
      rw [before_total b c hbc bc, ca] at ab
      cases ab
  have total : ∀ a b : α, (!before b a || !before a b) = true := by
    intro a b
    cases hab : before a b with
    | true => simp [before_asymm hab]
    | false => simp
  have sorts := List.pairwise_mergeSort trans total xs
  exact sorts.imp (fun h => by simpa using h)

/-- **Sorting and leaving out what stands next to its like** gives the members of a set. -/
theorem toList_ofList_eq_destutter [DecidableEq α] (xs : List α) :
    (ofList xs).toList = (sorted xs).destutter (· ≠ ·) := by
  have antisymm : Std.Antisymm (fun a b : α => before b a = false) :=
    ⟨fun a b ab ba => before_total a b ba ab⟩
  rw [(pairwise_sorted xs).destutter_eq_dedup]
  apply ascending_ext (ofList xs).ascending
  · have order := (pairwise_sorted xs).sublist (List.dedup_sublist _)
    have apart := List.nodup_dedup (sorted xs)
    refine (order.and apart).imp ?_
    rintro a b ⟨notAfter, ne⟩
    by_contra notBefore
    exact ne (before_total a b (by simpa using notBefore) notAfter)
  · intro a
    rw [List.mem_dedup, mem_sorted]
    exact mem_ofList

end OrderedSet

namespace Sync

open Text

/-! ### The suggestions -/

namespace Synchronizer

/-- The values of some tags, as they came in, without empty ones. -/
def valuesOf (tags : List Tag) : List String := (tags.map Tag.value).filter (fun v => v ≠ "")

theorem mem_valuesOf {tags : List Tag} {v : String} :
    v ∈ valuesOf tags ↔ v ≠ "" ∧ ∃ t ∈ tags, t.value = v := by
  simp [valuesOf, and_comm]

theorem mem_suggestionsOf {tags : List Tag} {v : String} :
    v ∈ suggestionsOf tags ↔ v ≠ "" ∧ ∃ t ∈ tags, t.value = v := by
  rw [suggestionsOf, ← OrderedSet.mem_def, OrderedSet.mem_ofList]
  exact mem_valuesOf

/-- Each suggestion comes before the next in code point order. -/
theorem pairwise_suggestionsOf (tags : List Tag) :
    (suggestionsOf tags).Pairwise (fun v w => List.Lex (· < ·) (codePoints v) (codePoints w)) := by
  have ascending := (OrderedSet.ofList (valuesOf tags)).ascending
  exact List.Pairwise.imp before_iff_lex.mp ascending

/-- Only which values there are matters. -/
theorem suggestionsOf_congr {tags others : List Tag}
    (same : ∀ v, v ∈ valuesOf tags ↔ v ∈ valuesOf others) :
    suggestionsOf tags = suggestionsOf others := by
  have sets : OrderedSet.ofList (valuesOf tags) = OrderedSet.ofList (valuesOf others) := by
    apply OrderedSet.ext_mem
    intro v
    rw [OrderedSet.mem_ofList, OrderedSet.mem_ofList, same v]
  exact congrArg OrderedSet.toList sets

end Synchronizer

/-! ### The call -/

variable {σ : Type}

/-- What tags that come in lead to in the middle of a run.  One call is to be made, with the values
    in order, without those that repeat the one in front; two steps on, the host has been called
    and no call is left.  The synchronizer, the clock and the handles are as they were, at every
    moment of it. -/
structure Suggests (h : Host σ) (r : Run σ) (tags : List Tag) (ops : List Op)
    (rest : List Frame) (values : List String) : Prop where
  ascending : values.Pairwise (fun v w => List.Lex (· < ·) (codePoints v) (codePoints w))
  members : ∀ v, v ∈ values ↔ v ≠ "" ∧ ∃ t ∈ tags, t.value = v
  sorting : values = (sorted (Synchronizer.valuesOf tags)).destutter (· ≠ ·)
  begun : r.step h = some { r with stack := .calls [.setSuggestions values] :: .script ops :: rest }
  called : r.runFor h 2 =
    { r with
        host := (h.react (.setSuggestions values) r.host).1
        journal := ⟨r.clock.now, .called (.setSuggestions values)⟩ :: r.journal
        stack := .script (h.react (.setSuggestions values) r.host).2 :: .calls [] ::
          .script ops :: rest }

/-- An operation that leaves the synchronizer alone makes its calls and does nothing else. -/
theorem Run.step_of_unchanged {h : Host σ} {r : Run σ} {via : Option Nat} {action : Action}
    {ops : List Op} {rest : List Frame} {calls : List Call}
    (stack : r.stack = .script (.act via action :: ops) :: rest) (live : r.reaches via = true)
    (unchanged : action.apply r.sync = { after := r.sync, calls }) :
    r.step h = some { r with stack := .calls calls :: .script ops :: rest } := by
  have live' : reaches { r with stack := .script ops :: rest } via = true := live
  simp [step, stack, perform, live', begin, unchanged, Transition.carryOut]

theorem suggests_of_stack (h : Host σ) {r : Run σ} {tags : List Tag} {via : Option Nat}
    {ops : List Op} {rest : List Frame}
    (stack : r.stack = .script (.act via (.acceptTags (.ok tags)) :: ops) :: rest)
    (live : r.reaches via = true) :
    Suggests h r tags ops rest (Synchronizer.suggestionsOf tags) := by
  have begun := Run.step_of_unchanged (h := h) stack live rfl
  refine ⟨Synchronizer.pairwise_suggestionsOf tags, fun v => Synchronizer.mem_suggestionsOf,
    OrderedSet.toList_ofList_eq_destutter _, begun, ?_⟩
  rw [Run.runFor, begun]
  rfl

/-- **Tag suggestions are a canonical set.**  Tags that come in, whatever the synchronizer is
    doing and whatever the host does when it is called, lead to one call with their values in
    code point order, each once and the empty one left out; and to the same call as any others
    with the same values. -/
theorem suggestions_canonical (h : Host σ) (r : Run σ) (tags : List Tag) (via : Option Nat)
    (ops : List Op) (rest : List Frame)
    (stack : r.stack = .script (.act via (.acceptTags (.ok tags)) :: ops) :: rest)
    (live : r.reaches via = true) :
    Suggests h r tags ops rest (Synchronizer.suggestionsOf tags) ∧
      ∀ others : List Tag,
        (∀ v, v ≠ "" → ((∃ t ∈ tags, t.value = v) ↔ ∃ t ∈ others, t.value = v)) →
        Suggests h { r with stack := .script (.act via (.acceptTags (.ok others)) :: ops) :: rest }
          others ops rest (Synchronizer.suggestionsOf tags) := by
  refine ⟨suggests_of_stack h stack live, ?_⟩
  intro others same
  have values : Synchronizer.suggestionsOf others = Synchronizer.suggestionsOf tags := by
    apply Synchronizer.suggestionsOf_congr
    intro v
    rw [Synchronizer.mem_valuesOf, Synchronizer.mem_valuesOf]
    exact and_congr_right (fun full => (same v full).symm)
  rw [← values]
  exact suggests_of_stack h rfl live

/-- A quiet period is under way while an answer is waited for. -/
def busy (tags : List Tag) : Run Unit :=
  { sync := { hydrated := true, timer := some 3, lastTicket := 2, outstanding := some (2, {}) }
    clock := { now := 7, issued := 3, waiting := [⟨3, Timer.milliseconds 200, .quiet⟩] }
    handles := [false, true]
    host := ()
    stack := [.script [.act (some 1) (.acceptTags (.ok tags)), .advance 5]] }

/-- Tags with a value that repeats, one that is empty, and some whose order by code points is
    not that of an alphabet. -/
def mixed : List Tag := [⟨"1", "zoo"⟩, ⟨"2", "ä"⟩, ⟨"3", ""⟩, ⟨"4", "Zoo"⟩, ⟨"5", "zoo"⟩, ⟨"6", "zo"⟩]

theorem suggestions_canonical_mixed :
    (busy mixed).stack = [.script [.act (some 1) (.acceptTags (.ok mixed)), .advance 5]] ∧
      (busy mixed).reaches (some 1) = true ∧
      Suggests Host.silent (busy mixed) mixed [.advance 5] [] ["Zoo", "zo", "zoo", "ä"] ∧
      Suggests Host.silent (busy mixed.reverse) mixed.reverse [.advance 5] []
        ["Zoo", "zo", "zoo", "ä"] := by
  have values : Synchronizer.suggestionsOf mixed = ["Zoo", "zo", "zoo", "ä"] := by decide +kernel
  have both := suggestions_canonical Host.silent (busy mixed) mixed (some 1) [.advance 5] [] rfl rfl
  rw [values] at both
  refine ⟨rfl, rfl, both.1, both.2 mixed.reverse ?_⟩
  intro v _
  simp

end Sync

end ResourceCatalog
