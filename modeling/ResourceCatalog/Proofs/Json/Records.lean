/-
  ResourceCatalog/Proofs/Json/Records.lean
  ========================================
  **The order of members does not matter, and strangers among them are passed over.**

  A record is read member by member into a draft.  Its fields do not look at each other
  (`RecordForm.Independent`), so two members that stand side by side can be read the other
  way round, and what is read of an object is the same in any order of its members.

  Then any one member can be looked at as if it were the last: the others make a draft
  without it, and it is read into that draft (`readMembers_member_iff`).
-/
import Mathlib.Data.List.Forall2
import ResourceCatalog.Proofs.Json.ValueRoundTrip

namespace ResourceCatalog.Json

variable {α : Type}

/-! ### Items -/

theorem decodeItems_eq_ok_iff {decode : Decoder α} {ts : List Tree} {as : List α} :
    decodeItems decode ts = .ok as ↔ List.Forall₂ (fun t a => decode t = .ok a) ts as := by
  induction ts generalizing as with
  | nil =>
    rw [decodeItems, List.forall₂_nil_left_iff, Except.ok.injEq, eq_comm]
  | cons t ts ih =>
    rw [decodeItems, List.forall₂_cons_left_iff]
    cases first : decode t with
    | error e => simp
    | ok a =>
      cases others : decodeItems decode ts with
      | error e =>
        have none : ∀ bs, ¬ List.Forall₂ (fun t a => decode t = .ok a) ts bs := by
          intro bs all
          rw [← ih, others] at all
          cases all
        simp [Except.map, none]
      | ok bs =>
        have same : ∀ cs, List.Forall₂ (fun t a => decode t = .ok a) ts cs ↔ cs = bs := by
          intro cs
          rw [← ih, others, Except.ok.injEq, eq_comm]
        simp [Except.map, same, eq_comm]

theorem decodeList_eq_ok_iff {decode : Decoder α} {ts : List Tree} {as : List α} :
    decodeList decode (.list ts) = .ok as ↔ List.Forall₂ (fun t a => decode t = .ok a) ts as := by
  rw [← decodeItems_eq_ok_iff, Tree.list, decodeList]
  cases decodeItems decode ts <;> simp

/-! ### Members -/

namespace Field

variable {σ : Type}

/-- Reading one field leaves the other as it is, and it does not matter which is read first. -/
structure Apart (f g : Field σ) : Prop where
  frame : ∀ {t d d'}, f.read t d = .ok d' → g.isSet d' = g.isSet d
  swap : ∀ {t u d d' d''}, f.read t d = .ok d' → g.read u d' = .ok d'' →
    ∃ e, g.read u d = .ok e ∧ f.read t e = .ok d''

section Of

variable {β : Type} {name name' : String} {get : σ → Option α} {set : α → σ → σ}
  {decode : Decoder α} {get' : σ → Option β} {set' : β → σ → σ} {decode' : Decoder β}

theorem of_fills (fills : ∀ a d, (get (set a d)).isSome = true) {t : Tree} {d d' : σ}
    (read : (Field.of name get set decode).read t d = .ok d') :
    (Field.of name get set decode).isSet d' = true := by
  obtain ⟨a, -, rfl⟩ := eq_set_of_read read
  exact fills a d

theorem of_apart (frame : ∀ a d, get' (set a d) = get' d)
    (swap : ∀ a b d, set' b (set a d) = set a (set' b d)) :
    Apart (Field.of name get set decode) (Field.of name' get' set' decode') where
  frame := by
    intro t d d' read
    obtain ⟨a, -, rfl⟩ := eq_set_of_read read
    rw [of_isSet, of_isSet, frame]
  swap := by
    intro t u d d' d'' first second
    obtain ⟨a, ha, rfl⟩ := eq_set_of_read first
    obtain ⟨b, hb, rfl⟩ := eq_set_of_read second
    exact ⟨set' b d, of_read_ok hb d, by rw [of_read_ok ha, swap]⟩

end Of

end Field

namespace RecordForm

variable {σ : Type}

/-- Every field that is read is set, and the fields do not look at each other. -/
structure Independent (fields : List (Field σ)) : Prop where
  fills : ∀ f ∈ fields, ∀ {t d d'}, f.read t d = .ok d' → f.isSet d' = true
  apart : ∀ f ∈ fields, ∀ g ∈ fields, f.name ≠ g.name → f.Apart g

/-- What one member does to a draft: nothing when no field is named after it, and else it fills
    its field, which was not set before. -/
inductive Takes (fields : List (Field σ)) : Tree × Tree → σ → σ → Prop
  | skip {key : String} {value : Tree} {d : σ} : fields.find? (fun f => f.name = key) = none →
      Takes fields (.text key, value) d d
  | fill {key : String} {value : Tree} {f : Field σ} {d d' : σ} :
      fields.find? (fun f => f.name = key) = some f → f.isSet d = false →
      f.read value d = .ok d' → Takes fields (.text key, value) d d'

variable {fields : List (Field σ)} {d d' : σ}

theorem readMembers_cons_ok {m : Tree × Tree} {ms : List (Tree × Tree)} :
    readMembers fields (m :: ms) d = .ok d' ↔
      ∃ e, Takes fields m d e ∧ readMembers fields ms e = .ok d' := by
  constructor
  · intro read
    obtain ⟨key, value⟩ := m
    cases key with
    | string name =>
      cases name with
      | none => cases read
      | some name =>
        rw [← Tree.text, readMembers_cons] at read
        cases found : fields.find? (fun f => f.name = name) with
        | none =>
          rw [found] at read
          exact ⟨d, .skip found, read⟩
        | some f =>
          simp only [found] at read
          split at read
          · cases read
          · rename_i unset
            cases taken : f.read value d with
            | error e =>
              rw [taken] at read
              cases read
            | ok e =>
              rw [taken] at read
              exact ⟨e, .fill found (by simpa using unset) taken, read⟩
    | _ => cases read
  · rintro ⟨e, takes, read⟩
    cases takes with
    | skip none => rw [readMembers_cons, none, read]
    | fill found unset taken =>
      rw [readMembers_cons, found]
      simp only [unset, Bool.false_eq_true, if_false, taken, bind_of_ok, read]

theorem readMembers_append_ok {ms ns : List (Tree × Tree)} :
    readMembers fields (ms ++ ns) d = .ok d' ↔
      ∃ e, readMembers fields ms d = .ok e ∧ readMembers fields ns e = .ok d' := by
  induction ms generalizing d with
  | nil => simp
  | cons m ms ih =>
    simp only [List.cons_append, readMembers_cons_ok, ih]
    constructor
    · rintro ⟨e, takes, e', first, second⟩
      exact ⟨e', ⟨e, takes, first⟩, second⟩
    · rintro ⟨e', ⟨e, takes, first⟩, second⟩
      exact ⟨e, takes, e', first, second⟩

/-- Two members that stand side by side can be read the other way round. -/
theorem Independent.swap (independent : Independent fields) {m n : Tree × Tree} {e : σ}
    (first : Takes fields m d e) (second : Takes fields n e d') :
    ∃ e', Takes fields n d e' ∧ Takes fields m e' d' := by
  cases first with
  | skip none => exact ⟨d', second, .skip none⟩
  | @fill key value f _ _ found unset read =>
    cases second with
    | skip none => exact ⟨d, .skip none, .fill found unset read⟩
    | @fill key' value' g _ _ found' unset' read' =>
      have hf := List.mem_of_find?_eq_some found
      have hg := List.mem_of_find?_eq_some found'
      by_cases same : f.name = g.name
      · -- the second would be the same field, which is set by now
        have name : key = key' := by
          have keyOf := List.find?_some found
          have keyOf' := List.find?_some found'
          simp only [decide_eq_true_eq] at keyOf keyOf'
          rw [← keyOf, ← keyOf', same]
        subst name
        rw [found] at found'
        cases found'
        rw [independent.fills f hf read] at unset'
        cases unset'
      · have apart := independent.apart f hf g hg same
        obtain ⟨e', readFirst, readSecond⟩ := apart.swap read read'
        refine ⟨e', .fill found' ?_ readFirst, .fill found ?_ readSecond⟩
        · rw [← apart.frame read, unset']
        · rw [(independent.apart g hg f hf (Ne.symm same)).frame readFirst, unset]

/-- **Members are read the same in any order.** -/
theorem Independent.readMembers_perm (independent : Independent fields)
    {ms ns : List (Tree × Tree)} (perm : ms.Perm ns)
    (read : readMembers fields ms d = .ok d') : readMembers fields ns d = .ok d' := by
  induction perm generalizing d with
  | nil => exact read
  | cons m _ ih =>
    obtain ⟨e, takes, read⟩ := readMembers_cons_ok.mp read
    exact readMembers_cons_ok.mpr ⟨e, takes, ih read⟩
  | swap m n ms =>
    obtain ⟨e, first, read⟩ := readMembers_cons_ok.mp read
    obtain ⟨e', second, read⟩ := readMembers_cons_ok.mp read
    obtain ⟨e'', second', first'⟩ := independent.swap first second
    exact readMembers_cons_ok.mpr ⟨e'', second', readMembers_cons_ok.mpr ⟨e', first', read⟩⟩
  | trans _ _ ih ih' => exact ih' (ih read)

/-- **A member is read as if it were the last.** -/
theorem Independent.readMembers_member_iff (independent : Independent fields) {key : String}
    {f : Field σ} (found : fields.find? (fun f => f.name = key) = some f)
    {before behind : List (Tree × Tree)} {value : Tree} :
    readMembers fields (before ++ (.text key, value) :: behind) d = .ok d' ↔
      ∃ e, readMembers fields (before ++ behind) d = .ok e ∧ f.isSet e = false ∧
        f.read value e = .ok d' := by
  have perm : (before ++ (Tree.text key, value) :: behind).Perm
      (before ++ behind ++ [(.text key, value)]) :=
    List.perm_middle.trans (List.perm_append_singleton _ _).symm
  constructor
  · intro read
    obtain ⟨e, others, last⟩ := readMembers_append_ok.mp (independent.readMembers_perm perm read)
    obtain ⟨e', takes, done⟩ := readMembers_cons_ok.mp last
    cases done
    refine ⟨e, others, ?_⟩
    cases takes with
    | skip none =>
      rw [found] at none
      cases none
    | fill found' unset taken =>
      rw [found] at found'
      cases found'
      exact ⟨unset, taken⟩
  · rintro ⟨e, others, unset, taken⟩
    refine independent.readMembers_perm perm.symm (readMembers_append_ok.mpr ⟨e, others, ?_⟩)
    exact readMembers_cons_ok.mpr ⟨d', .fill found unset taken, rfl⟩

/-- Members with names that no field has. -/
def Strangers (known : List String) (members : List (Tree × Tree)) : Prop :=
  ∀ m ∈ members, ∃ key, m.1 = .text key ∧ ¬ key ∈ known

theorem readMembers_strangers {extra : List (Tree × Tree)}
    (strangers : Strangers (fields.map Field.name) extra) : readMembers fields extra d = .ok d := by
  induction extra with
  | nil => rfl
  | cons m extra ih =>
    obtain ⟨key, name, unknown⟩ := strangers m List.mem_cons_self
    obtain ⟨keyTree, value⟩ := m
    obtain rfl : keyTree = .text key := name
    have others := ih (fun n hn => strangers n (List.mem_cons_of_mem _ hn))
    refine readMembers_cons_ok.mpr ⟨d, .skip (List.find?_eq_none.mpr ?_), others⟩
    intro f hf named
    apply unknown
    rw [← of_decide_eq_true named]
    exact List.mem_map_of_mem hf

theorem decode_object_ok {form : RecordForm σ α} {members : List (Tree × Tree)} {a : α} :
    form.decode (.object members true) = .ok a ↔
      ∃ d, readMembers form.fields members form.blank = .ok d ∧
        form.finish .missingField d = .ok a := by
  rw [decode]
  cases readMembers form.fields members form.blank <;> simp

end RecordForm

/-! ### Rearranged objects -/

/-- A member that is kept, with another value where one is allowed for. -/
inductive Kept (inner : String → Tree → Tree → Prop) : Tree × Tree → Tree × Tree → Prop
  | same (m : Tree × Tree) : Kept inner m m
  | inside {key : String} {value value' : Tree} : inner key value value' →
      Kept inner (.text key, value) (.text key, value')

/-- An object with its members in another order, and strangers anywhere among them. -/
inductive Rearranged (known : List String) (inner : String → Tree → Tree → Prop) :
    Tree → Tree → Prop
  | same (t : Tree) : Rearranged known inner t t
  | object {members kept extra members' : List (Tree × Tree)} :
      List.Forall₂ (Kept inner) members kept → RecordForm.Strangers known extra →
      members'.Perm (kept ++ extra) →
      Rearranged known inner (.object members true) (.object members' true)

/-- Arrays whose items are related one by one. -/
inductive Items (R : Tree → Tree → Prop) : Tree → Tree → Prop
  | list {items items' : List Tree} : List.Forall₂ R items items' →
      Items R (.list items) (.list items')

/-- A decoder takes the same value from related trees, if it takes one. -/
def Agrees (decode : Decoder α) (R : Tree → Tree → Prop) : Prop :=
  ∀ ⦃t t' a⦄, R t t' → decode t = .ok a → decode t' = .ok a

theorem Agrees.list {decode : Decoder α} {R : Tree → Tree → Prop} (agrees : Agrees decode R) :
    Agrees (decodeList decode) (Items R) := by
  rintro t t' as ⟨related⟩ read
  rw [decodeList_eq_ok_iff] at read ⊢
  induction related generalizing as with
  | nil => exact read
  | cons first _ ih =>
    obtain ⟨a, as', ha, has, rfl⟩ := List.forall₂_cons_left_iff.mp read
    exact .cons (agrees first ha) (ih has)

theorem Field.read_of_agrees {σ : Type} {name : String} {get : σ → Option α} {set : α → σ → σ}
    {decode : Decoder α} {R : Tree → Tree → Prop} (agrees : Agrees decode R) {t t' : Tree}
    (related : R t t') {d d' : σ} (read : (Field.of name get set decode).read t d = .ok d') :
    (Field.of name get set decode).read t' d = .ok d' := by
  obtain ⟨a, ha, rfl⟩ := eq_set_of_read read
  exact of_read_ok (agrees related ha) d

namespace RecordForm

variable {σ : Type}

/-- **A record is read the same from a rearranged object.** -/
theorem Independent.agrees {form : RecordForm σ α} (independent : Independent form.fields)
    {inner : String → Tree → Tree → Prop}
    (inside : ∀ f ∈ form.fields, ∀ {t t' d d'}, inner f.name t t' → f.read t d = .ok d' →
      f.read t' d = .ok d') :
    Agrees form.decode (Rearranged (form.fields.map Field.name) inner) := by
  intro t t' a rearranged read
  cases rearranged with
  | same => exact read
  | @object members kept extra members' keeps strangers perm =>
    obtain ⟨d, members_read, finish⟩ := decode_object_ok.mp read
    refine decode_object_ok.mpr ⟨d, independent.readMembers_perm perm.symm ?_, finish⟩
    refine readMembers_append_ok.mpr ⟨d, ?_, readMembers_strangers strangers⟩
    clear perm read finish
    generalize form.blank = blank at members_read ⊢
    induction keeps generalizing blank with
    | nil => exact members_read
    | cons keep _ ih =>
      obtain ⟨e, takes, others⟩ := readMembers_cons_ok.mp members_read
      refine readMembers_cons_ok.mpr ⟨e, ?_, ih e others⟩
      cases keep with
      | same => exact takes
      | inside related =>
        cases takes with
        | skip none => exact .skip none
        | @fill _ _ f _ _ found unset taken =>
          refine .fill found unset ?_
          have named := List.find?_some found
          rw [decide_eq_true_eq] at named
          rw [← named] at related
          exact inside f (List.mem_of_find?_eq_some found) related taken

end RecordForm

end ResourceCatalog.Json
