/-
  ResourceCatalog/Proofs/Json/ValueRoundTrip.lean
  ===============================================
  **Decoders and the trees that values are written as.**

  For each way to build a decoder there is a lemma on the trees of values that it
  reads, and, where the decoder refuses some values, one on what it gives.  A
  record is read member by member into a draft, so what every field keeps of a
  draft holds of every record that is read (`RecordForm.decode_keeps`).

  A codec is a decoder with the trees of its values.  It is enough to look at
  trees: what holds of the tree of a value holds of its text (`Codec.of_trees`).
-/
import ResourceCatalog.Json.Decode
import ResourceCatalog.Proofs.Json.TextRoundTrip

namespace ResourceCatalog.Json

variable {α : Type}

/-! ### What was read goes on -/

@[simp] theorem bind_of_ok {β : Type} (a : α) (f : α → Except Fault β) :
    (Except.ok a).bind f = f a := rfl

@[simp] theorem bind_ok {β : Type} (a : α) (f : α → Except Fault β) : (Except.ok a >>= f) = f a := rfl

@[simp] theorem map_of_ok {β : Type} (f : α → β) (a : α) :
    (Except.ok a : Except Fault α).map f = .ok (f a) := rfl

@[simp] theorem map_ok {β : Type} (f : α → β) (a : α) :
    (f <$> (Except.ok a : Except Fault α)) = .ok (f a) := rfl

/-! ### Plain values -/

@[simp] theorem decodeString_text (s : String) : decodeString (.text s) = .ok s := rfl

@[simp] theorem decodeBool_bool (b : Bool) : decodeBool (.bool b) = .ok b := rfl

theorem digitsValue_ofNat (n : Nat) : digitsValue (Number.ofNat n).whole = n := by
  have value := Nat.ofDigitChars_toDigits (b := 10) (n := n) (by decide) (by decide)
  rw [Nat.ofDigitChars] at value
  rw [digitsValue, Number.ofNat, List.foldl_map]
  simp only [Nat.mul_comm 10] at value
  exact value

/-- A natural number of 64 bits. -/
def Fits (n : Nat) : Prop := n ≤ Number.maxUnsigned

@[simp] theorem decodeNat_nat {n : Nat} (fits : Fits n) : decodeNat (.nat n) = .ok n := by
  rw [Tree.nat, decodeNat]
  simp only [digitsValue_ofNat]
  exact if_pos ⟨rfl, rfl, fits⟩

theorem fits_of_decodeNat {t : Tree} {n : Nat} (h : decodeNat t = .ok n) : Fits n := by
  unfold decodeNat at h
  split at h
  · dsimp only at h
    split at h
    · rename_i number
      cases h
      exact number.2.2
    · split at h <;> cases h
  · cases h

/-! ### Lists -/

theorem decodeItems_map {decode : Decoder α} {tree : α → Tree} {as : List α}
    (h : ∀ a ∈ as, decode (tree a) = .ok a) : decodeItems decode (as.map tree) = .ok as := by
  induction as with
  | nil => rfl
  | cons a as ih =>
    rw [List.map_cons, decodeItems, h a List.mem_cons_self,
      ih (fun b hb => h b (List.mem_cons_of_mem a hb))]
    rfl

theorem decodeList_map {decode : Decoder α} {tree : α → Tree} (h : ∀ a, decode (tree a) = .ok a)
    (as : List α) : decodeList decode (.list (as.map tree)) = .ok as := by
  rw [Tree.list, decodeList, decodeItems_map (fun a _ => h a)]
  rfl

/-! ### Records -/

namespace RecordForm

variable {σ : Type}

/-- A record is read from its members, and then finished. -/
@[simp] theorem decode_record (form : RecordForm σ α) (members : List (String × Tree)) :
    form.decode (.record members) =
      (readMembers form.fields (members.map (fun m => (Tree.text m.1, m.2))) form.blank).bind
        (form.finish .missingField) := by
  rw [Tree.record, decode]
  cases readMembers form.fields (members.map (fun m => (Tree.text m.1, m.2))) form.blank <;> rfl

@[simp] theorem readMembers_nil (fields : List (Field σ)) (draft : σ) :
    readMembers fields [] draft = .ok draft := rfl

/-- A member that no field is named after is passed over; one that is set already is refused. -/
@[simp] theorem readMembers_cons (fields : List (Field σ)) (key : String) (value : Tree)
    (rest : List (Tree × Tree)) (draft : σ) :
    readMembers fields ((.text key, value) :: rest) draft =
      match fields.find? (fun f => f.name = key) with
      | none => readMembers fields rest draft
      | some f =>
        if f.isSet draft then .error (.duplicateField f.name)
        else (f.read value draft).bind (readMembers fields rest) := by
  rw [Tree.text, readMembers]
  cases fields.find? (fun f => f.name = key) with
  | none => rfl
  | some f => cases read : f.read value draft <;> simp [read, Except.bind]

variable {fields : List (Field σ)} {Inv : σ → Prop}

theorem readMembers_keeps
    (keeps : ∀ f ∈ fields, ∀ t d d', f.read t d = .ok d' → Inv d → Inv d')
    {members : List (Tree × Tree)} {d d' : σ} (h : readMembers fields members d = .ok d')
    (inv : Inv d) : Inv d' := by
  fun_induction readMembers fields members d with
  | case1 d =>
    cases h
    exact inv
  | case2 key value rest d none ih => exact ih h inv
  | case3 => cases h
  | case4 => cases h
  | case5 key value rest d f found fresh next read ih =>
    exact ih h (keeps f (List.mem_of_find?_eq_some found) value d next read inv)
  | case6 => cases h

theorem readItems_keeps
    (keeps : ∀ f ∈ fields, ∀ t d d', f.read t d = .ok d' → Inv d → Inv d')
    {items : List Tree} {d d' : σ} (h : readItems fields items d = .ok d') (inv : Inv d) :
    Inv d' := by
  fun_induction readItems fields items d with
  | case1 fields d =>
    cases h
    exact inv
  | case2 => cases h
  | case3 => cases h
  | case4 f fields t ts d next read ih =>
    exact ih (fun g hg => keeps g (List.mem_cons_of_mem f hg)) h
      (keeps f List.mem_cons_self t d next read inv)

/-- **What every field keeps of a draft holds of every record that is read**, whether from an
    object or from an array. -/
theorem decode_keeps (form : RecordForm σ α) (Inv : σ → Prop) (P : α → Prop)
    (blank : Inv form.blank)
    (keeps : ∀ f ∈ form.fields, ∀ t d d', f.read t d = .ok d' → Inv d → Inv d')
    (finish : ∀ missing d a, form.finish missing d = .ok a → Inv d → P a) {t : Tree} {a : α}
    (h : form.decode t = .ok a) : P a := by
  unfold decode at h
  split at h
  · rename_i members closed
    cases read : readMembers form.fields members form.blank with
    | error e =>
      rw [read] at h
      cases h
    | ok d =>
      simp only [read] at h
      split at h
      · exact finish _ d a h (readMembers_keeps keeps read blank)
      · cases h
  · rename_i items closed
    cases read : readItems form.fields items form.blank with
    | error e =>
      rw [read] at h
      cases h
    | ok d =>
      simp only [read] at h
      split at h
      · exact finish _ d a h (readItems_keeps keeps read blank)
      · cases h
  · cases h

end RecordForm

namespace Field

variable {σ : Type} {name : String} {get : σ → Option α} {set : α → σ → σ} {decode : Decoder α}

@[simp] theorem of_name : (Field.of name get set decode).name = name := rfl

@[simp] theorem of_isSet (d : σ) : (Field.of name get set decode).isSet d = (get d).isSome := rfl

theorem of_read (t : Tree) (d : σ) :
    (Field.of name get set decode).read t d = (decode t).map (fun a => set a d) := rfl

@[simp] theorem of_read_ok {t : Tree} {a : α} (h : decode t = .ok a) (d : σ) :
    (Field.of name get set decode).read t d = .ok (set a d) := by
  rw [of_read, h]
  rfl

/-- What a field reads is put into the draft, and nothing else changes there. -/
theorem eq_set_of_read {t : Tree} {d d' : σ} (h : (Field.of name get set decode).read t d = .ok d') :
    ∃ a, decode t = .ok a ∧ d' = set a d := by
  rw [of_read] at h
  cases read : decode t with
  | error e =>
    rw [read] at h
    cases h
  | ok a =>
    rw [read] at h
    cases h
    exact ⟨a, rfl, rfl⟩

end Field

@[simp] theorem required_some (missing : String → Fault) (name : String) (a : α) :
    required missing name (some a) = .ok a := rfl

/-- A record is finished only with the fields that it has to have. -/
theorem eq_some_of_required {β : Type} {missing : String → Fault} {name : String} {o : Option α}
    {f : α → Except Fault β} {b : β} (h : (required missing name o >>= f) = .ok b) :
    ∃ a, o = some a ∧ f a = .ok b := by
  cases o with
  | none => cases h
  | some a => exact ⟨a, rfl, h⟩

/-! ### Cases -/

/-- A case with a value beside its name. -/
theorem decodeCase_record {cases : List (Case α)} {c : Case α} {name : String} {value : Tree}
    (found : cases.find? (fun c => c.name = name) = some c) :
    decodeCase cases (.record [(name, value)]) = c.read (some value) := by
  simp only [Tree.record, List.map_cons, List.map_nil, Tree.text, decodeCase, findCase, found]
  cases c.read (some value) <;> rfl

/-- What is read beside the name of a case is the value of the case. -/
theorem Case.eq_make_of_read {β : Type} {name : String} {make : β → α} {decode : Decoder β}
    {value : Option Tree} {a : α} (h : (Case.holding name make decode).read value = .ok a) :
    ∃ t b, decode t = .ok b ∧ a = make b := by
  cases value with
  | none => cases h
  | some t =>
    rw [Case.holding] at h
    cases read : decode t with
    | error e =>
      simp only [read] at h
      cases h
    | ok b =>
      simp only [read] at h
      cases h
      exact ⟨t, b, read, rfl⟩

/-- What every case keeps to holds of all that is read. -/
theorem decodeCase_keeps {cases : List (Case α)} {P : α → Prop}
    (keeps : ∀ c ∈ cases, ∀ value a, c.read value = .ok a → P a) {t : Tree} {a : α}
    (h : decodeCase cases t = .ok a) : P a := by
  have mem : ∀ {name c}, findCase cases name = .ok c → c ∈ cases := by
    intro name c found
    unfold findCase at found
    split at found
    · rename_i first
      cases found
      exact List.mem_of_find?_eq_some first
    · cases found
  unfold decodeCase at h
  split at h
  · split at h
    · cases h
    · rename_i c found
      exact keeps c (mem found) none a h
  · split at h
    · cases h
    · rename_i c found
      split at h
      · cases h
      · rename_i b read
        split at h
        · cases h
          exact keeps c (mem found) _ _ read
        · cases h
  · cases h
  · cases h

/-! ### Codecs -/

/-- A decoder and the trees that its values are written as.  Every value is read back from its
    text, without a fault; some are ruled out by what their numbers can be.  Whatever text a value
    was read from, the value has a canonical text from which it is read again, and writing what is
    read from there gives that same text. -/
structure Codec (fits : α → Prop) (tree : α → Tree) (decode : Decoder α) : Prop where
  read : ∀ a, fits a → decodeText decode (tree a).compact = .ok a
  canonical : ∀ text a, decodeText decode text = .ok a →
    decodeText decode (tree a).compact = .ok a ∧
      (decodeText decode (tree a).compact).map (fun b => (tree b).compact) = .ok (tree a).compact

theorem decodeText_compact {decode : Decoder α} {t : Tree} (whole : t.Whole) :
    decodeText decode t.compact = decode t :=
  decodeText_of_spells (Tree.spells_compact whole) decode

/-- **Codecs are made tree by tree.** -/
theorem Codec.of_trees {fits : α → Prop} {tree : α → Tree} {decode : Decoder α}
    (whole : ∀ a, (tree a).Whole) (read : ∀ a, fits a → decode (tree a) = .ok a)
    (given : ∀ t a, decode t = .ok a → fits a) : Codec fits tree decode := by
  have back : ∀ a, fits a → decodeText decode (tree a).compact = .ok a := by
    intro a ha
    rw [decodeText_compact (whole a), read a ha]
  refine ⟨back, ?_⟩
  intro text a decoded
  obtain ⟨t, -, ht⟩ := spells_of_decodeText decoded
  have again := back a (given t a ht)
  exact ⟨again, by rw [again]; rfl⟩

end ResourceCatalog.Json
