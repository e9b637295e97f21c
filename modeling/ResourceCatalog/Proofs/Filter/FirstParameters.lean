/-
  ResourceCatalog/Proofs/Filter/FirstParameters.lean
  ==================================================
  **The first parameter of a name counts, and nothing else does.**

  A query is read piece by piece between its ampersands (`read_eq_flatMap`), whatever is
  escaped in a piece or broken.  So what is read from it depends on the first piece of each
  of the filter's own names only: other pieces come and go without a change (`parse_eq_of_inserts`).

  The values of these pieces are cut at their commas.  Parts that are tokens are the kinds
  that are read, and all others are kept as they are, in order (`holds_iff`).
-/
import Mathlib.Logic.Relation
import ResourceCatalog.Proofs.Filter.QueryRoundTrip

namespace ResourceCatalog

namespace Text

/-! ### Texts read piece by piece -/

/-- The byte of an ampersand occurs in no other character. -/
theorem not_mem_utf8EncodeChar {c : Char} (other : c ≠ '&') :
    ¬ (0x26 : UInt8) ∈ String.utf8EncodeChar c := by
  intro mem
  have code (n : Nat) : (0x26 : UInt8) = UInt8.ofNat n ↔ n % 256 = 0x26 := by
    rw [← UInt8.toNat_inj, UInt8.toNat_ofNat', eq_comm]
    rfl
  simp only [String.utf8EncodeChar] at mem
  split at mem
  · simp only [List.mem_singleton, code] at mem
    have value : c.toNat = 0x26 := by
      rw [Char.toNat]
      omega
    exact other (Char.toNat_inj.mp value)
  · -- each byte of a longer form is 128 or more
    split at mem
    · simp only [List.mem_cons, List.not_mem_nil, or_false, code] at mem
      omega
    · split at mem
      · simp only [List.mem_cons, List.not_mem_nil, or_false, code] at mem
        omega
      · simp only [List.mem_cons, List.not_mem_nil, or_false, code] at mem
        omega

/-- The bytes of a text are cut where the text is cut. -/
theorem pieces_encodeChars (cs : List Char) :
    pieces 0x26 (Utf8.encodeChars cs) = (pieces '&' cs).map Utf8.encodeChars := by
  induction cs with
  | nil => rfl
  | cons c cs ih =>
    rw [Utf8.encodeChars, List.flatMap_cons, ← Utf8.encodeChars, pieces]
    split
    · rename_i ampersand
      subst ampersand
      have byte : String.utf8EncodeChar '&' = [0x26] := rfl
      rw [byte, List.singleton_append, pieces, if_pos rfl, ih]
      rfl
    · rename_i other
      rw [pieces_append_of_not_mem (not_mem_utf8EncodeChar other), ih]
      cases hp : pieces '&' cs with
      | nil => exact absurd hp (pieces_ne_nil _ _)
      | cons p ps =>
        rw [List.map_cons, foldr_consPiece_cons, consPiece, List.map_cons]
        rfl

namespace Form

theorem encodeChars_cons_ne_nil (c : Char) (cs : List Char) : Utf8.encodeChars (c :: cs) ≠ [] := by
  simp [Utf8.encodeChars, String.utf8EncodeChar_ne_nil]

theorem read_ofList {piece : List Char} (plain : ¬ '&' ∈ piece) :
    read (String.ofList piece) =
      if piece = [] then [] else [readPair (Utf8.encodeChars piece)] := by
  rw [read, readPairs, Utf8.encode, String.toList_ofList, pieces_encodeChars,
    pieces_of_not_mem plain]
  cases piece with
  | nil => rfl
  | cons c piece => simp [encodeChars_cons_ne_nil]

/-- **A text is read piece by piece**: its pairs are those of its pieces, in order. -/
theorem read_eq_flatMap (s : String) :
    read s = (pieces '&' s.toList).flatMap (fun piece => read (String.ofList piece)) := by
  have cut : ∀ piece ∈ pieces '&' s.toList, ¬ '&' ∈ piece :=
    fun piece hpiece => not_mem_of_mem_pieces hpiece
  rw [read, readPairs, Utf8.encode, pieces_encodeChars]
  generalize pieces '&' s.toList = ps at cut ⊢
  induction ps with
  | nil => rfl
  | cons piece rest ih =>
    rw [List.forall_mem_cons] at cut
    rw [List.flatMap_cons, ← ih cut.2, read_ofList cut.1, List.map_cons]
    cases piece with
    | nil => rfl
    | cons c piece => simp [encodeChars_cons_ne_nil]

end Form

end Text

namespace FilterQuery

open Text

/-! ### First values -/

/-- The value of the first pair of a name; it is empty when there is none. -/
inductive FirstValue (key : String) : List (String × String) → String → Prop
  | here {value : String} {pairs : List (String × String)} :
    FirstValue key ((key, value) :: pairs) value
  | later {pair : String × String} {pairs : List (String × String)} {value : String} :
    pair.1 ≠ key → FirstValue key pairs value → FirstValue key (pair :: pairs) value
  | missing : FirstValue key [] ""

theorem firstValue_iff {key value : String} {pairs : List (String × String)} :
    FirstValue key pairs value ↔ (firstValue? key pairs).getD "" = value := by
  constructor
  · intro first
    induction first with
    | here => simp [firstValue?]
    | later other _ ih => simpa [firstValue?, other] using ih
    | missing => rfl
  · rintro rfl
    induction pairs with
    | nil => exact .missing
    | cons pair pairs ih =>
      by_cases same : pair.1 = key
      · subst same
        have here : FirstValue pair.1 (pair :: pairs) pair.2 := .here
        simpa [firstValue?] using here
      · refine .later same ?_
        simpa [firstValue?, same] using ih

/-- A pair changes no first value when it has another name or comes after a pair of its name. -/
theorem firstValue?_insert {key : String} {pair : String × String}
    {before : List (String × String)} (behind : List (String × String))
    (idle : pair.1 ≠ key ∨ ∃ first ∈ before, first.1 = pair.1) :
    firstValue? key (before ++ pair :: behind) = firstValue? key (before ++ behind) := by
  rw [firstValue?, firstValue?, List.find?_append, List.find?_append]
  by_cases same : pair.1 = key
  · obtain ⟨first, member, name⟩ := idle.resolve_left (not_not_intro same)
    have found : (before.find? (fun p => p.1 = key)).isSome = true := by
      rw [List.find?_isSome]
      exact ⟨first, member, by simp [name, same]⟩
    obtain ⟨pair', hpair'⟩ := Option.isSome_iff_exists.mp found
    rw [hpair', Option.some_or, Option.some_or]
  · rw [List.find?_cons_of_neg (by simpa using same)]

/-! ### Pieces that change nothing -/

/-- The piece is empty, or its name is not one of the filter's own, or a piece of the same name
    is in front of it. -/
inductive Idle (before : List (List Char)) (piece : List Char) : Prop
  | empty : piece = [] → Idle before piece
  | foreign {key value : String} : Form.read (String.ofList piece) = [(key, value)] →
      ¬ key ∈ ["tags", "resourceTypes", "searchText"] → Idle before piece
  | repeated {key value value' : String} {first : List Char} :
      Form.read (String.ofList piece) = [(key, value)] → first ∈ before →
      Form.read (String.ofList first) = [(key, value')] → Idle before piece

/-- Behind the question mark that it may have, the second query has one piece more between
    its ampersands, which is idle where it stands. -/
def Inserts (query query' : String) : Prop :=
  ∃ before piece behind, pieces '&' (withoutMark query).toList = before ++ behind ∧
    pieces '&' (withoutMark query').toList = before ++ piece :: behind ∧ Idle before piece

theorem firstValue?_of_inserts {query query' : String} (inserts : Inserts query query')
    {key : String} (own : isOwnKey key = true) :
    firstValue? key (Form.read (withoutMark query')) =
      firstValue? key (Form.read (withoutMark query)) := by
  obtain ⟨before, piece, behind, hquery, hquery', idle⟩ := inserts
  rw [Form.read_eq_flatMap, Form.read_eq_flatMap, hquery, hquery', List.flatMap_append,
    List.flatMap_append, List.flatMap_cons]
  cases idle with
  | empty none =>
    subst none
    rfl
  | foreign hread foreign =>
    rw [hread]
    refine firstValue?_insert _ (Or.inl ?_)
    rintro rfl
    exact foreign (isOwnKey_iff.mp own)
  | @repeated name _ value' first hread member hfirst =>
    rw [hread]
    refine firstValue?_insert _ (Or.inr ⟨(name, value'), ?_, rfl⟩)
    rw [List.mem_flatMap]
    exact ⟨first, member, by rw [hfirst]; exact List.mem_singleton.mpr rfl⟩

/-- **Idle pieces come and go without a change** in what is read. -/
theorem parse_eq_of_inserts {query query' : String} (same : Relation.EqvGen Inserts query query') :
    parse query = parse query' := by
  induction same with
  | rel query query' inserts =>
    have types := firstValue?_of_inserts inserts (show isOwnKey typesKey = true by decide)
    have tags := firstValue?_of_inserts inserts (show isOwnKey tagsKey = true by decide)
    have text := firstValue?_of_inserts inserts (show isOwnKey searchTextKey = true by decide)
    rw [parse, parse, ofPairs, ofPairs, types, tags, text]
  | refl => rfl
  | symm _ _ _ ih => exact ih.symm
  | trans _ _ _ _ _ ih ih' => exact ih.trans ih'

/-! ### What the values hold -/

/-- The parts of a value between its commas that have characters, in order. -/
def IsCutInto (value : String) (segs : List String) : Prop :=
  ∃ parts, joinComma parts = value ∧ (∀ p ∈ parts, ¬ ',' ∈ p.toList) ∧
    segs = parts.filter (fun p => p ≠ "")

theorem isCutInto_iff {value : String} {segs : List String} :
    IsCutInto value segs ↔ segments value = segs := by
  constructor
  · rintro ⟨parts, rfl, plain, rfl⟩
    rw [segments_joinComma]
    induction parts with
    | nil => rfl
    | cons p parts ih =>
      rw [List.forall_mem_cons] at plain
      rw [List.flatMap_cons, ih plain.2]
      by_cases empty : p = ""
      · subst empty
        rfl
      · rw [segments_of_plain empty plain.1, List.filter_cons_of_pos (by simpa using empty),
          List.singleton_append]
  · rintro rfl
    refine ⟨(pieces ',' value.toList).map String.ofList, ?_, ?_, ?_⟩
    · apply String.toList_injective
      rw [toList_joinComma, List.map_map]
      simp [Function.comp_def, joined_pieces]
    · intro p hp
      obtain ⟨chars, hchars, rfl⟩ := List.mem_map.mp hp
      rw [String.toList_ofList]
      exact not_mem_of_mem_pieces hchars
    · rw [segments, List.filter_map]
      congr 1
      refine List.filter_congr (fun p _ => ?_)
      rw [Bool.eq_iff_iff]
      simp

/-- The filters that the first parameters of their names hold, and the parts that name no
    kind of resource. -/
def Holds (pairs : List (String × String)) (read : Hydration) : Prop :=
  ∃ types tags typeSegs tagSegs,
    FirstValue "resourceTypes" pairs types ∧ IsCutInto types typeSegs ∧
    FirstValue "tags" pairs tags ∧ IsCutInto tags tagSegs ∧
    (∀ kind, kind ∈ read.state.types ↔ kind.token ∈ typeSegs) ∧
    read.invalidTypes = typeSegs.filter (fun s => ∀ kind ∈ ResourceType.all, kind.token ≠ s) ∧
    (∀ tag, tag ∈ read.state.tags ↔ tag ∈ tagSegs) ∧
    FirstValue "searchText" pairs read.state.searchText

theorem holds_iff {pairs : List (String × String)} {read : Hydration} :
    Holds pairs read ↔ ofPairs pairs = read := by
  have kind_mem (segs : List String) (kind : ResourceType) :
      kind ∈ OrderedSet.ofList (segs.filterMap ResourceType.ofToken?) ↔ kind.token ∈ segs := by
    rw [OrderedSet.mem_ofList, List.mem_filterMap]
    constructor
    · rintro ⟨token, member, names⟩
      rwa [← ResourceType.ofToken?_eq_some_iff.mp names]
    · intro member
      exact ⟨kind.token, member, ResourceType.ofToken?_token kind⟩
  have invalid (segs : List String) : segs.filter (fun t => (ResourceType.ofToken? t).isNone) =
      segs.filter (fun s => ∀ kind ∈ ResourceType.all, kind.token ≠ s) := by
    refine List.filter_congr (fun s _ => ?_)
    rw [Bool.eq_iff_iff, Option.isNone_iff_eq_none, ResourceType.ofToken?, List.find?_eq_none]
    simp
  simp only [Holds, firstValue_iff, isCutInto_iff]
  constructor
  · rintro ⟨types, tags, typeSegs, tagSegs, htypes, rfl, htags, rfl, kinds, hinvalid, htag, text⟩
    obtain ⟨⟨searchText, tagSet, typeSet⟩, invalidTypes⟩ := read
    have sameTypes := OrderedSet.ext_mem (fun kind => (kind_mem _ kind).trans (kinds kind).symm)
    have sameTags := OrderedSet.ext_mem (fun tag => OrderedSet.mem_ofList.trans (htag tag).symm)
    simp only [ofPairs, typesKey, tagsKey, searchTextKey, htypes, htags, text, invalid, ← hinvalid,
      sameTypes, sameTags]
  · rintro rfl
    exact ⟨_, _, _, _, rfl, rfl, rfl, rfl, kind_mem _, invalid _, fun _ => OrderedSet.mem_ofList,
      rfl⟩

end FilterQuery

end ResourceCatalog
