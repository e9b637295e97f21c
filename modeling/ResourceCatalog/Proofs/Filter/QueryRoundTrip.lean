/-
  ResourceCatalog/Proofs/Filter/QueryRoundTrip.lean
  =================================================
  **Filters that are merged into a query are read back from it.**

  Merging keeps the foreign pairs of a query and puts the filter's own behind
  them, so reading finds each own parameter first where merging wrote it, and
  merging once more finds the same foreign pairs.
-/
import ResourceCatalog.Filter.Query
import ResourceCatalog.Proofs.Text.FormRoundTrip

namespace ResourceCatalog

open Text

/-- No tag is empty or has a comma in it. -/
def FilterState.HasPlainTags (s : FilterState) : Prop :=
  ∀ tag ∈ s.tags, tag ≠ "" ∧ ¬ ',' ∈ tag.toList

theorem FilterState.hasPlainTags_toggleTag {s : FilterState} (h : s.HasPlainTags) {tag : String}
    (plain : ¬ ',' ∈ tag.toList) : (s.toggleTag tag).HasPlainTags := by
  rw [toggleTag]
  split
  · exact h
  · rename_i full
    intro other hother
    rcases OrderedSet.mem_toggle.mp hother with ⟨rfl, -⟩ | ⟨-, old⟩
    · exact ⟨full, plain⟩
    · exact h other old

namespace FilterQuery

/-! ### The question mark -/

theorem withoutMark_mark (query : String) : withoutMark ("?" ++ query) = query := by
  simp [withoutMark]

theorem withoutMark_of_head? {query : String} (h : query.toList.head? ≠ some '?') :
    withoutMark query = query := by
  rw [withoutMark]
  split
  · rename_i rest hrest
    rw [hrest] at h
    exact absurd rfl h
  · rfl

theorem withoutMark_merge (existing : String) (s : FilterState) :
    withoutMark (merge existing s) = merge existing s :=
  withoutMark_of_head? (Form.write_head? _)

/-- A written query is read the same with a question mark in front. -/
theorem parse_of_withoutMark {query existing : String} {s : FilterState}
    (h : withoutMark query = merge existing s) : parse query = parse (merge existing s) := by
  rw [parse, parse, withoutMark_merge, h]

/-! ### The pairs of a merged query -/

theorem read_merge (existing : String) (s : FilterState) :
    Form.read (withoutMark (merge existing s)) = foreignPairs existing ++ ownPairs s := by
  rw [withoutMark_merge, merge, Form.read_write]

theorem isOwnKey_of_mem_ownPairs {s : FilterState} {p : String × String} (h : p ∈ ownPairs s) :
    isOwnKey p.1 = true := by
  have own : ∀ key empty value, p ∈ pairUnlessEmpty key empty value → p.1 = key := by
    intro key empty value hp
    rw [pairUnlessEmpty] at hp
    split at hp
    · cases hp
    · rw [List.mem_singleton.mp hp]
  rw [ownPairs, List.mem_append, List.mem_append] at h
  rcases h with (h | h) | h
  · rw [own _ _ _ h]
    decide
  · rw [own _ _ _ h]
    decide
  · rw [own _ _ _ h]
    decide

theorem not_isOwnKey_of_mem_foreignPairs {query : String} {p : String × String}
    (h : p ∈ foreignPairs query) : isOwnKey p.1 = false := by
  simpa using (List.mem_filter.mp h).2

/-- The foreign pairs of a merged query are told by their names. -/
theorem filter_foreign_append_own (existing : String) (s : FilterState) :
    (foreignPairs existing ++ ownPairs s).filter (fun p => !isOwnKey p.1)
      = foreignPairs existing := by
  have own : (ownPairs s).filter (fun p => !isOwnKey p.1) = [] := by
    refine List.filter_eq_nil_iff.mpr (fun p hp => ?_)
    simp [isOwnKey_of_mem_ownPairs hp]
  have kept : (foreignPairs existing).filter (fun p => !isOwnKey p.1) = foreignPairs existing := by
    refine List.filter_eq_self.mpr (fun p hp => ?_)
    simp [not_isOwnKey_of_mem_foreignPairs hp]
  rw [List.filter_append, own, List.append_nil, kept]

theorem foreignPairs_merge (existing : String) (s : FilterState) :
    foreignPairs (merge existing s) = foreignPairs existing := by
  rw [foreignPairs, read_merge, filter_foreign_append_own]

/-- Only the last of several merges counts. -/
theorem merge_merge (existing : String) (s t : FilterState) :
    merge (merge existing s) t = merge existing t := by
  rw [merge, foreignPairs_merge, merge]

/-! ### Comma lists -/

theorem toList_joinComma (values : List String) :
    (joinComma values).toList = joined ',' (values.map String.toList) := by
  rw [joinComma, String.toList_intercalate]
  induction values with
  | nil => rfl
  | cons v values ih =>
    cases values with
    | nil => simp [joined]
    | cons w values => simpa [joined] using ih

/-- The parts of a comma list are the parts of its values. -/
theorem segments_joinComma (values : List String) :
    segments (joinComma values) = values.flatMap segments := by
  cases hvalues : values with
  | nil => rfl
  | cons v rest =>
    rw [← hvalues]
    have parts : values.map String.toList ≠ [] := by simp [hvalues]
    rw [segments, toList_joinComma, pieces_joined _ parts]
    simp only [List.flatMap_map, List.filter_flatMap, List.map_flatMap]
    rfl

theorem segments_of_plain {value : String} (full : value ≠ "") (plain : ¬ ',' ∈ value.toList) :
    segments value = [value] := by
  have nonempty : value.toList ≠ [] := by simpa using full
  rw [segments, pieces_of_not_mem plain]
  simp [nonempty]

theorem flatMap_segments_of_plain {values : List String}
    (h : ∀ v ∈ values, v ≠ "" ∧ ¬ ',' ∈ v.toList) : values.flatMap segments = values := by
  induction values with
  | nil => rfl
  | cons v values ih =>
    obtain ⟨full, plain⟩ := h v List.mem_cons_self
    rw [List.flatMap_cons, segments_of_plain full plain,
      ih (fun w hw => h w (List.mem_cons_of_mem v hw)), List.singleton_append]

/-- The parts of a comma list have characters, and no commas. -/
theorem plain_of_mem_segments {value part : String} (h : part ∈ segments value) :
    part ≠ "" ∧ ¬ ',' ∈ part.toList := by
  obtain ⟨chars, hchars, rfl⟩ := List.mem_map.mp h
  obtain ⟨piece, full⟩ := List.mem_filter.mp hchars
  rw [String.toList_ofList]
  refine ⟨?_, not_mem_of_mem_pieces piece⟩
  intro empty
  have none := congrArg String.toList empty
  rw [String.toList_ofList] at none
  simp [none] at full

theorem token_plain (t : ResourceType) : t.token ≠ "" ∧ ¬ ',' ∈ t.token.toList := by
  cases t <;> decide

theorem plain_of_mem_tokens {types : List ResourceType} :
    ∀ v ∈ types.map ResourceType.token, v ≠ "" ∧ ¬ ',' ∈ v.toList := by
  intro v hv
  obtain ⟨t, -, rfl⟩ := List.mem_map.mp hv
  exact token_plain t

/-- The text has characters, and the value is put together from texts without commas of
    which it is one. -/
def IsSegment (part value : String) : Prop :=
  part ≠ "" ∧ ∃ parts, joinComma parts = value ∧ part ∈ parts ∧ ∀ p ∈ parts, ¬ ',' ∈ p.toList

/-- Cutting a value at its commas is the only way to take it apart. -/
theorem mem_segments_iff {part value : String} : part ∈ segments value ↔ IsSegment part value := by
  constructor
  · intro h
    refine ⟨(plain_of_mem_segments h).1, (pieces ',' value.toList).map String.ofList, ?_, ?_, ?_⟩
    · apply String.toList_injective
      rw [toList_joinComma, List.map_map]
      simp [Function.comp_def, joined_pieces]
    · obtain ⟨chars, hchars, rfl⟩ := List.mem_map.mp h
      exact List.mem_map_of_mem (List.mem_filter.mp hchars).1
    · intro p hp
      obtain ⟨chars, hchars, rfl⟩ := List.mem_map.mp hp
      rw [String.toList_ofList]
      exact not_mem_of_mem_pieces hchars
  · rintro ⟨full, parts, rfl, hpart, plain⟩
    rw [segments_joinComma, List.mem_flatMap]
    refine ⟨part, hpart, ?_⟩
    rw [segments_of_plain full (plain part hpart)]
    exact List.mem_singleton.mpr rfl

/-! ### The round trip -/

/-- Foreign pairs in front do not hide an own parameter. -/
theorem firstValue?_merged {key : String} (own : isOwnKey key = true) (existing : String)
    (pairs : List (String × String)) :
    firstValue? key (foreignPairs existing ++ pairs) = firstValue? key pairs := by
  have hidden : (foreignPairs existing).find? (fun p => p.1 = key) = none := by
    refine List.find?_eq_none.mpr (fun p hp => ?_)
    have foreign := not_isOwnKey_of_mem_foreignPairs hp
    intro same
    rw [of_decide_eq_true same, own] at foreign
    cases foreign
  rw [firstValue?, firstValue?, List.find?_append, hidden, Option.none_or]

theorem firstValue?_pairUnlessEmpty_of_ne {key other : String} (h : other ≠ key) (empty : Bool)
    (value : String) (pairs : List (String × String)) :
    firstValue? key (pairUnlessEmpty other empty value ++ pairs) = firstValue? key pairs := by
  rw [pairUnlessEmpty]
  split
  · rfl
  · simp [firstValue?, h]

theorem firstValue?_pairUnlessEmpty_self {key value : String} {empty : Bool}
    (h : empty = true → value = "") {pairs : List (String × String)}
    (last : firstValue? key pairs = none) :
    (firstValue? key (pairUnlessEmpty key empty value ++ pairs)).getD "" = value := by
  rw [pairUnlessEmpty]
  split
  · rename_i isEmpty
    rw [List.nil_append, last, h isEmpty]
    rfl
  · simp [firstValue?]

theorem joinComma_of_isEmpty {values : List String} (h : values.isEmpty = true) :
    joinComma values = "" := by
  rw [List.isEmpty_iff.mp h, joinComma, String.intercalate_nil]

/-- Each own parameter is read back from where it was written. -/
theorem firstValue?_ownPairs (s : FilterState) :
    (firstValue? tagsKey (ownPairs s)).getD "" = joinComma s.tags.toList ∧
      (firstValue? typesKey (ownPairs s)).getD ""
        = joinComma (s.types.toList.map ResourceType.token) ∧
      (firstValue? searchTextKey (ownPairs s)).getD "" = s.searchText := by
  have final : ∀ key, searchTextKey ≠ key → firstValue? key
      (pairUnlessEmpty searchTextKey s.searchText.isEmpty s.searchText) = none := by
    intro key other
    rw [← List.append_nil (pairUnlessEmpty _ _ _), firstValue?_pairUnlessEmpty_of_ne other]
    rfl
  rw [ownPairs, List.append_assoc]
  refine ⟨?_, ?_, ?_⟩
  · refine firstValue?_pairUnlessEmpty_self joinComma_of_isEmpty ?_
    rw [firstValue?_pairUnlessEmpty_of_ne (by decide), final _ (by decide)]
  · rw [firstValue?_pairUnlessEmpty_of_ne (by decide)]
    refine firstValue?_pairUnlessEmpty_self ?_ (final _ (by decide))
    intro empty
    exact joinComma_of_isEmpty (by rw [List.isEmpty_iff.mp empty]; rfl)
  · rw [firstValue?_pairUnlessEmpty_of_ne (by decide), firstValue?_pairUnlessEmpty_of_ne (by decide),
      ← List.append_nil (pairUnlessEmpty _ _ _)]
    exact firstValue?_pairUnlessEmpty_self String.isEmpty_iff.mp rfl

/-- **What a merge writes is read back**: the search text and the kinds as they are, of the
    tags the parts between commas. -/
theorem parse_merge (existing : String) (s : FilterState) :
    parse (merge existing s) =
      { state :=
          { searchText := s.searchText
            tags := .ofList (s.tags.toList.flatMap segments)
            types := s.types }
        invalidTypes := [] } := by
  obtain ⟨tags, types, searchText⟩ := firstValue?_ownPairs s
  have tokens : segments (joinComma (s.types.toList.map ResourceType.token))
      = s.types.toList.map ResourceType.token := by
    rw [segments_joinComma, flatMap_segments_of_plain plain_of_mem_tokens]
  have kinds : (s.types.toList.map ResourceType.token).filterMap ResourceType.ofToken?
      = s.types.toList := by
    have back : ResourceType.ofToken? ∘ ResourceType.token = some :=
      funext ResourceType.ofToken?_token
    rw [List.filterMap_map, back, List.filterMap_some]
  have valid : (s.types.toList.map ResourceType.token).filter
      (fun t => (ResourceType.ofToken? t).isNone) = [] := by
    refine List.filter_eq_nil_iff.mpr (fun v hv => ?_)
    obtain ⟨t, -, rfl⟩ := List.mem_map.mp hv
    simp [ResourceType.ofToken?_token]
  rw [parse, read_merge, ofPairs]
  simp only [firstValue?_merged (show isOwnKey tagsKey = true by decide),
    firstValue?_merged (show isOwnKey typesKey = true by decide),
    firstValue?_merged (show isOwnKey searchTextKey = true by decide),
    tags, types, searchText, tokens, kinds, valid, segments_joinComma, OrderedSet.ofList_toList]

/-- Filters with plain tags are read back as they are. -/
theorem parse_merge_of_plain {s : FilterState} (h : s.HasPlainTags) (existing : String) :
    parse (merge existing s) = { state := s, invalidTypes := [] } := by
  rw [parse_merge, flatMap_segments_of_plain h, OrderedSet.ofList_toList]

/-- The tags that are read from a query are plain. -/
theorem hasPlainTags_parse (query : String) : (parse query).state.HasPlainTags := by
  intro tag htag
  exact plain_of_mem_segments (OrderedSet.mem_ofList.mp htag)

/-- **The codec round trip**, over any query: the search text and the kinds are read back as
    they are, nothing is invalid, and the tags are the parts between the commas of the tags
    there were; so plain tags are read back as they are. -/
theorem codec_round_trip (existing : String) (s : FilterState) :
    (parse (merge existing s)).invalidTypes = [] ∧
      (parse (merge existing s)).state.searchText = s.searchText ∧
      (parse (merge existing s)).state.types = s.types ∧
      (∀ tag, tag ∈ (parse (merge existing s)).state.tags ↔ ∃ t ∈ s.tags, IsSegment tag t) ∧
      (s.HasPlainTags → (parse (merge existing s)).state = s) := by
  refine ⟨?_, ?_, ?_, ?_, ?_⟩
  · rw [parse_merge]
  · rw [parse_merge]
  · rw [parse_merge]
  · intro tag
    rw [parse_merge, OrderedSet.mem_ofList, List.mem_flatMap]
    constructor
    · rintro ⟨t, ht, hpart⟩
      exact ⟨t, ht, mem_segments_iff.mp hpart⟩
    · rintro ⟨t, ht, hpart⟩
      exact ⟨t, ht, mem_segments_iff.mpr hpart⟩
  · intro plain
    rw [parse_merge_of_plain plain]

/-- Filters full of characters that mean something in a query. -/
def thornyFilters : FilterState :=
  ((({} : FilterState).toggleTag "a=b&c").toggleTag "?#%2C").withSearchText "\x00&=%+? ü\uFFFD"

theorem codec_round_trip_thorny :
    thornyFilters.HasPlainTags ∧
      (parse (merge "??%zz&tags=old&&=1&%74ags=,&+" thornyFilters)).state = thornyFilters := by
  have none : ({} : FilterState).HasPlainTags :=
    fun _ htag => absurd htag OrderedSet.not_mem_empty
  have plain : thornyFilters.HasPlainTags :=
    FilterState.hasPlainTags_toggleTag (FilterState.hasPlainTags_toggleTag none (by decide))
      (by decide)
  exact ⟨plain, (codec_round_trip _ _).2.2.2.2 plain⟩

/-! ### What a merge leaves alone -/

theorem isOwnKey_iff {key : String} :
    isOwnKey key = true ↔ key ∈ ["tags", "resourceTypes", "searchText"] := by
  simp only [isOwnKey, Bool.or_eq_true, decide_eq_true_eq, or_assoc, List.mem_cons,
    List.not_mem_nil, or_false]
  rfl

/-- Each own parameter is written exactly when there is something in it. -/
theorem ownPairs_eq (s : FilterState) :
    ownPairs s =
      (if s.tags.toList = [] then [] else [("tags", joinComma s.tags.toList)]) ++
        (if s.types.toList = [] then []
          else [("resourceTypes", joinComma (s.types.toList.map ResourceType.token))]) ++
        (if s.searchText = "" then [] else [("searchText", s.searchText)]) := by
  simp only [ownPairs, pairUnlessEmpty, OrderedSet.isEmpty, List.isEmpty_iff, String.isEmpty_iff]
  rfl

/-- One question mark in front is left out, and nothing else. -/
theorem withoutMark_spec (query : String) :
    query = "?" ++ withoutMark query ∨
      (query = withoutMark query ∧ query.toList.head? ≠ some '?') := by
  by_cases marked : query.toList.head? = some '?'
  · obtain ⟨rest, hrest⟩ := List.head?_eq_some_iff.mp marked
    refine Or.inl (String.toList_injective ?_)
    rw [withoutMark, hrest]
    simp
  · exact Or.inr ⟨(withoutMark_of_head? marked).symm, marked⟩

/-- **A merge overwrites the filter's own parameters and nothing else**: of the pairs behind the
    question mark that a query may have, the foreign ones are kept, in order and as often as
    they are there, and behind them stand the parameters that are not empty.  What was merged
    before does not matter. -/
theorem merge_overwrites (existing : String) (s t : FilterState) :
    (∃ text,
      (existing = "?" ++ text ∨ (existing = text ∧ existing.toList.head? ≠ some '?')) ∧
      Form.read (merge existing s) =
        (Form.read text).filter (fun p => p.1 ∉ ["tags", "resourceTypes", "searchText"]) ++
          ((if s.tags.toList = [] then [] else [("tags", joinComma s.tags.toList)]) ++
            (if s.types.toList = [] then []
              else [("resourceTypes", joinComma (s.types.toList.map ResourceType.token))]) ++
            (if s.searchText = "" then [] else [("searchText", s.searchText)]))) ∧
      merge (merge existing s) t = merge existing t ∧
      merge (merge existing s) s = merge existing s := by
  refine ⟨⟨withoutMark existing, withoutMark_spec existing, ?_⟩, merge_merge existing s t,
    merge_merge existing s s⟩
  have foreign : ∀ p : String × String,
      (!isOwnKey p.1) = decide (p.1 ∉ ["tags", "resourceTypes", "searchText"]) := by
    intro p
    rw [Bool.eq_iff_iff, decide_eq_true_iff, ← isOwnKey_iff, Bool.not_eq_true', Bool.not_eq_true]
  rw [merge, Form.read_write, foreignPairs, ownPairs_eq]
  simp only [foreign]

example : merge "?%74ags=x&a=1&&a=%zz" {} = "a=1&a=%25zz" := by decide +kernel

end FilterQuery

end ResourceCatalog
