/-
  ResourceCatalog/Proofs/Service/Listing.lean
  ===========================================
  **Listing requests arrive as they were meant.**

  Below the root of a service every path is an address again, and the pairs that are put
  behind it are its query (`getJson_sent`).  Whoever reads the query of a listing request
  finds the five parameters that were asked for; as comma lists of plain values are told
  apart, so are the filters behind two requests (`listing_arrives`).
-/
import ResourceCatalog.Proofs.Filter.QueryRoundTrip
import ResourceCatalog.Proofs.Url.Query
import ResourceCatalog.Service.Client

namespace ResourceCatalog.Service

open Text Url

/-- An absolute address of the web that ends with its path.  A blank or control at its end is
    no part of an address, although reading passes over it there. -/
structure IsRoot (root : String) : Prop where
  reads : ∃ a, Address.ofString? root = some a ∧ a.query = none ∧ a.fragment = none
  last : ∀ c ∈ root.toList.getLast?, Address.isBlankOrControl c = false

/-- No character of a path begins a query or a fragment or is passed over in reading. -/
def IsPath (path : String) : Prop :=
  ∀ c ∈ path.toList, Address.isBlankOrControl c = false ∧ Address.inPath c = true

instance (path : String) : Decidable (IsPath path) := List.decidableBAll _ path.toList

section Sent

variable {α : Type} {root path : String} {pairs : List (String × String)}

/-- There is a service at every path below the root. -/
theorem IsRoot.below (h : IsRoot root) (clean : IsPath path) :
    ∃ a, Address.ofString? (addressOf root path) = some a ∧ a.query = none ∧ a.fragment = none := by
  obtain ⟨a, reads, noQuery, noFragment⟩ := h.reads
  have goesOn : ∀ c ∈ ("/" ++ String.ofList (path.toList.dropWhile (· = '/'))).toList,
      Address.isBlankOrControl c = false ∧ Address.inPath c = true := by
    intro c hc
    rw [String.toList_append, List.mem_append] at hc
    rcases hc with hc | hc
    · rw [List.mem_singleton.mp hc]
      decide
    · rw [String.toList_ofList] at hc
      exact clean c ((List.dropWhile_suffix _).mem hc)
  have slash : ∀ c ∈ ("/" ++ String.ofList (path.toList.dropWhile (· = '/'))).toList.head?,
      Address.isSlash c = true := by
    intro c hc
    rw [String.toList_append, List.head?_append] at hc
    cases hc
    rfl
  obtain ⟨b, reads, -, -, -, noQuery, noFragment⟩ :=
    Address.ofString?_append reads noQuery noFragment h.last slash goesOn
  exact ⟨b, by rwa [addressOf, String.append_assoc], noQuery, noFragment⟩

/-- **One request asks for a value, and its query is the pairs.** -/
theorem getJson_sent (h : IsRoot root) (clean : IsPath path) (some_pairs : pairs ≠ [])
    (decode : Json.Decoder α) :
    ∃ r, (getJson root path pairs decode).sent = [r] ∧ r.method = .get ∧
      Address.IsQueryOf r.address.text (Form.write pairs) := by
  obtain ⟨a, reads, noQuery, noFragment⟩ := h.below clean
  have written : a.withPairs pairs = { a with query := some (Form.write pairs) } := by
    have full : Form.write pairs ≠ "" := mt Form.write_eq_empty_iff.mp some_pairs
    rw [Address.withPairs, noQuery]
    simp only [if_neg full]
  refine ⟨{ method := .get, address := a.withPairs pairs, contentType := none, body := "" },
    ?_, rfl, ?_⟩
  · rw [Call.sent, getJson]
    simp only [reads]
  · simp only [written]
    exact Address.isQueryOf_text reads noFragment (fun mark => (Form.mem_write mark).2 rfl)

end Sent

/-! ### Listings -/

theorem resourcesPath_isPath : IsPath resourcesPath := by decide

/-- Comma lists of plain values are told apart. -/
theorem joinComma_injective_of_plain {vs ws : List String}
    (hv : ∀ v ∈ vs, v ≠ "" ∧ ¬ ',' ∈ v.toList) (hw : ∀ w ∈ ws, w ≠ "" ∧ ¬ ',' ∈ w.toList)
    (same : joinComma vs = joinComma ws) : vs = ws := by
  rw [← FilterQuery.flatMap_segments_of_plain hv, ← FilterQuery.flatMap_segments_of_plain hw,
    ← FilterQuery.segments_joinComma, ← FilterQuery.segments_joinComma, same]

/-- What a listing request asks for tells which filters it is made from. -/
theorem eq_of_queryPairs_listRequest {s t : FilterState} (hs : s.HasPlainTags)
    (ht : t.HasPlainTags) (same : s.listRequest.queryPairs = t.listRequest.queryPairs) :
    s = t := by
  simp only [ListRequest.queryPairs, List.cons.injEq, Prod.mk.injEq] at same
  obtain ⟨⟨-, types⟩, ⟨-, tags⟩, ⟨-, searchText⟩, -⟩ := same
  have sameTypes : s.types.toList = t.types.toList :=
    (List.map_inj_right (fun _ _ => ResourceType.token_injective)).mp
      (joinComma_injective_of_plain FilterQuery.plain_of_mem_tokens FilterQuery.plain_of_mem_tokens
        types)
  have sameTags : s.tags.toList = t.tags.toList := joinComma_injective_of_plain hs ht tags
  obtain ⟨_, sTags, sTypes⟩ := s
  obtain ⟨_, tTags, tTypes⟩ := t
  have tagSets : sTags = tTags := by
    rw [← OrderedSet.ofList_toList sTags, ← OrderedSet.ofList_toList tTags, sameTags]
  have typeSets : sTypes = tTypes := by
    rw [← OrderedSet.ofList_toList sTypes, ← OrderedSet.ofList_toList tTypes, sameTypes]
  cases searchText
  cases tagSets
  cases typeSets
  rfl

/-- **Listing requests arrive as they were meant.**  A listing is asked for with one request, a
    GET, and whoever reads the query of its address finds the five parameters in their order,
    empty ones too.  So the addresses of two filter states differ if the states do, as long as
    their tags are plain. -/
theorem listing_arrives {config : Config} (root : IsRoot config.apiUrl) :
    (∀ request : ListRequest, ∃ r query,
      (fetchResources config request).sent = [r] ∧ r.method = .get ∧
      Address.IsQueryOf r.address.text query ∧
      Form.read query =
        [("type", joinComma (request.types.map ResourceType.token)),
         ("tag", joinComma request.tags),
         ("nameSearch", request.searchText),
         ("pageNumber", toString request.pageNumber),
         ("pageSize", toString request.pageSize)]) ∧
    ∀ s t : FilterState, s.HasPlainTags → t.HasPlainTags →
      (fetchResources config s.listRequest).sent.map (·.address.text) =
        (fetchResources config t.listRequest).sent.map (·.address.text) → s = t := by
  have one : ∀ request : ListRequest, ∃ r, (fetchResources config request).sent = [r] ∧
      r.method = .get ∧ Address.IsQueryOf r.address.text (Form.write request.queryPairs) :=
    fun request => getJson_sent root resourcesPath_isPath (List.cons_ne_nil _ _) _
  constructor
  · intro request
    obtain ⟨r, sent, method, query⟩ := one request
    exact ⟨r, _, sent, method, query, Form.read_write _⟩
  · intro s t hs ht same
    obtain ⟨r, sent, -, query⟩ := one s.listRequest
    obtain ⟨r', sent', -, query'⟩ := one t.listRequest
    rw [sent, sent', List.map_singleton, List.map_singleton, List.singleton_inj] at same
    have written := query.unique (same ▸ query')
    refine eq_of_queryPairs_listRequest hs ht ?_
    rw [← Form.read_write s.listRequest.queryPairs, written, Form.read_write]

/-- A catalog on the same machine, at a port that is not the scheme's own. -/
def localCatalog : Config := { Config.default with apiUrl := "http://[::1]:8080/api/v1" }

/-- The number sign of a search text ends no query, and nobody takes the filters for none. -/
theorem listing_arrives_localCatalog :
    let filters : FilterState := (({} : FilterState).toggleTag "a=b&c").withSearchText "# ü?"
    IsRoot localCatalog.apiUrl ∧
      (∃ r query, (fetchResources localCatalog filters.listRequest).sent = [r] ∧
        Address.IsQueryOf r.address.text query ∧
        Form.read query =
          [("type", ""), ("tag", "a=b&c"), ("nameSearch", "# ü?"), ("pageNumber", "0"),
           ("pageSize", "100")]) ∧
      (fetchResources localCatalog filters.listRequest).sent.map (·.address.text) ≠
        (fetchResources localCatalog ({} : FilterState).listRequest).sent.map (·.address.text) := by
  intro filters
  have root : IsRoot localCatalog.apiUrl :=
    { reads := ⟨⟨.http, "[::1]", some 8080, ["api", "v1"], none, none⟩, by decide +kernel⟩
      last := by rintro _ ⟨⟩; rfl }
  have none : ({} : FilterState).HasPlainTags :=
    fun _ htag => absurd htag OrderedSet.not_mem_empty
  have plain : filters.HasPlainTags :=
    FilterState.hasPlainTags_toggleTag none (by decide)
  refine ⟨root, ?_, fun same => ?_⟩
  · obtain ⟨r, query, sent, -, isQuery, pairs⟩ := (listing_arrives root).1 filters.listRequest
    exact ⟨r, query, sent, isQuery, pairs.trans (by decide +kernel)⟩
  · have equal := (listing_arrives root).2 filters {} plain none same
    exact absurd equal (by decide)

end ResourceCatalog.Service
