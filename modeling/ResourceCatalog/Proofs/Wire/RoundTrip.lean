/-
  ResourceCatalog/Proofs/Wire/RoundTrip.lean
  ==========================================
  **Every value that is exchanged is read back from its JSON.**

  Each type has a tree that can be written (`…Tree_whole`) and a decoder that
  reads the value from it (`decode…_tree`); the two are put together in the order
  in which the types are built from each other.  Tokens are read back from their
  names, sets from their ascending lists.

  Only three types hold numbers, and a decoder gives no number beyond 64 bits,
  whatever it reads (`fits_of_decodeRequest`, `fits_of_decodeMessage`,
  `fits_of_decodeBlock`).  The values of all other types are read back without
  a condition.  The twelve codecs are `wire_round_trip`.
-/
import ResourceCatalog.Proofs.Json.ValueRoundTrip
import ResourceCatalog.Wire.Chat
import ResourceCatalog.Wire.Filter

namespace ResourceCatalog.Wire

open Json Chat

/-! ### Trees that can be written -/

@[simp] theorem list_whole {α : Type} {tree : α → Tree} (h : ∀ a, (tree a).Whole) (as : List α) :
    (Tree.list (as.map tree)).Whole := by
  refine .list fun t ht => ?_
  obtain ⟨a, -, rfl⟩ := List.mem_map.mp ht
  exact h a

@[simp] theorem optionTree_whole (s : Option String) : (optionTree s).Whole := by
  cases s <;> simp [optionTree]

@[simp] theorem typeTree_whole (t : ResourceType) : (typeTree t).Whole := .text _

@[simp] theorem textsTree_whole (ss : List String) : (textsTree ss).Whole := by simp [textsTree]

@[simp] theorem typesTree_whole (ts : List ResourceType) : (typesTree ts).Whole := by
  simp [typesTree]

@[simp] theorem tagTree_whole (t : Tag) : (tagTree t).Whole := by simp [tagTree]

@[simp] theorem authorTree_whole (a : Author) : (authorTree a).Whole := by simp [authorTree]

@[simp] theorem resourceTree_whole (r : Resource) : (resourceTree r).Whole := by
  simp [resourceTree, tagsTree, privacyTree, statusTree]

theorem pageTree_whole (p : Page) : (pageTree p).Whole := by simp [pageTree]

theorem filtersTree_whole (s : FilterState) : (filtersTree s).Whole := by simp [filtersTree]

theorem requestTree_whole (r : ListRequest) : (requestTree r).Whole := by simp [requestTree]

theorem summaryTree_whole (s : EmptySummary) : (summaryTree s).Whole := by simp [summaryTree]

theorem questionTree_whole (q : Question) : (questionTree q).Whole := by simp [questionTree]

theorem answerTree_whole (a : Answer) : (answerTree a).Whole := by simp [answerTree]

theorem messageTree_whole (m : Message) : (messageTree m).Whole := by
  simp [messageTree, senderTree]

@[simp] theorem spanTree_whole (s : Span) : (spanTree s).Whole := by simp [spanTree]

theorem blockTree_whole (b : Block) : (blockTree b).Whole := by
  cases b <;> simp [blockTree]

/-! ### Plain parts -/

@[simp] theorem decodeOption_tree (s : Option String) :
    decodeOption decodeString (optionTree s) = .ok s := by
  cases s <;> rfl

theorem decodeType_tree (t : ResourceType) : decodeType (typeTree t) = .ok t := by
  cases t <;> rfl

@[simp] theorem decodePrivacy_tree (p : Privacy) : decodePrivacy (privacyTree p) = .ok p := by
  cases p <;> rfl

@[simp] theorem decodeStatus_tree (s : VerificationStatus) :
    decodeStatus (statusTree s) = .ok s := by
  cases s <;> rfl

@[simp] theorem decodeSender_tree (s : Sender) : decodeSender (senderTree s) = .ok s := by
  cases s <;> rfl

@[simp] theorem decodeTexts_tree (ss : List String) :
    decodeList decodeString (textsTree ss) = .ok ss :=
  decodeList_map decodeString_text ss

@[simp] theorem decodeTypes_tree (ts : List ResourceType) :
    decodeList decodeType (typesTree ts) = .ok ts :=
  decodeList_map decodeType_tree ts

/-- A set is read back from the list of its members. -/
theorem decodeSet_toList {α : Type} [Sortable α] {decode : Decoder α} {t : Tree}
    {s : OrderedSet α} (h : decodeList decode t = .ok s.toList) : decodeSet decode t = .ok s := by
  rw [decodeSet, h, Except.map, OrderedSet.ofList_toList]

/-! ### Rows and pages -/

theorem decodeTag_tree (t : Tag) : decodeTag (tagTree t) = .ok t := by
  simp [decodeTag, tagTree, tagForm]

theorem decodeAuthor_tree (a : Author) : decodeAuthor (authorTree a) = .ok a := by
  simp [decodeAuthor, authorTree, authorForm]

theorem decodeResource_tree (r : Resource) : decodeResource (resourceTree r) = .ok r := by
  have tags : decodeTags (tagsTree r.tags) = .ok r.tags := decodeList_map decodeTag_tree r.tags
  have authors := decodeList_map decodeAuthor_tree r.authors
  simp [decodeResource, resourceTree, resourceForm, tags, authors]

theorem decodePage_tree (p : Page) : decodePage (pageTree p) = .ok p := by
  have content := decodeList_map decodeResource_tree p.content
  simp [decodePage, pageTree, pageForm, content]

/-! ### Filters and requests -/

theorem decodeFilters_tree (s : FilterState) : decodeFilters (filtersTree s) = .ok s := by
  have tags := decodeSet_toList (decodeTexts_tree s.tags.toList)
  have types := decodeSet_toList (decodeTypes_tree s.types.toList)
  simp [decodeFilters, filtersTree, filterForm, tags, types]

theorem decodeRequest_tree {r : ListRequest} (fits : Fits r.pageNumber ∧ Fits r.pageSize) :
    decodeRequest (requestTree r) = .ok r := by
  simp [decodeRequest, requestTree, requestForm, fits]

theorem decodeSummary_tree (s : EmptySummary) : decodeSummary (summaryTree s) = .ok s := by
  simp [decodeSummary, summaryTree, summaryForm]

/-! ### Chat -/

theorem decodeQuestion_tree (q : Question) : decodeQuestion (questionTree q) = .ok q := by
  simp [decodeQuestion, questionTree, questionForm]

theorem decodeAnswer_tree (a : Answer) : decodeAnswer (answerTree a) = .ok a := by
  simp [decodeAnswer, answerTree, answerForm]

theorem decodeMessage_tree {m : Message} (fits : Fits m.id) :
    decodeMessage (messageTree m) = .ok m := by
  simp [decodeMessage, messageTree, messageForm, fits]

theorem decodeSpan_tree (s : Span) : decodeSpan (spanTree s) = .ok s := by
  simp [decodeSpan, spanTree, spanForm]

/-- The number of a header, the one number in a block, is one of 64 bits. -/
def BlockFits : Block → Prop
  | .header level _ => Fits level
  | _ => True

theorem decodeBlock_tree {b : Block} (fits : BlockFits b) : decodeBlock (blockTree b) = .ok b := by
  cases b with
  | blank => rfl
  | paragraph spans =>
    rw [blockTree, decodeBlock, decodeCase_record (c := .holding "Paragraph" .paragraph _) rfl]
    simp [Case.holding, decodeList_map decodeSpan_tree]
  | bullet text => rfl
  | numbered marker text =>
    rw [blockTree, decodeBlock, decodeCase_record (c := .holding "Numbered" id _) rfl]
    simp [Case.holding, numberedForm]
  | header level text =>
    have value : decodeNat (.nat level) = .ok level := decodeNat_nat fits
    rw [blockTree, decodeBlock, decodeCase_record (c := .holding "Header" id _) rfl]
    simp [Case.holding, headerForm, value]

/-! ### Numbers that are read -/

/-- The number that a draft holds, if it holds one, is one of 64 bits. -/
def Holds (n : Option Nat) : Prop := ∀ a, n = some a → Fits a

theorem holds_none : Holds none := by
  intro a h
  cases h

theorem holds_of_decodeNat {t : Tree} {a : Nat} (h : decodeNat t = .ok a) : Holds (some a) := by
  intro b hb
  cases hb
  exact fits_of_decodeNat h

theorem fits_of_decodeRequest {t : Tree} {r : ListRequest} (h : decodeRequest t = .ok r) :
    Fits r.pageNumber ∧ Fits r.pageSize := by
  refine RecordForm.decode_keeps requestForm (fun d => Holds d.pageNumber ∧ Holds d.pageSize)
    (fun r => Fits r.pageNumber ∧ Fits r.pageSize) ⟨holds_none, holds_none⟩ ?_ ?_ h
  · intro f hf t d d' read inv
    simp only [requestForm, List.mem_cons, List.not_mem_nil, or_false] at hf
    obtain rfl | rfl | rfl | rfl | rfl := hf <;> obtain ⟨a, ha, rfl⟩ := Field.eq_set_of_read read
    · exact inv
    · exact inv
    · exact inv
    · exact ⟨holds_of_decodeNat ha, inv.2⟩
    · exact ⟨inv.1, holds_of_decodeNat ha⟩
  · intro missing d r finish inv
    obtain ⟨types, -, finish⟩ := eq_some_of_required finish
    obtain ⟨tags, -, finish⟩ := eq_some_of_required finish
    obtain ⟨searchText, -, finish⟩ := eq_some_of_required finish
    obtain ⟨pageNumber, hn, finish⟩ := eq_some_of_required finish
    obtain ⟨pageSize, hs, finish⟩ := eq_some_of_required finish
    cases finish
    exact ⟨inv.1 pageNumber hn, inv.2 pageSize hs⟩

theorem fits_of_decodeMessage {t : Tree} {m : Message} (h : decodeMessage t = .ok m) :
    Fits m.id := by
  refine RecordForm.decode_keeps messageForm (fun d => Holds d.id) (fun m => Fits m.id)
    holds_none ?_ ?_ h
  · intro f hf t d d' read inv
    simp only [messageForm, List.mem_cons, List.not_mem_nil, or_false] at hf
    obtain rfl | rfl | rfl := hf <;> obtain ⟨a, ha, rfl⟩ := Field.eq_set_of_read read
    · exact holds_of_decodeNat ha
    · exact inv
    · exact inv
  · intro missing d m finish inv
    obtain ⟨id, hid, finish⟩ := eq_some_of_required finish
    obtain ⟨sender, -, finish⟩ := eq_some_of_required finish
    obtain ⟨text, -, finish⟩ := eq_some_of_required finish
    cases finish
    exact inv id hid

theorem fits_of_decodeHeader {t : Tree} {b : Block} (h : headerForm.decode t = .ok b) :
    BlockFits b := by
  refine RecordForm.decode_keeps headerForm (fun d => Holds d.level) BlockFits holds_none ?_ ?_ h
  · intro f hf t d d' read inv
    simp only [headerForm, List.mem_cons, List.not_mem_nil, or_false] at hf
    obtain rfl | rfl := hf <;> obtain ⟨a, ha, rfl⟩ := Field.eq_set_of_read read
    · exact holds_of_decodeNat ha
    · exact inv
  · intro missing d b finish inv
    obtain ⟨level, hl, finish⟩ := eq_some_of_required finish
    obtain ⟨text, -, finish⟩ := eq_some_of_required finish
    cases finish
    exact inv level hl

/-- An item of a numbered list is read from its form, and holds no number. -/
theorem fits_of_decodeNumbered {t : Tree} {b : Block} (h : numberedForm.decode t = .ok b) :
    BlockFits b := by
  refine RecordForm.decode_keeps numberedForm (fun _ => True) BlockFits trivial
    (fun _ _ _ _ _ _ _ => trivial) ?_ h
  intro missing d b finish _
  obtain ⟨marker, -, finish⟩ := eq_some_of_required finish
  obtain ⟨text, -, finish⟩ := eq_some_of_required finish
  cases finish
  trivial

theorem fits_of_decodeBlock {t : Tree} {b : Block} (h : decodeBlock t = .ok b) : BlockFits b := by
  refine decodeCase_keeps (fun c hc value b read => ?_) h
  simp only [blockCases, List.mem_cons, List.not_mem_nil, or_false] at hc
  obtain rfl | hc := hc
  · cases value with
    | none =>
      cases read
      trivial
    | some t =>
      cases t with
      | null =>
        cases read
        trivial
      | _ => cases read
  · obtain rfl | rfl | rfl | rfl := hc <;> obtain ⟨t, v, hv, rfl⟩ := Case.eq_make_of_read read
    · trivial
    · trivial
    · exact fits_of_decodeNumbered hv
    · exact fits_of_decodeHeader hv

/-! ### All that is exchanged -/

/-- Every type that is exchanged in JSON has a codec.  What its numbers can be is said for each
    type that has some. -/
structure WireRoundTrip : Prop where
  tag : Codec (fun _ => True) tagTree decodeTag
  author : Codec (fun _ => True) authorTree decodeAuthor
  resource : Codec (fun _ => True) resourceTree decodeResource
  page : Codec (fun _ => True) pageTree decodePage
  filters : Codec (fun _ => True) filtersTree decodeFilters
  request : Codec (fun r => Fits r.pageNumber ∧ Fits r.pageSize) requestTree decodeRequest
  summary : Codec (fun _ => True) summaryTree decodeSummary
  question : Codec (fun _ => True) questionTree decodeQuestion
  answer : Codec (fun _ => True) answerTree decodeAnswer
  message : Codec (fun m => Fits m.id) messageTree decodeMessage
  span : Codec (fun _ => True) spanTree decodeSpan
  block : Codec BlockFits blockTree decodeBlock

/-- **Every value is read back from the text it is written as, and what is read from any text
    has a canonical text.** -/
theorem wire_round_trip : WireRoundTrip where
  tag := .of_trees tagTree_whole (fun t _ => decodeTag_tree t) (fun _ _ _ => trivial)
  author := .of_trees authorTree_whole (fun a _ => decodeAuthor_tree a) (fun _ _ _ => trivial)
  resource := .of_trees resourceTree_whole (fun r _ => decodeResource_tree r) (fun _ _ _ => trivial)
  page := .of_trees pageTree_whole (fun p _ => decodePage_tree p) (fun _ _ _ => trivial)
  filters := .of_trees filtersTree_whole (fun s _ => decodeFilters_tree s) (fun _ _ _ => trivial)
  request := .of_trees requestTree_whole (fun _ => decodeRequest_tree)
    (fun _ _ => fits_of_decodeRequest)
  summary := .of_trees summaryTree_whole (fun s _ => decodeSummary_tree s) (fun _ _ _ => trivial)
  question := .of_trees questionTree_whole (fun q _ => decodeQuestion_tree q)
    (fun _ _ _ => trivial)
  answer := .of_trees answerTree_whole (fun a _ => decodeAnswer_tree a) (fun _ _ _ => trivial)
  message := .of_trees messageTree_whole (fun _ => decodeMessage_tree)
    (fun _ _ => fits_of_decodeMessage)
  span := .of_trees spanTree_whole (fun s _ => decodeSpan_tree s) (fun _ _ _ => trivial)
  block := .of_trees blockTree_whole (fun _ => decodeBlock_tree) (fun _ _ => fits_of_decodeBlock)

end ResourceCatalog.Wire
