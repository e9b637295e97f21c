/-
  ResourceCatalog/Wire/Filter.lean
  ================================
  **Filters, listing requests and summaries in JSON.**

  Every field of a filter state may be missing.  Its sets are written as lists
  in ascending order and are read from lists in any order.
-/
import ResourceCatalog.Filter.State
import ResourceCatalog.Wire.Catalog

namespace ResourceCatalog.Wire

open Json

def textsTree (ss : List String) : Tree := .list (ss.map Tree.text)

def typesTree (ts : List ResourceType) : Tree := .list (ts.map typeTree)

/-- A list whose members make a set. -/
def decodeSet {α : Type} [Sortable α] (decode : Decoder α) : Decoder (OrderedSet α) := fun t =>
  (decodeList decode t).map OrderedSet.ofList

/-! ### Filter states -/

structure FilterDraft where
  searchText : Option String := none
  tags : Option (OrderedSet String) := none
  types : Option (OrderedSet ResourceType) := none

def filterForm : RecordForm FilterDraft FilterState where
  blank := {}
  fields :=
    [.of "search_text" FilterDraft.searchText (fun a d => { d with searchText := some a })
       decodeString,
     .of "tags" FilterDraft.tags (fun a d => { d with tags := some a }) (decodeSet decodeString),
     .of "resource_types" FilterDraft.types (fun a d => { d with types := some a })
       (decodeSet decodeType)]
  finish _ d := .ok
    { searchText := d.searchText.getD "", tags := d.tags.getD .empty, types := d.types.getD .empty }

def decodeFilters : Decoder FilterState := filterForm.decode

def filtersTree (s : FilterState) : Tree :=
  .record [("search_text", .text s.searchText), ("tags", textsTree s.tags.toList),
           ("resource_types", typesTree s.types.toList)]

/-! ### Listing requests -/

structure RequestDraft where
  types : Option (List ResourceType) := none
  tags : Option (List String) := none
  searchText : Option String := none
  pageNumber : Option Nat := none
  pageSize : Option Nat := none

def requestForm : RecordForm RequestDraft ListRequest where
  blank := {}
  fields :=
    [.of "types" RequestDraft.types (fun a d => { d with types := some a }) (decodeList decodeType),
     .of "tags" RequestDraft.tags (fun a d => { d with tags := some a }) (decodeList decodeString),
     .of "search_text" RequestDraft.searchText (fun a d => { d with searchText := some a })
       decodeString,
     .of "page_number" RequestDraft.pageNumber (fun a d => { d with pageNumber := some a })
       decodeNat,
     .of "page_size" RequestDraft.pageSize (fun a d => { d with pageSize := some a }) decodeNat]
  finish missing d := do
    let types ← required missing "types" d.types
    let tags ← required missing "tags" d.tags
    let searchText ← required missing "search_text" d.searchText
    let pageNumber ← required missing "page_number" d.pageNumber
    let pageSize ← required missing "page_size" d.pageSize
    return { types, tags, searchText, pageNumber, pageSize }

def decodeRequest : Decoder ListRequest := requestForm.decode

def requestTree (r : ListRequest) : Tree :=
  .record [("types", typesTree r.types), ("tags", textsTree r.tags),
           ("search_text", .text r.searchText), ("page_number", .nat r.pageNumber),
           ("page_size", .nat r.pageSize)]

/-! ### Summaries -/

structure SummaryDraft where
  tags : Option (List String) := none
  types : Option (List ResourceType) := none

def summaryForm : RecordForm SummaryDraft EmptySummary where
  blank := {}
  fields :=
    [.of "tags" SummaryDraft.tags (fun a d => { d with tags := some a }) (decodeList decodeString),
     .of "resource_types" SummaryDraft.types (fun a d => { d with types := some a })
       (decodeList decodeType)]
  finish missing d := do
    let tags ← required missing "tags" d.tags
    let types ← required missing "resource_types" d.types
    return { tags, types }

def decodeSummary : Decoder EmptySummary := summaryForm.decode

def summaryTree (s : EmptySummary) : Tree :=
  .record [("tags", textsTree s.tags), ("resource_types", typesTree s.types)]

end ResourceCatalog.Wire
