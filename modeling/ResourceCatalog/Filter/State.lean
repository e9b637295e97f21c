/-
  ResourceCatalog/Filter/State.lean
  =================================
  **What is being filtered for.**

  A filter state holds a search text, a set of tags and a set of resource
  kinds.  Edits make a new state; a tag without characters cannot be written
  into a query and is never selected, so toggling it changes nothing.
-/
import ResourceCatalog.Catalog.Resource

namespace ResourceCatalog

/-- Search text, selected tags and selected kinds. -/
structure FilterState where
  searchText : String := ""
  tags : OrderedSet String := .empty
  types : OrderedSet ResourceType := .empty
deriving DecidableEq, Repr, Inhabited

namespace FilterState

/-- Select a tag, or deselect it. -/
def toggleTag (tag : String) (s : FilterState) : FilterState :=
  if tag = "" then s else { s with tags := s.tags.toggle tag }

/-- Select a kind, or deselect it. -/
def toggleType (type : ResourceType) (s : FilterState) : FilterState :=
  { s with types := s.types.toggle type }

def withSearchText (text : String) (s : FilterState) : FilterState :=
  { s with searchText := text }

def hasTag (tag : String) (s : FilterState) : Bool := tag ∈ s.tags

def hasType (type : ResourceType) (s : FilterState) : Bool := type ∈ s.types

theorem searchText_toggleTag (s : FilterState) (tag : String) :
    (s.toggleTag tag).searchText = s.searchText := by
  unfold toggleTag
  split <;> rfl

theorem types_toggleTag (s : FilterState) (tag : String) : (s.toggleTag tag).types = s.types := by
  unfold toggleTag
  split <;> rfl

end FilterState

/-! ### Listing requests -/

/-- How many rows a listing request asks for. -/
def pageSize : Nat := 100

/-- Values joined by commas. -/
def joinComma (values : List String) : String := ",".intercalate values

/-- What a listing call asks the catalog for. -/
structure ListRequest where
  types : List ResourceType
  tags : List String
  searchText : String
  pageNumber : Nat
  pageSize : Nat
deriving DecidableEq, Repr

/-- The parameters of a listing call, in the order the catalog documents them.
    All five are sent, empty ones too. -/
def ListRequest.queryPairs (r : ListRequest) : List (String × String) :=
  [("type", joinComma (r.types.map ResourceType.token)),
   ("tag", joinComma r.tags),
   ("nameSearch", r.searchText),
   ("pageNumber", toString r.pageNumber),
   ("pageSize", toString r.pageSize)]

/-- The first page for a filter state. -/
def FilterState.listRequest (s : FilterState) : ListRequest :=
  { types := s.types.toList, tags := s.tags.toList, searchText := s.searchText,
    pageNumber := 0, pageSize := pageSize }

/-! ### Empty results -/

/-- The filters that no resource met. -/
structure EmptySummary where
  tags : List String
  types : List ResourceType
deriving DecidableEq, Repr

namespace EmptySummary

/-- Values for reading, or a word that there are none. -/
def listed (values : List String) : String :=
  if values.isEmpty then "None" else ", ".intercalate values

def headline : String := "No resources found with the following criteria:"

def tagsLine (s : EmptySummary) : String := "Tags: " ++ listed s.tags

def typesLine (s : EmptySummary) : String :=
  "Resource Types: " ++ listed (s.types.map ResourceType.token)

/-- The whole summary as a text of three lines. -/
def text (s : EmptySummary) : String :=
  headline ++ "\n" ++ s.tagsLine ++ "\n" ++ s.typesLine

end EmptySummary

def FilterState.emptySummary (s : FilterState) : EmptySummary :=
  { tags := s.tags.toList, types := s.types.toList }

/-- The filters a listing request asks for, as a summary of an empty answer. -/
def ListRequest.emptySummary (r : ListRequest) : EmptySummary :=
  { tags := r.tags, types := r.types }

theorem FilterState.emptySummary_listRequest (s : FilterState) :
    s.listRequest.emptySummary = s.emptySummary := rfl

end ResourceCatalog
