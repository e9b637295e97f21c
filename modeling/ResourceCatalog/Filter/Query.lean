/-
  ResourceCatalog/Filter/Query.lean
  =================================
  **Filters in the query of a page address.**

  Three parameters belong to the filters: the tags and the kinds, each a list
  joined by commas, and the search text as it is.  Each is left out when empty.
  Reading takes the first occurrence of each; writing drops every occurrence of
  them and keeps all other parameters, in order, in front of its own.

  Both sides leave out one leading question mark, no more.
-/
import ResourceCatalog.Filter.State
import ResourceCatalog.Text.Form

namespace ResourceCatalog.FilterQuery

def tagsKey : String := "tags"

def typesKey : String := "resourceTypes"

def searchTextKey : String := "searchText"

/-- The parameter belongs to the filters. -/
def isOwnKey (key : String) : Bool := key = tagsKey || key = typesKey || key = searchTextKey

/-- A query without the one question mark that may lead it. -/
def withoutMark (query : String) : String :=
  match query.toList with
  | '?' :: rest => String.ofList rest
  | _ => query

/-! ### Reading -/

/-- The parts of a comma list that have characters. -/
def segments (value : String) : List String :=
  ((Text.pieces ',' value.toList).filter (fun p => !p.isEmpty)).map String.ofList

/-- The value of the first pair of a name. -/
def firstValue? (key : String) (pairs : List (String × String)) : Option String :=
  (pairs.find? (fun p => p.1 = key)).map Prod.snd

/-- Filters read from a query, with the kind tokens that name no kind. -/
structure Hydration where
  state : FilterState
  invalidTypes : List String
deriving DecidableEq, Repr

/-- The filters that a list of pairs holds. -/
def ofPairs (pairs : List (String × String)) : Hydration :=
  let tokens := segments ((firstValue? typesKey pairs).getD "")
  { state :=
      { searchText := (firstValue? searchTextKey pairs).getD ""
        tags := .ofList (segments ((firstValue? tagsKey pairs).getD ""))
        types := .ofList (tokens.filterMap ResourceType.ofToken?) }
    invalidTypes := tokens.filter (fun t => (ResourceType.ofToken? t).isNone) }

/-- The filters in a query. -/
def parse (query : String) : Hydration := ofPairs (Text.Form.read (withoutMark query))

/-! ### Writing -/

/-- One parameter, or none when its value is empty. -/
def pairUnlessEmpty (key : String) (empty : Bool) (value : String) : List (String × String) :=
  if empty then [] else [(key, value)]

/-- The parameters that the filters write. -/
def ownPairs (s : FilterState) : List (String × String) :=
  pairUnlessEmpty tagsKey s.tags.isEmpty (joinComma s.tags.toList)
    ++ pairUnlessEmpty typesKey s.types.isEmpty (joinComma (s.types.toList.map ResourceType.token))
    ++ pairUnlessEmpty searchTextKey s.searchText.isEmpty s.searchText

/-- The parameters of a query that the filters leave alone. -/
def foreignPairs (query : String) : List (String × String) :=
  (Text.Form.read (withoutMark query)).filter (fun p => !isOwnKey p.1)

/-- A query with its filter parameters replaced by those of a state. -/
def merge (existing : String) (s : FilterState) : String :=
  Text.Form.write (foreignPairs existing ++ ownPairs s)

/-- A filter state as a query of its own. -/
def write (s : FilterState) : String := merge "" s

end ResourceCatalog.FilterQuery
