/-
  ResourceCatalog/Sync/Notice.lean
  ================================
  **Short messages to the user that do not interrupt.**
-/
import ResourceCatalog.Catalog.ResourceType

namespace ResourceCatalog

/-- A message to the user. -/
inductive Notice where
  | invalidType (token : String)
  | fetchFailed (detail : String)
deriving DecidableEq, Repr

namespace Notice

def title : Notice → String
  | invalidType _ => "Invalid resource type"
  | fetchFailed _ => "Error fetching resources"

/-- The whole message.  The detail of a failure is not shown. -/
def description : Notice → String
  | invalidType token =>
    "Invalid resource type: " ++ token ++ ". Valid types are: " ++ ResourceType.validTokens
  | fetchFailed _ => "An error occurred while fetching resources."

end Notice

end ResourceCatalog
