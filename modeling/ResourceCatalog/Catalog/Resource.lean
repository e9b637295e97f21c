/-
  ResourceCatalog/Catalog/Resource.lean
  =====================================
  **What the catalog lists: resources with their tags, authors and status.**

  A row keeps its type token as the catalog sent it, so that a kind this
  library does not know is still shown, in gray.
-/
import ResourceCatalog.Catalog.ResourceType
import ResourceCatalog.Text.Order

namespace ResourceCatalog

/-- A tag of a resource. -/
structure Tag where
  id : String
  value : String
deriving DecidableEq, Repr, Inhabited

namespace Tag

/-- Tags go by identifier, and by value where identifiers agree. -/
instance : Sortable Tag where
  before a b :=
    Sortable.before a.id b.id || (a.id = b.id && Sortable.before a.value b.value)
  before_irrefl a := by simp [Sortable.before_irrefl]
  before_trans a b c h1 h2 := by
    simp only [Bool.or_eq_true, Bool.and_eq_true, decide_eq_true_eq] at *
    rcases h1 with h1 | ⟨e1, h1⟩
    · rcases h2 with h2 | ⟨e2, _⟩
      · exact Or.inl (Sortable.before_trans _ _ _ h1 h2)
      · exact Or.inl (e2 ▸ h1)
    · rcases h2 with h2 | ⟨e2, h2⟩
      · exact Or.inl (e1 ▸ h2)
      · exact Or.inr ⟨e1.trans e2, Sortable.before_trans _ _ _ h1 h2⟩
  before_total a b h1 h2 := by
    simp only [Bool.or_eq_false_iff, Bool.and_eq_false_iff, decide_eq_false_iff_not] at h1 h2
    have hid : a.id = b.id := Sortable.before_total _ _ h1.1 h2.1
    have hv : a.value = b.value := by
      refine Sortable.before_total _ _ ?_ ?_
      · exact h1.2.resolve_left (fun h => h hid)
      · exact h2.2.resolve_left (fun h => h hid.symm)
    cases a
    cases b
    simp_all

/-- Tags by value alone; tags of one value keep their order. -/
def sortedByValue (tags : List Tag) : List Tag :=
  tags.mergeSort (fun a b => !Text.before b.value a.value)

end Tag

/-- Who may see a resource. -/
inductive Privacy where
  | everyone
  | restricted
deriving DecidableEq, Repr

/-- How far a resource has been checked. -/
inductive VerificationStatus where
  | verified
  | rejected
  | pending
  | none
deriving DecidableEq, Repr

/-- The hue of a status. -/
def VerificationStatus.hue : VerificationStatus → Hue
  | verified => .green
  | rejected => .red
  | pending => .yellow
  | none => .gray

/-- Someone who made a resource. -/
structure Author where
  authorId : String
  role : Option String
deriving DecidableEq, Repr

/-- One row of the catalog, its type as the token that the catalog sent. -/
structure Resource where
  id : String
  name : String
  description : String
  headerImage : String
  typeToken : String
  tags : List Tag
  authors : List Author
  privacy : Privacy
  status : VerificationStatus
deriving DecidableEq, Repr

namespace Resource

/-- A header image is shown only for an address that starts like a web address. -/
def hasHeaderImage (r : Resource) : Bool := "http".toList.isPrefixOf r.headerImage.toList

/-- The tags as a card shows them. -/
def sortedTags (r : Resource) : List Tag := Tag.sortedByValue r.tags

def knownType? (r : Resource) : Option ResourceType := ResourceType.ofToken? r.typeToken

/-- The hue of the type badge. -/
def hue (r : Resource) : Hue := ResourceType.hueOfToken r.typeToken

end Resource

/-- One page of the listing. -/
structure Page where
  content : List Resource
deriving DecidableEq, Repr

end ResourceCatalog
