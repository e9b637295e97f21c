/-
  ResourceCatalog/Catalog/ResourceType.lean
  =========================================
  **The four kinds of catalog resource that can be filtered for.**

  A kind is written as an upper-case token, and only the exact token is read
  back (`ofToken?_eq_some_iff`).  The kinds are ordered as their filter buttons
  stand on the page.
-/
import ResourceCatalog.OrderedSet
import ResourceCatalog.Catalog.Hue

namespace ResourceCatalog

/-- A kind of resource. -/
inductive ResourceType where
  | repository
  | notebook
  | dataset
  | model
deriving DecidableEq, Repr

namespace ResourceType

/-- Every kind, in the order of the filter buttons. -/
def all : List ResourceType := [repository, notebook, dataset, model]

/-- The written form. -/
def token : ResourceType → String
  | repository => "REPOSITORY"
  | notebook => "NOTEBOOK"
  | dataset => "DATASET"
  | model => "MODEL"

/-- The kind that a token names, if it names one. -/
def ofToken? (token : String) : Option ResourceType := all.find? (fun t => t.token = token)

/-- The hue of the kind's badge and button. -/
def hue : ResourceType → Hue
  | notebook => .blue
  | repository => .red
  | dataset => .green
  | model => .purple

/-- The hue for a token as the catalog sent it; gray when it names no kind. -/
def hueOfToken (token : String) : Hue := ((ofToken? token).map hue).getD .gray

/-- Every token, for messages. -/
def validTokens : String := ", ".intercalate (all.map token)

/-- The place in the order of the filter buttons. -/
def rank : ResourceType → Nat
  | repository => 0
  | notebook => 1
  | dataset => 2
  | model => 3

instance : Sortable ResourceType where
  before a b := a.rank < b.rank
  before_irrefl a := by simp
  before_trans a b c h1 h2 := by
    simp only [decide_eq_true_eq] at *
    omega
  before_total a b h1 h2 := by
    cases a <;> cases b <;> first | rfl | simp [rank] at h1 h2

theorem mem_all (t : ResourceType) : t ∈ all := by
  cases t <;> decide

theorem token_injective {a b : ResourceType} (h : a.token = b.token) : a = b := by
  cases a <;> cases b <;> first | rfl | exact absurd h (by decide)

theorem ofToken?_token (t : ResourceType) : ofToken? t.token = some t := by
  cases t <;> decide

theorem ofToken?_eq_some_iff {s : String} {t : ResourceType} :
    ofToken? s = some t ↔ s = t.token := by
  constructor
  · intro h
    have := List.find?_some h
    exact (by simpa using this : t.token = s).symm
  · rintro rfl
    exact ofToken?_token t

end ResourceType

/-- A token that names no kind of resource. -/
structure InvalidResourceType where
  token : String
deriving DecidableEq, Repr

def InvalidResourceType.message (e : InvalidResourceType) : String :=
  "invalid resource type: " ++ e.token

/-- Read a token, or say which one names no kind. -/
def ResourceType.parse (token : String) : Except InvalidResourceType ResourceType :=
  match ofToken? token with
  | some t => .ok t
  | none => .error ⟨token⟩

end ResourceCatalog
