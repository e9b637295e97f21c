/-
  ResourceCatalog/Page/Route.lean
  ===============================
  **Which page a path leads to.**

  A route is found from the segments of a path, with their percent signs
  resolved where that gives text.  A slash at the end of the path, and one empty
  segment at its end beyond that, are passed over.  A path that leads nowhere is
  refused with a reason for each page.
-/
import ResourceCatalog.Text.Form

namespace ResourceCatalog

/-- A page of the application. -/
inductive Route where
  | listing
  | chat
deriving DecidableEq, Repr

namespace Route

def all : List Route := [listing, chat]

def path : Route → String
  | listing => "/"
  | chat => "/chatbot"

/-- The name by which a page goes in the reasons for a refusal. -/
def name : Route → String
  | listing => "ResourcesPage"
  | chat => "ChatbotPage"

/-- The title of the page. -/
def title : Route → String
  | listing => "Research Catalog - Resources"
  | chat => "Research Catalog - Chatbot"

/-- The segments that lead to the page. -/
def segments : Route → List String
  | listing => []
  | chat => ["chatbot"]

/-- Why a path does not lead to a page: there is more in it than the page's own
    segments, or one of these is not there. -/
inductive Mismatch where
  | trailing (rest : List String)
  | segment (expected found : String)
deriving DecidableEq, Repr

def Mismatch.message : Mismatch → String
  | trailing rest => "Found additional trailing segments: " ++ "/".intercalate rest
  | segment expected found =>
    "Static segment '" ++ expected ++ "' did not match instead found '" ++ found ++ "'"

/-- Compare the segments of a path with those of a page. -/
def mismatch? : (expected found : List String) → Option Mismatch
  | [], [] => none
  | [], rest => some (.trailing rest)
  | e :: _, [] => some (.segment e "")
  | e :: es, f :: fs => if e = f then mismatch? es fs else some (.segment e f)

/-- A segment with its percent signs resolved, if that gives text. -/
def readSegment (cs : List Char) : String :=
  let s := String.ofList cs
  (Text.Utf8.decode? (Text.Form.percentDecode (Text.Utf8.encode s))).getD s

/-- A path without a slash at its end. -/
def withoutSlash (cs : List Char) : List Char :=
  if cs.getLast? = some '/' then cs.dropLast else cs

/-- The segments of a path that starts with a slash. -/
def segmentsOf? (path : String) : Option (List String) :=
  match path.toList with
  | '/' :: rest =>
    match withoutSlash ('/' :: rest) with
    | [] => some []
    | _ :: rest => some ((Text.pieces '/' rest).map readSegment)
  | _ => none

/-- Why a path leads nowhere: a reason for each page that was tried. -/
structure Unknown where
  reasons : List (Route × Mismatch)
deriving DecidableEq, Repr

def Unknown.reasonLine (number : Nat) (r : Route × Mismatch) : String :=
  toString number ++ ") Route '" ++ r.1.name ++ "' ('" ++ r.1.path ++ "') did not match:\n"
    ++ r.2.message ++ "\n"

def Unknown.message (u : Unknown) : String :=
  "Failed to parse route Route did not match:\nAttempted Matches:\n"
    ++ "".intercalate (u.reasons.mapIdx (fun i r => reasonLine (i + 1) r))

/-- The first page that segments lead to. -/
def find (found : List String) : List Route → Except (List (Route × Mismatch)) Route
  | [] => .error []
  | r :: rs =>
    match mismatch? r.segments found with
    | none => .ok r
    | some m => (find found rs).mapError ((r, m) :: ·)

/-- The page that a path leads to. -/
def ofPath (path : String) : Except Unknown Route :=
  match segmentsOf? path with
  | some found => (find found all).mapError Unknown.mk
  | none => .error ⟨[]⟩

/-- The own path of a page leads to it. -/
theorem ofPath_path (r : Route) : (ofPath r.path).toOption = some r := by
  cases r <;> decide +kernel

end Route

end ResourceCatalog
