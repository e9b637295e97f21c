/-
  ResourceCatalog/Service/Config.lean
  ===================================
  **Where the services are, read from the environment.**

  Three variables name the root of the catalog, the root of the chat service and
  how long a request may take.  Values are trimmed; roots lose the slashes at
  their end.  A timeout that is no unsigned 64-bit number falls back to its
  default, a root does so only when its variable is not set.
-/
import ResourceCatalog.Text.Digit
import ResourceCatalog.Text.Space

namespace ResourceCatalog

/-- Where the services are and how long a request may take. -/
structure Config where
  apiUrl : String
  timeoutMs : Nat
  chatApiUrl : String
deriving DecidableEq, Repr

namespace Config

def apiUrlVariable : String := "CATALOG_API_URL"

def timeoutVariable : String := "CATALOG_REQUEST_TIMEOUT_MS"

def chatApiUrlVariable : String := "CHAT_API_URL"

def defaultApiUrl : String := "http://localhost:8080/api/v1"

def defaultTimeoutMs : Nat := 10000

def defaultChatApiUrl : String := "http://localhost:5000"

/-- A text without the slashes at its end. -/
def withoutSlashes (s : String) : String :=
  String.ofList (Text.dropEndWhile (· = '/') s.toList)

/-- The root that a variable names. -/
def rootOf (value : Option String) (fallback : String) : String :=
  match value with
  | some raw => withoutSlashes (Text.trim raw)
  | none => fallback

/-- An unsigned 64-bit number, with or without a plus sign. -/
def unsigned? (s : String) : Option Nat :=
  let digits := match s.toList with
    | '+' :: rest => rest
    | cs => cs
  if digits.isEmpty then none
  else
    match Text.valueIn? 10 digits with
    | some n => if n ≤ 0xFFFFFFFFFFFFFFFF then some n else none
    | none => none

/-- The timeout that a variable names. -/
def timeoutOf (value : Option String) : Nat :=
  match value with
  | some raw => (unsigned? (Text.trim raw)).getD defaultTimeoutMs
  | none => defaultTimeoutMs

/-- The configuration in an environment. -/
def ofEnvironment (lookup : String → Option String) : Config :=
  { apiUrl := rootOf (lookup apiUrlVariable) defaultApiUrl
    timeoutMs := timeoutOf (lookup timeoutVariable)
    chatApiUrl := rootOf (lookup chatApiUrlVariable) defaultChatApiUrl }

/-- The configuration when no variable is set. -/
def default : Config := ofEnvironment (fun _ => none)

end Config

end ResourceCatalog
