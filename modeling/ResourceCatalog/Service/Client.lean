/-
  ResourceCatalog/Service/Client.lean
  ===================================
  **Calls to the catalog and to the chat service.**

  A call has two halves.  It says what request goes out, or that none does, and
  it says what the reply comes to: a value of the type that the call asks for,
  or the cause of its failure.  A reply with an error status fails with its
  text, whatever the text is; any other reply has to decode.
-/
import ResourceCatalog.Http.Exchange
import ResourceCatalog.Service.Config
import ResourceCatalog.Wire.Chat
import ResourceCatalog.Wire.Filter

namespace ResourceCatalog.Service

open Http

/-- Why a call failed: the chat was given nothing to ask, the address has no
    scheme of the web or no host, the connection was closed without an answer, the
    service refused with an error status, or the answer is not of the type asked
    for. -/
inductive Failure where
  | noMessage
  | noAddress
  | unanswered (address : Url.Address)
  | refused (status : Nat) (text : String)
  | unreadable (source : String) (cause : Json.Fault)
deriving DecidableEq, Repr

def Failure.message : Failure → String
  | noMessage => "No message provided"
  | noAddress => "builder error"
  | unanswered address => "error sending request for url (" ++ address.text ++ ")"
  | refused status text => "Error: " ++ statusText status ++ ": " ++ text
  | unreadable source _ => "decoding response from " ++ source

/-- A call for a value: the request that it sends, and how its answer is read.
    Its source is the address as it was put together, before pairs are added to
    it. -/
structure Call (α : Type) where
  source : String
  request : Except Failure Request
  decode : Json.Decoder α

namespace Call

variable {α : Type}

/-- What a reply to the request comes to. -/
def conclude (c : Call α) (request : Request) : Reply → Except Failure α
  | .closed => .error (.unanswered request.address)
  | .answered status contentType body =>
    let text := bodyText contentType body
    if isErrorStatus status then .error (.refused status text)
    else (Json.decodeText c.decode text).mapError (.unreadable c.source)

/-- The requests that a call sends. -/
def sent (c : Call α) : List Request :=
  match c.request with
  | .ok r => [r]
  | .error _ => []

/-- What the call comes to, should its request get this reply. -/
def outcome (c : Call α) (reply : Reply) : Except Failure α :=
  match c.request with
  | .ok r => c.conclude r reply
  | .error e => .error e

end Call

/-! ### Requests in general -/

/-- A path below the root of a service. -/
def addressOf (root path : String) : String :=
  root ++ "/" ++ String.ofList (path.toList.dropWhile (· = '/'))

/-- Ask for a value with some query pairs. -/
def getJson {α : Type} (root path : String) (pairs : List (String × String))
    (decode : Json.Decoder α) : Call α :=
  let source := addressOf root path
  { source, decode
    request := match Url.Address.ofString? source with
      | some a =>
        .ok { method := .get, address := a.withPairs pairs, contentType := none, body := "" }
      | none => .error .noAddress }

/-- Send a value and ask for one. -/
def postJson {α : Type} (root path : String) (body : Json.Tree) (decode : Json.Decoder α) :
    Call α :=
  let source := addressOf root path
  { source, decode
    request := match Url.Address.ofString? source with
      | some a => .ok { method := .post, address := a, contentType := some "application/json",
                        body := body.compact }
      | none => .error .noAddress }

/-! ### The calls of the catalog -/

def resourcesPath : String := "resources/public"

def tagsPath : String := "resources/public/tags/all"

def chatPath : String := "api/chat"

/-- Ask the catalog for a listing. -/
def fetchResources (config : Config) (request : ListRequest) : Call Page :=
  getJson config.apiUrl resourcesPath request.queryPairs Wire.decodePage

/-- Ask the catalog for all tags. -/
def fetchTags (config : Config) : Call (List Tag) :=
  getJson config.apiUrl tagsPath [] Wire.decodeTags

/-- Ask the chat service; a blank message is not sent. -/
def askChat (config : Config) (message : String) : Call Chat.Answer :=
  let call := postJson config.chatApiUrl chatPath (Wire.questionTree ⟨message⟩) Wire.decodeAnswer
  if Text.isBlank message then { call with request := .error .noMessage } else call

end ResourceCatalog.Service
