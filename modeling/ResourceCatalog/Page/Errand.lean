/-
  ResourceCatalog/Page/Errand.lean
  ================================
  **What a page has done for it.**

  A page never talks to a service or to the address bar itself.  It makes
  demands, one after the other, and hears of the outcome of an errand later.  An
  errand for which no request goes out has its outcome at once.
-/
import ResourceCatalog.Service.Client
import ResourceCatalog.Sync.Synchronizer

namespace ResourceCatalog

/-- A call to a service: for a listing, to be reported under a ticket, for the
    tags, or for an answer to a message. -/
inductive Errand where
  | listing (ticket : Sync.Ticket) (request : ListRequest)
  | tags
  | chat (message : String)
deriving DecidableEq, Repr

/-- What an errand comes to; a failure is given by its message. -/
inductive Outcome where
  | listing (ticket : Sync.Ticket) (result : Except String (List Resource))
  | tags (result : Except String (List Tag))
  | chat (result : Except String Chat.Answer)
deriving Repr

/-- What a page asks for: that another query is put into the address bar, or that
    an errand is run. -/
inductive Demand where
  | replaceQuery (query : String)
  | run (errand : Errand)
deriving DecidableEq, Repr

namespace Errand

/-- The request that goes out, or the reason why none does. -/
def request (config : Config) : Errand → Except Service.Failure Http.Request
  | listing _ request => (Service.fetchResources config request).request
  | tags => (Service.fetchTags config).request
  | chat message => (Service.askChat config message).request

/-- What the errand comes to, should its request get this reply. -/
def outcome (config : Config) (reply : Http.Reply) : Errand → Outcome
  | listing ticket request =>
    .listing ticket ((((Service.fetchResources config request).outcome reply).map
      Page.content).mapError Service.Failure.message)
  | tags => .tags (((Service.fetchTags config).outcome reply).mapError Service.Failure.message)
  | chat message =>
    .chat (((Service.askChat config message).outcome reply).mapError Service.Failure.message)

end Errand

end ResourceCatalog
