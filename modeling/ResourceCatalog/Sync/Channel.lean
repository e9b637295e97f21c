/-
  ResourceCatalog/Sync/Channel.lean
  =================================
  **Calls kept in a queue for a page.**

  A page does not act inside the synchronizer's calls.  Its host puts every call
  into a channel, and the page takes them out one at a time, in order.  When the
  page is gone the channel is closed, and what is sent after that is lost.
-/
import ResourceCatalog.Sync.Run

namespace ResourceCatalog.Sync

/-- Calls that wait for a page.  It is open as long as the page is there. -/
structure Channel where
  queue : List Call := []
  isOpen : Bool := true
deriving DecidableEq, Repr

namespace Channel

def send (call : Call) (c : Channel) : Channel :=
  if c.isOpen then { c with queue := c.queue ++ [call] } else c

def sendAll (calls : List Call) (c : Channel) : Channel := calls.foldl (fun c call => c.send call) c

/-- The next call, and the channel without it. -/
def receive? (c : Channel) : Option (Call × Channel) :=
  match c.queue with
  | [] => none
  | call :: rest => some (call, { c with queue := rest })

/-- The page goes, and what it had not taken out is lost. -/
def close (_ : Channel) : Channel := { queue := [], isOpen := false }

end Channel

/-- A host that puts every call into a channel and never calls back. -/
def Host.channel : Host Channel := { react := fun call c => (c.send call, []) }

end ResourceCatalog.Sync
