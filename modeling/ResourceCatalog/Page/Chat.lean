/-
  ResourceCatalog/Page/Chat.lean
  ==============================
  **The page for a conversation.**

  The user and the bot take turns.  A message is sent when the draft is not
  blank and no answer is waited for; it is trimmed, and the draft starts anew.
  Drafts may be edited while an answer is waited for.
-/
import ResourceCatalog.Chat.Transcript
import ResourceCatalog.Text.Space

namespace ResourceCatalog

/-- The state of the page.  It is `waiting` when the bot is to say something next,
    and what is `inFlight` are the messages whose answers are still to come. -/
structure ChatPage where
  draft : String := ""
  transcript : Chat.Transcript := {}
  waiting : Bool := false
  inFlight : List String := []
deriving DecidableEq, Repr

namespace ChatPage

/-- The draft can be sent. -/
def canSend (p : ChatPage) : Bool := !Text.isBlank p.draft && !p.waiting

def edit (text : String) (p : ChatPage) : ChatPage := { p with draft := text }

/-- Send the draft, if it can be sent; the message is to be put to the service. -/
def send (p : ChatPage) : ChatPage × Option String :=
  if p.canSend then
    let message := Text.trim p.draft
    ({ draft := "", transcript := p.transcript.push .user message, waiting := true,
       inFlight := p.inFlight ++ [message] }, some message)
  else (p, none)

/-- The answer to the oldest message in flight has come, or will not come. -/
def answered (result : Except String Chat.Answer) (p : ChatPage) : ChatPage :=
  match p.inFlight with
  | [] => p
  | _ :: rest =>
    { p with transcript := p.transcript.pushReply result, waiting := false, inFlight := rest }

/-- Something that happens to the page. -/
inductive Step where
  | edit (text : String)
  | send
  | answered (result : Except String Chat.Answer)
deriving Repr

/-- The page after a step. -/
def step (s : Step) (p : ChatPage) : ChatPage :=
  match s with
  | .edit text => p.edit text
  | .send => p.send.1
  | .answered result => p.answered result

end ChatPage

end ResourceCatalog
