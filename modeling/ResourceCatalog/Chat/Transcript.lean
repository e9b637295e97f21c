/-
  ResourceCatalog/Chat/Transcript.lean
  ====================================
  **A conversation with the chat service.**

  Messages are numbered from zero by a counter of the transcript.  Every outcome
  of a call to the service becomes one message of the bot: the response, a
  fallback when there is no usable one, or a note that the service could not be
  reached.
-/
namespace ResourceCatalog.Chat

/-- What the service is asked. -/
structure Question where
  message : String
deriving DecidableEq, Repr

/-- What the service answers. -/
structure Answer where
  response : Option String := none
  success : Bool := false
  error : Option String := none
deriving DecidableEq, Repr

/-- Said when the service answered without a usable response. -/
def fallbackReply : String := "Sorry, something went wrong."

/-- Said when the service could not be reached. -/
def serverErrorReply : String := "Server error. Please try again later."

/-- What the bot says for an answer: a response counts only if the call
    succeeded and it has characters. -/
def Answer.replyText (a : Answer) : String :=
  match a.response with
  | some response => if a.success && !response.isEmpty then response else fallbackReply
  | none => fallbackReply

/-- What the bot says for the outcome of a call, whatever a failure was. -/
def replyTo {ε : Type} : Except ε Answer → String
  | .ok a => a.replyText
  | .error _ => serverErrorReply

/-- Who said something. -/
inductive Sender where
  | user
  | bot
deriving DecidableEq, Repr

structure Message where
  id : Nat
  sender : Sender
  text : String
deriving DecidableEq, Repr

/-- The messages so far, oldest first, and the number of the next one. -/
structure Transcript where
  messages : List Message := []
  nextId : Nat := 0
deriving DecidableEq, Repr

namespace Transcript

def isEmpty (t : Transcript) : Bool := t.messages.isEmpty

def push (t : Transcript) (sender : Sender) (text : String) : Transcript :=
  { messages := t.messages ++ [⟨t.nextId, sender, text⟩], nextId := t.nextId + 1 }

/-- Add what the bot says for the outcome of a call. -/
def pushReply {ε : Type} (t : Transcript) (outcome : Except ε Answer) : Transcript :=
  t.push .bot (replyTo outcome)

def last? (t : Transcript) : Option Message := t.messages.getLast?

end Transcript

end ResourceCatalog.Chat
