/-
  ResourceCatalog/Wire/Chat.lean
  ==============================
  **Chat questions, answers, messages and formatted blocks in JSON.**
-/
import ResourceCatalog.Chat.Format
import ResourceCatalog.Chat.Transcript
import ResourceCatalog.Wire.Catalog

namespace ResourceCatalog.Wire

open Json Chat

/-! ### Questions and answers -/

structure QuestionDraft where
  message : Option String := none

def questionForm : RecordForm QuestionDraft Question where
  blank := {}
  fields := [.of "message" QuestionDraft.message (fun a d => { d with message := some a })
    decodeString]
  finish missing d := do
    let message ← required missing "message" d.message
    return { message }

def decodeQuestion : Decoder Question := questionForm.decode

def questionTree (q : Question) : Tree := .record [("message", .text q.message)]

structure AnswerDraft where
  response : Option (Option String) := none
  success : Option Bool := none
  error : Option (Option String) := none

def answerForm : RecordForm AnswerDraft Answer where
  blank := {}
  fields :=
    [.of "response" AnswerDraft.response (fun a d => { d with response := some a })
       (decodeOption decodeString),
     .of "success" AnswerDraft.success (fun a d => { d with success := some a }) decodeBool,
     .of "error" AnswerDraft.error (fun a d => { d with error := some a })
       (decodeOption decodeString)]
  finish _ d := .ok
    { response := d.response.getD none, success := d.success.getD false,
      error := d.error.getD none }

def decodeAnswer : Decoder Answer := answerForm.decode

def answerTree (a : Answer) : Tree :=
  .record [("response", optionTree a.response), ("success", .bool a.success),
           ("error", optionTree a.error)]

/-! ### Messages -/

def senderName : Sender → String
  | .user => "user"
  | .bot => "bot"

def decodeSender : Decoder Sender :=
  decodeCase ([.user, .bot].map (fun s => Case.plain (senderName s) s))

def senderTree (s : Sender) : Tree := .text (senderName s)

structure MessageDraft where
  id : Option Nat := none
  sender : Option Sender := none
  text : Option String := none

def messageForm : RecordForm MessageDraft Message where
  blank := {}
  fields :=
    [.of "id" MessageDraft.id (fun a d => { d with id := some a }) decodeNat,
     .of "from" MessageDraft.sender (fun a d => { d with sender := some a }) decodeSender,
     .of "text" MessageDraft.text (fun a d => { d with text := some a }) decodeString]
  finish missing d := do
    let id ← required missing "id" d.id
    let sender ← required missing "from" d.sender
    let text ← required missing "text" d.text
    return { id, sender, text }

def decodeMessage : Decoder Message := messageForm.decode

def messageTree (m : Message) : Tree :=
  .record [("id", .nat m.id), ("from", senderTree m.sender), ("text", .text m.text)]

/-! ### Formatted blocks -/

structure SpanDraft where
  text : Option String := none
  isBold : Option Bool := none

def spanForm : RecordForm SpanDraft Span where
  blank := {}
  fields :=
    [.of "text" SpanDraft.text (fun a d => { d with text := some a }) decodeString,
     .of "is_bold" SpanDraft.isBold (fun a d => { d with isBold := some a }) decodeBool]
  finish missing d := do
    let text ← required missing "text" d.text
    let isBold ← required missing "is_bold" d.isBold
    return { text, isBold }

def decodeSpan : Decoder Span := spanForm.decode

def spanTree (s : Span) : Tree := .record [("text", .text s.text), ("is_bold", .bool s.isBold)]

structure NumberedDraft where
  marker : Option String := none
  text : Option String := none

def numberedForm : RecordForm NumberedDraft Block where
  blank := {}
  fields :=
    [.of "marker" NumberedDraft.marker (fun a d => { d with marker := some a }) decodeString,
     .of "text" NumberedDraft.text (fun a d => { d with text := some a }) decodeString]
  finish missing d := do
    let marker ← required missing "marker" d.marker
    let text ← required missing "text" d.text
    return .numbered marker text

structure HeaderDraft where
  level : Option Nat := none
  text : Option String := none

def headerForm : RecordForm HeaderDraft Block where
  blank := {}
  fields :=
    [.of "level" HeaderDraft.level (fun a d => { d with level := some a }) decodeNat,
     .of "text" HeaderDraft.text (fun a d => { d with text := some a }) decodeString]
  finish missing d := do
    let level ← required missing "level" d.level
    let text ← required missing "text" d.text
    return .header level text

def blockCases : List (Case Block) :=
  [.plain "Break" .blank,
   .holding "Paragraph" .paragraph (decodeList decodeSpan),
   .holding "Bullet" .bullet decodeString,
   .holding "Numbered" id numberedForm.decode,
   .holding "Header" id headerForm.decode]

def decodeBlock : Decoder Block := decodeCase blockCases

def blockTree : Block → Tree
  | .blank => .text "Break"
  | .paragraph spans => .record [("Paragraph", .list (spans.map spanTree))]
  | .bullet text => .record [("Bullet", .text text)]
  | .numbered marker text =>
    .record [("Numbered", .record [("marker", .text marker), ("text", .text text)])]
  | .header level text =>
    .record [("Header", .record [("level", .nat level), ("text", .text text)])]

end ResourceCatalog.Wire
