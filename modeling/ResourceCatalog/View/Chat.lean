/-
  ResourceCatalog/View/Chat.lean
  ==============================
  **The page for a conversation, as it is shown.**

  What the user said is shown as typed, what the bot said is formatted.
-/
import ResourceCatalog.Page.Chat
import ResourceCatalog.View.Frame
import ResourceCatalog.View.Message

namespace ResourceCatalog.View

/-- A message in a bubble on the side of its sender. -/
def bubble (m : Chat.Message) : Node :=
  let (side, background) := match m.sender with
    | .user => ("flex-end", "#EEF2FF")
    | .bot => ("flex-start", "white")
  styled "div"
    ("align-self: " ++ side ++ "; max-width: 70%; padding: 10px 14px; border-radius: 14px; "
      ++ "background: " ++ background ++ "; border: 1px solid #E5E7EB;")
    [match m.sender with
     | .user => styled "div" "white-space: pre-wrap;" [.text m.text]
     | .bot => message m.text]

def transcript (p : ChatPage) : Node :=
  element "div"
    { style := "display:flex; flex-direction: column; gap: 12px; flex-grow: 1; overflow-y: auto;"
      others := [("id", .text "x-chatbot-transcript")] }
    (nodeIf p.transcript.isEmpty
        (styled "div" "color: #6B7280; font-size: 18px;"
          [.text "What can I do for your research?"])
      ++ p.transcript.messages.map bubble
      ++ nodeIf p.waiting
        (styled "div" "align-self: flex-start; padding: 6px 14px;" [spinner]))

/-- The draft and the button that sends it. -/
def composer (p : ChatPage) : Node :=
  styled "div"
    ("display:flex; flex-direction: row; align-items: flex-end; gap: 10px; "
      ++ "background-color: white; border: 1px solid #D1D5DB; border-radius: 14px; "
      ++ "padding: 10px 14px;")
    [element "textarea"
       { style := "flex: 1; border: none; outline: none; resize: none; "
           ++ "background: transparent; font-size: 15px;"
         others := [("placeholder", .text "Ask away :)"), ("rows", .text "3"),
                    ("value", .text p.draft)]
         control := some .draft } [],
     element "button"
       { style := "cursor: pointer; border: none; background: transparent;"
         others := [("disabled", .flag (!p.canSend))]
         control := some .send }
       [.icon "MdSend" "width: 26px; height: 26px; color: #1D1B20;"]]

def chatPage (p : ChatPage) : Node :=
  element "div"
    { style := "display:flex; flex-direction: column; gap: 16px; width: 100%; height: 100%; "
        ++ "padding: 36px 40px; background: #F5F6F8;"
      others := [("id", .text "x-chatbot-container")] }
    [transcript p, composer p]

end ResourceCatalog.View
