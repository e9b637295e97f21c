/-
  ResourceCatalog/Proofs/Page/Conversation.lean
  =============================================
  **The user and the bot take turns.**

  Drafts are edited, messages are sent and calls to the chat service come to their end
  in any order.  Whatever the order is, the page waits exactly while it is the bot's
  turn, one call is in flight then, and the call asks what the user said last
  (`InTurn`).  Every happening either adds one message or leaves the transcript as it
  is (`Follows`), so what has been said stays, and the counter of the transcript is at
  the number of its messages: that is why a message has its place for its number.
-/
import ResourceCatalog.Session.Session

namespace ResourceCatalog

open Chat (Answer Message Sender Transcript)

/-- Something that happens to the page of a conversation: the user does something at a control,
    or the oldest call in flight comes to an outcome. -/
inductive Happening where
  | user (control : View.Control) (event : View.Event)
  | outcome (result : Except String Answer)

/-- A message is to be sent: with the button, or with the enter key. -/
def Happening.isAttempt : Happening → Bool
  | .user .send (.click _ _) => true
  | .user .draft (.keydown key shift _) => key = "Enter" ∧ shift = false
  | _ => false

/-- What is on display, and the calls in flight: the page asked for them, and they have not
    come to an end. -/
@[ext]
structure Conversation where
  screen : Screen := .chat {}
  calls : List Demand := []

namespace Conversation

/-- A conversation goes on.  There is no outcome when no call is in flight. -/
def meet (c : Conversation) : Happening → Conversation
  | .user control event =>
    let (screen, demands, _) := c.screen.operate control event
    { screen, calls := c.calls ++ demands }
  | .outcome result =>
    match c.calls with
    | [] => c
    | _ :: rest => { screen := c.screen.deliver (.chat result), calls := rest }

/-- The conversation in which these things happened, from a new page on. -/
def after (hs : List Happening) : Conversation := hs.foldl meet {}

theorem after_append (hs more : List Happening) : after (hs ++ more) = more.foldl meet (after hs) :=
  List.foldl_append

/-! ### What is promised -/

/-- The user speaks first, then the bot, and so on, and messages are numbered by their place.
    What the user says is trimmed and not blank, what the bot says is not empty. -/
structure Alternates (messages : List Message) : Prop where
  place : ∀ i m, messages[i]? = some m → m.id = i ∧ m.sender = if i % 2 = 0 then .user else .bot
  asked : ∀ m ∈ messages, m.sender = .user → Text.trim m.text = m.text ∧ Text.isBlank m.text = false
  said : ∀ m ∈ messages, m.sender = .bot → m.text ≠ ""

/-- The page waits while it is the bot's turn, which is while one call is in flight, and then the
    call asks what the user said last.  The service never has to refuse it as blank.  The next
    message is numbered by how many there are. -/
structure InTurn (p : ChatPage) (calls : List Demand) : Prop where
  alternates : Alternates p.transcript.messages
  numbered : p.transcript.nextId = p.transcript.messages.length
  waiting_iff_user : p.waiting = true ↔ ∃ m, p.transcript.last? = some m ∧ m.sender = .user
  waiting_iff_call : p.waiting = true ↔ calls.length = 1
  at_most_one : calls.length ≤ 1
  asks : ∀ demand ∈ calls, ∃ m, p.transcript.last? = some m ∧ m.sender = .user ∧
    demand = .run (.chat m.text)
  known : calls = p.inFlight.map (fun message => .run (.chat message))
  accepted : ∀ message, .run (.chat message) ∈ calls → ∀ config reply,
    (Service.askChat config message).outcome reply ≠ .error .noMessage

/-- The text of the bot for an outcome: the response if there is a usable one, or one of two
    apologies. -/
structure IsReply (result : Except String Answer) (text : String) : Prop where
  response : ∀ a r, result = .ok a → a.success = true → a.response = some r → r ≠ "" → text = r
  fallback : ∀ a, result = .ok a → a.success = false ∨ a.response = none ∨ a.response = some "" →
    text = "Sorry, something went wrong."
  unreachable : ∀ e, result = .error e → text = "Server error. Please try again later."

/-- What becomes of a page and of its calls in flight when something happens.  No two of the
    cases fit one happening.  An attempt to send that is `refused`, out of turn or with nothing to
    say, changes nothing; one that is `sent` adds what the user said.  Each outcome of a call that
    is in flight is `answered`: the bot says something once.  What is `idle` is done at a control
    that is not on the page. -/
inductive Follows (p : ChatPage) (calls : List Demand) :
    Happening → ChatPage → List Demand → Prop where
  | edited (text : String) :
    Follows p calls (.user .draft (.input text)) { p with draft := text } calls
  | refused {x : Happening} (attempt : x.isAttempt = true)
      (cause : p.waiting = true ∨ Text.isBlank p.draft = true) : Follows p calls x p calls
  | sent {x : Happening} (attempt : x.isAttempt = true) (turn : p.waiting = false)
      (visible : Text.isBlank p.draft = false) :
    Follows p calls x
      { draft := "", waiting := true, inFlight := p.inFlight ++ [Text.trim p.draft]
        transcript :=
          { messages := p.transcript.messages ++
              [⟨p.transcript.nextId, .user, Text.trim p.draft⟩]
            nextId := p.transcript.nextId + 1 } }
      (calls ++ [.run (.chat (Text.trim p.draft))])
  | answered (result : Except String Answer) {text : String} (reply : IsReply result text)
      (full : text ≠ "") {first : Demand} {rest : List Demand} (call : calls = first :: rest) :
    Follows p calls (.outcome result)
      { p with
          waiting := false, inFlight := p.inFlight.tail
          transcript :=
            { messages := p.transcript.messages ++ [⟨p.transcript.nextId, .bot, text⟩]
              nextId := p.transcript.nextId + 1 } } rest
  | unasked (result : Except String Answer) (none : calls = []) :
    Follows p calls (.outcome result) p calls
  | idle {control : View.Control} {event : View.Event}
      (noAttempt : (Happening.user control event).isAttempt = false)
      (noEdit : ∀ text, (control, event) ≠ (.draft, .input text)) :
    Follows p calls (.user control event) p calls

/-! ### Messages -/

theorem alternates_nil : Alternates [] where
  place := fun _ _ h => nomatch h
  asked := fun _ h => nomatch h
  said := fun _ h => nomatch h

/-- The next to speak adds a message, with the number that is next. -/
theorem Alternates.concat {messages : List Message} (h : Alternates messages) {id : Nat}
    (next : id = messages.length) {sender : Sender} {text : String}
    (turn : sender = if messages.length % 2 = 0 then .user else .bot)
    (asked : sender = .user → Text.trim text = text ∧ Text.isBlank text = false)
    (said : sender = .bot → text ≠ "") :
    Alternates (messages ++ [⟨id, sender, text⟩]) where
  place := by
    intro i m hm
    rcases Nat.lt_or_ge i messages.length with earlier | last
    · rw [List.getElem?_append_left earlier] at hm
      exact h.place i m hm
    · rw [List.getElem?_append_right last, List.getElem?_singleton] at hm
      split at hm
      · rename_i here
        cases hm
        have same : i = messages.length := by omega
        exact ⟨next.trans same.symm, by rw [same]; exact turn⟩
      · cases hm
  asked := by
    intro m hm user
    rcases List.mem_append.mp hm with hm | hm
    · exact h.asked m hm user
    · rw [List.mem_singleton.mp hm] at user ⊢
      exact asked user
  said := by
    intro m hm bot
    rcases List.mem_append.mp hm with hm | hm
    · exact h.said m hm bot
    · rw [List.mem_singleton.mp hm] at bot ⊢
      exact said bot

/-- A counter that is at the number of messages is so again after one more. -/
theorem next_concat {messages : List Message} {next : Nat} (h : next = messages.length)
    (m : Message) : next + 1 = (messages ++ [m]).length := by
  rw [List.length_append, List.length_singleton, h]

/-- Whose turn it is can be told from the last message. -/
theorem Alternates.user_last_iff {t : Transcript} (h : Alternates t.messages) :
    (∃ m, t.last? = some m ∧ m.sender = .user) ↔ t.messages.length % 2 = 1 := by
  rw [Transcript.last?, List.getLast?_eq_getElem?]
  constructor
  · rintro ⟨m, last, user⟩
    obtain ⟨-, sender⟩ := h.place _ m last
    obtain ⟨here, -⟩ := List.getElem?_eq_some_iff.mp last
    rw [user] at sender
    split at sender
    · omega
    · cases sender
  · intro odd
    have here : t.messages.length - 1 < t.messages.length := by omega
    refine ⟨_, List.getElem?_eq_getElem here, ?_⟩
    rw [(h.place _ _ (List.getElem?_eq_getElem here)).2, if_pos (by omega)]

/-! ### Replies and refusals -/

theorem isReply_replyTo (result : Except String Answer) : IsReply result (Chat.replyTo result) where
  response := by
    rintro ⟨response, success, error⟩ r rfl usable given full
    simp only at usable given
    subst usable given
    simp [Chat.replyTo, Answer.replyText, full]
  fallback := by
    rintro ⟨response, success, error⟩ rfl (failed | none | empty)
    · simp only at failed
      subst failed
      cases response <;> rfl
    · simp only at none
      subst none
      rfl
    · simp only at empty
      subst empty
      cases success <;> rfl
  unreachable := by
    rintro e rfl
    rfl

theorem replyTo_ne_empty (result : Except String Answer) : Chat.replyTo result ≠ "" := by
  cases result with
  | error e => exact (by decide : Chat.serverErrorReply ≠ "")
  | ok a =>
    rw [Chat.replyTo, Answer.replyText]
    split
    · split
      · rename_i usable
        intro empty
        simp [empty] at usable
      · decide
    · decide

/-- Only a blank message is refused for being one. -/
theorem outcome_askChat_ne_noMessage {message : String} (visible : Text.isBlank message = false)
    (config : Config) (reply : Http.Reply) :
    (Service.askChat config message).outcome reply ≠ .error .noMessage := by
  rw [Service.askChat, if_neg (by simp [visible]), Service.Call.outcome]
  split
  · cases reply with
    | closed => exact fun same => nomatch same
    | answered status contentType body =>
      rw [Service.Call.conclude]
      split
      · exact fun same => nomatch same
      · cases Json.decodeText _ _ <;> exact fun same => nomatch same
  · rename_i e request
    rw [Service.postJson] at request
    simp only at request
    split at request <;> cases request
    exact fun same => nomatch same

/-! ### One step -/

variable {c : Conversation} {p p' : ChatPage} {calls calls' : List Demand} {x : Happening}

theorem send_of_refused (cause : p.waiting = true ∨ Text.isBlank p.draft = true) :
    p.send = (p, none) := by
  have closed : p.canSend = false := by
    rcases cause with waits | blank
    · rw [ChatPage.canSend, waits, Bool.not_true, Bool.and_false]
    · rw [ChatPage.canSend, blank, Bool.not_true, Bool.false_and]
  rw [ChatPage.send, closed]
  rfl

theorem send_of_turn (turn : p.waiting = false) (visible : Text.isBlank p.draft = false) :
    p.send =
      ({ draft := "", transcript := p.transcript.push .user (Text.trim p.draft), waiting := true,
         inFlight := p.inFlight ++ [Text.trim p.draft] }, some (Text.trim p.draft)) := by
  have canSend : p.canSend = true := by
    rw [ChatPage.canSend, turn, visible]
    rfl
  rw [ChatPage.send, canSend]
  rfl

/-- Whichever way a message is to be sent, it is sent. -/
theorem operate_attempt {control : View.Control} {event : View.Event}
    (attempt : (Happening.user control event).isAttempt = true) :
    ∃ stopped, (Screen.chat p).operate control event =
      (.chat p.send.1, (p.send.2.map (fun m => Demand.run (.chat m))).toList, stopped) := by
  cases control with
  | send =>
    cases event with
    | click => exact ⟨false, rfl⟩
    | input => cases attempt
    | keydown => cases attempt
  | draft =>
    cases event with
    | click => cases attempt
    | input => cases attempt
    | keydown key shift ctrl =>
      simp only [Happening.isAttempt, decide_eq_true_eq] at attempt
      exact ⟨true, by rw [Screen.operate, if_pos attempt]⟩
  | _ => cases attempt

theorem operate_idle {control : View.Control} {event : View.Event}
    (noAttempt : (Happening.user control event).isAttempt = false)
    (noEdit : ∀ text, (control, event) ≠ (.draft, .input text)) :
    (Screen.chat p).operate control event = (.chat p, [], false) := by
  cases control with
  | send =>
    cases event with
    | click => cases noAttempt
    | input => rfl
    | keydown => rfl
  | draft =>
    cases event with
    | click => rfl
    | input text => exact absurd rfl (noEdit text)
    | keydown key shift ctrl =>
      simp only [Happening.isAttempt, decide_eq_false_iff_not] at noAttempt
      rw [Screen.operate, if_neg noAttempt]
  | _ => rfl

theorem follows_user (screen : c.screen = .chat p) (control : View.Control) (event : View.Event) :
    ∃ p', (c.meet (.user control event)).screen = .chat p' ∧
      Follows p c.calls (.user control event) p' (c.meet (.user control event)).calls := by
  obtain ⟨_, calls⟩ := c
  cases screen
  by_cases attempt : (Happening.user control event).isAttempt = true
  · obtain ⟨stopped, operated⟩ := operate_attempt (p := p) attempt
    by_cases refused : p.waiting = true ∨ Text.isBlank p.draft = true
    · rw [send_of_refused refused] at operated
      refine ⟨p, by rw [meet, operated], ?_⟩
      rw [meet, operated]
      simpa using Follows.refused attempt refused
    · simp only [not_or, Bool.not_eq_true] at refused
      rw [send_of_turn refused.1 refused.2] at operated
      refine ⟨_, by rw [meet, operated], ?_⟩
      rw [meet, operated]
      exact Follows.sent attempt refused.1 refused.2
  · rw [Bool.not_eq_true] at attempt
    by_cases edit : ∃ text, (control, event) = (.draft, .input text)
    · obtain ⟨text, same⟩ := edit
      cases same
      refine ⟨{ p with draft := text }, rfl, ?_⟩
      simpa [meet, Screen.operate] using Follows.edited text
    · have noEdit := not_exists.mp edit
      have operated := operate_idle (p := p) attempt noEdit
      refine ⟨p, by rw [meet, operated], ?_⟩
      rw [meet, operated]
      simpa using Follows.idle attempt noEdit

theorem follows_outcome (screen : c.screen = .chat p)
    (known : c.calls = p.inFlight.map (fun message => .run (.chat message)))
    (result : Except String Answer) :
    ∃ p', (c.meet (.outcome result)).screen = .chat p' ∧
      Follows p c.calls (.outcome result) p' (c.meet (.outcome result)).calls := by
  obtain ⟨_, calls⟩ := c
  cases screen
  cases calls with
  | nil => exact ⟨p, rfl, Follows.unasked result rfl⟩
  | cons first rest =>
    cases inFlight : p.inFlight with
    | nil =>
      rw [inFlight] at known
      cases known
    | cons message messages =>
      refine ⟨p.answered result, rfl, ?_⟩
      have answered : Follows p (first :: rest) (.outcome result) _ rest :=
        .answered result (isReply_replyTo result) (replyTo_ne_empty result) rfl
      rw [ChatPage.answered, inFlight]
      rwa [inFlight] at answered

/-- Whatever happens, it is one of the cases. -/
theorem follows_meet (screen : c.screen = .chat p)
    (known : c.calls = p.inFlight.map (fun message => .run (.chat message))) (x : Happening) :
    ∃ p', (c.meet x).screen = .chat p' ∧ Follows p c.calls x p' (c.meet x).calls := by
  cases x with
  | user control event => exact follows_user screen control event
  | outcome result => exact follows_outcome screen known result

/-! ### Every step -/

theorem InTurn.waits_iff_odd (h : InTurn p calls) :
    p.waiting = true ↔ p.transcript.messages.length % 2 = 1 :=
  h.waiting_iff_user.trans h.alternates.user_last_iff

theorem InTurn.calls_eq_nil (h : InTurn p calls) (turn : p.waiting = false) : calls = [] := by
  have notOne := mt h.waiting_iff_call.mpr (by simp [turn])
  have atMostOne := h.at_most_one
  exact List.eq_nil_of_length_eq_zero (by omega)

/-- After the user has spoken, the page waits for an answer to that. -/
theorem InTurn.of_sent (h : InTurn p calls) (turn : p.waiting = false)
    (visible : Text.isBlank p.draft = false) :
    InTurn
      { draft := "", waiting := true, inFlight := p.inFlight ++ [Text.trim p.draft]
        transcript :=
          { messages := p.transcript.messages ++
              [⟨p.transcript.nextId, .user, Text.trim p.draft⟩]
            nextId := p.transcript.nextId + 1 } }
      (calls ++ [.run (.chat (Text.trim p.draft))]) := by
  have even : p.transcript.messages.length % 2 = 0 := by
    have notOdd := mt h.waits_iff_odd.mpr (by simp [turn])
    omega
  have none := h.calls_eq_nil turn
  have visibleStill : Text.isBlank (Text.trim p.draft) = false := by
    rwa [Text.isBlank_trim]
  exact
    { alternates := h.alternates.concat h.numbered (by rw [if_pos even])
        (fun _ => ⟨Text.trim_trim p.draft, visibleStill⟩) (fun bot => nomatch bot)
      numbered := next_concat h.numbered _
      waiting_iff_user := by simp [Transcript.last?]
      waiting_iff_call := by simp [none]
      at_most_one := by simp [none]
      asks := by
        intro demand hdemand
        rw [none, List.nil_append, List.mem_singleton] at hdemand
        exact ⟨_, List.getLast?_concat, rfl, hdemand⟩
      known := by rw [List.map_append, ← h.known]; rfl
      accepted := by
        intro message hmessage
        rw [none, List.nil_append, List.mem_singleton] at hmessage
        cases hmessage
        exact outcome_askChat_ne_noMessage visibleStill }

/-- After the bot has spoken, it is the user's turn again. -/
theorem InTurn.of_answered {first : Demand} {rest : List Demand} (h : InTurn p (first :: rest))
    {text : String} (full : text ≠ "") :
    InTurn
      { p with
          waiting := false, inFlight := p.inFlight.tail
          transcript :=
            { messages := p.transcript.messages ++ [⟨p.transcript.nextId, .bot, text⟩]
              nextId := p.transcript.nextId + 1 } } rest := by
  have none : rest = [] := by
    have atMostOne := h.at_most_one
    rw [List.length_cons] at atMostOne
    exact List.eq_nil_of_length_eq_zero (by omega)
  have odd : p.transcript.messages.length % 2 = 1 :=
    h.waits_iff_odd.mp (h.waiting_iff_call.mpr (by rw [none]; rfl))
  subst none
  exact
    { alternates := h.alternates.concat h.numbered (by rw [if_neg (by omega)])
        (fun user => nomatch user) (fun _ => full)
      numbered := next_concat h.numbered _
      waiting_iff_user := by simp [Transcript.last?]
      waiting_iff_call := by simp
      at_most_one := by simp
      asks := fun _ hdemand => nomatch hdemand
      known := by rw [List.map_tail, ← h.known]; rfl
      accepted := fun _ hmessage => nomatch hmessage }

/-- **The user and the bot stay in turn**, whatever happens. -/
theorem Follows.inTurn (step : Follows p calls x p' calls') (h : InTurn p calls) :
    InTurn p' calls' := by
  cases step with
  | edited text => exact { h with }
  | refused attempt cause => exact h
  | sent attempt turn visible => exact h.of_sent turn visible
  | answered result reply full call =>
    subst call
    exact h.of_answered full
  | unasked result none => exact h
  | idle noAttempt noEdit => exact h

/-- An attempt to send out of turn, or with nothing to say, has no effect. -/
theorem Follows.eq_of_refused (step : Follows p calls x p' calls') (attempt : x.isAttempt = true)
    (cause : p.waiting = true ∨ Text.isBlank p.draft = true) : p' = p ∧ calls' = calls := by
  cases step with
  | edited text => cases attempt
  | refused => exact ⟨rfl, rfl⟩
  | sent _ turn visible => simp [turn, visible] at cause
  | answered => cases attempt
  | unasked => exact ⟨rfl, rfl⟩
  | idle => exact ⟨rfl, rfl⟩

/-- What has been said stays. -/
theorem Follows.messages_prefix (step : Follows p calls x p' calls') :
    p.transcript.messages <+: p'.transcript.messages := by
  cases step with
  | sent attempt turn visible => exact List.prefix_append _ _
  | answered result reply full call => exact List.prefix_append _ _
  | edited text => exact List.prefix_rfl
  | refused attempt cause => exact List.prefix_rfl
  | unasked result none => exact List.prefix_rfl
  | idle noAttempt noEdit => exact List.prefix_rfl

/-! ### Every conversation -/

theorem inTurn_new : InTurn {} [] where
  alternates := alternates_nil
  numbered := rfl
  waiting_iff_user := by simp [Transcript.last?]
  waiting_iff_call := by simp
  at_most_one := Nat.zero_le 1
  asks := fun _ h => nomatch h
  known := rfl
  accepted := fun _ h => nomatch h

/-- A conversation in turn goes on in turn. -/
theorem inTurn_foldl (screen : c.screen = .chat p) (h : InTurn p c.calls) (more : List Happening) :
    ∃ p', (more.foldl meet c).screen = .chat p' ∧ InTurn p' (more.foldl meet c).calls ∧
      p.transcript.messages <+: p'.transcript.messages := by
  induction more generalizing c p with
  | nil => exact ⟨p, screen, h, List.prefix_rfl⟩
  | cons x more ih =>
    obtain ⟨next, screen', step⟩ := follows_meet screen h.known x
    obtain ⟨p', last, inTurn, said⟩ := ih screen' (step.inTurn h)
    exact ⟨p', last, inTurn, step.messages_prefix.trans said⟩

/-- **The user and the bot take turns**, in whatever order drafts are edited, messages are sent
    and calls come to their end.  Each happening is one of the cases of `Follows`, an attempt to
    send that is refused changes nothing at all, and what was said is never changed. -/
theorem user_and_bot_take_turns (hs : List Happening) :
    ∃ p, (after hs).screen = .chat p ∧ InTurn p (after hs).calls ∧
      (∀ x, ∃ p', (after (hs ++ [x])).screen = .chat p' ∧
        Follows p (after hs).calls x p' (after (hs ++ [x])).calls) ∧
      (∀ x, x.isAttempt = true → p.waiting = true ∨ Text.isBlank p.draft = true →
        after (hs ++ [x]) = after hs) ∧
      ∀ more, ∃ p', (after (hs ++ more)).screen = .chat p' ∧
        p.transcript.messages <+: p'.transcript.messages := by
  obtain ⟨p, screen, inTurn, -⟩ := inTurn_foldl (c := {}) rfl inTurn_new hs
  refine ⟨p, screen, inTurn, fun x => ?_, fun x attempt cause => ?_, fun more => ?_⟩
  · rw [after_append]
    exact follows_meet screen inTurn.known x
  · obtain ⟨p', screen', step⟩ := follows_meet screen inTurn.known x
    obtain ⟨rfl, calls⟩ := step.eq_of_refused attempt cause
    rw [after_append]
    exact Conversation.ext (screen'.trans screen.symm) calls
  · obtain ⟨p', screen', -, said⟩ := inTurn_foldl screen inTurn more
    exact ⟨p', by rwa [after_append], said⟩

end Conversation

end ResourceCatalog
