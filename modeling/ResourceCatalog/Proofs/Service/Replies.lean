/-
  ResourceCatalog/Proofs/Service/Replies.lean
  ===========================================
  **Which replies are taken for data.**

  A reply with an error status is refused with its text, and the text of any other reply
  is decoded (`outcome_of_sent`).  The catalog asks for more: only the statuses from 200
  to 299 should bring data, and all others should be refused.

  For every call that is sent, of either method and for any type of data, the two agree
  on success and on error statuses and nowhere else (`onlySuccessIsData_iff`).  A redirect
  that is not followed, an interim reply and a status beyond 599 are read like a success;
  with a decodable text they are data (`not_onlySuccessIsData_multipleChoices`).
-/
import ResourceCatalog.Service.Client

namespace ResourceCatalog.Service

open Http

variable {α : Type}

/-- A status that reports success. -/
def isSuccessStatus (status : Nat) : Bool := 200 ≤ status && status ≤ 299

theorem not_isSuccessStatus_of_isErrorStatus {status : Nat} (h : isErrorStatus status = true) :
    isSuccessStatus status = false := by
  simp only [isErrorStatus, isSuccessStatus, Bool.and_eq_true, decide_eq_true_eq,
    Bool.and_eq_false_iff, decide_eq_false_iff_not] at h ⊢
  omega

/-- What an answer should come to: data if its status reports success and its text decodes, and
    an error that carries the status and the text, or says that the text does not decode, if
    not. -/
structure OnlySuccessIsData (c : Call α) (status : Nat) (contentType : Option String)
    (body : List UInt8) : Prop where
  refused : isSuccessStatus status = false →
    c.outcome (.answered status contentType body) =
      .error (.refused status (bodyText contentType body))
  data : isSuccessStatus status = true → ∀ v,
    c.outcome (.answered status contentType body) = .ok v ↔
      Json.decodeText c.decode (bodyText contentType body) = .ok v
  unreadable : isSuccessStatus status = true → ∀ cause,
    Json.decodeText c.decode (bodyText contentType body) = .error cause →
      c.outcome (.answered status contentType body) = .error (.unreadable c.source cause)

/-- A fault that is told in other words is a fault still. -/
theorem mapError_eq_ok_iff {β γ : Type} {f : β → γ} {read : Except β α} {v : α} :
    read.mapError f = .ok v ↔ read = .ok v := by
  cases read with
  | error e =>
    constructor <;>
      · intro same
        cases same
  | ok a =>
    constructor <;>
      · intro same
        cases same
        rfl

section Sent

variable {c : Call α} (sent : c.sent ≠ []) {status : Nat} (contentType : Option String)
  (body : List UInt8)

include sent

/-- What an answer comes to. -/
theorem Call.outcome_of_sent (status : Nat) :
    c.outcome (.answered status contentType body) =
      if isErrorStatus status then .error (.refused status (bodyText contentType body))
      else (Json.decodeText c.decode (bodyText contentType body)).mapError (.unreadable c.source) := by
  cases request : c.request with
  | error e => exact absurd (by rw [Call.sent, request]) sent
  | ok r =>
    rw [outcome, request]
    rfl

theorem Call.outcome_of_isErrorStatus (error : isErrorStatus status = true) :
    c.outcome (.answered status contentType body) =
      .error (.refused status (bodyText contentType body)) := by
  rw [outcome_of_sent sent, if_pos error]

/-- Whatever is no error is decoded. -/
theorem Call.outcome_of_not_isErrorStatus (noError : isErrorStatus status = false) :
    c.outcome (.answered status contentType body) =
      (Json.decodeText c.decode (bodyText contentType body)).mapError (.unreadable c.source) := by
  rw [outcome_of_sent sent, if_neg (by simp [noError])]

theorem Call.outcome_ne_refused (noError : isErrorStatus status = false) :
    c.outcome (.answered status contentType body) ≠
      .error (.refused status (bodyText contentType body)) := by
  rw [outcome_of_not_isErrorStatus sent contentType body noError]
  intro refused
  cases read : Json.decodeText c.decode (bodyText contentType body) with
  | error cause =>
    rw [read] at refused
    cases refused
  | ok v =>
    rw [read] at refused
    cases refused

/-- **Only success is data for success and error statuses, and for no others.** -/
theorem onlySuccessIsData_iff :
    OnlySuccessIsData c status contentType body ↔
      isSuccessStatus status = true ∨ isErrorStatus status = true := by
  cases error : isErrorStatus status with
  | true =>
    have noSuccess := not_isSuccessStatus_of_isErrorStatus error
    refine ⟨fun _ => .inr rfl, fun _ => ⟨fun _ => ?_, ?_, ?_⟩⟩
    · exact Call.outcome_of_isErrorStatus sent contentType body error
    · intro success
      rw [noSuccess] at success
      cases success
    · intro success
      rw [noSuccess] at success
      cases success
  | false =>
    have outcome := Call.outcome_of_not_isErrorStatus sent contentType body error
    constructor
    · intro only
      cases success : isSuccessStatus status with
      | true => exact .inl rfl
      | false =>
        exact absurd (only.refused success) (Call.outcome_ne_refused sent contentType body error)
    · rintro (success | error)
      · refine ⟨fun noSuccess => ?_, fun _ v => ?_, fun _ cause read => ?_⟩
        · rw [success] at noSuccess
          cases noSuccess
        · rw [outcome, mapError_eq_ok_iff]
        · rw [outcome, read]
          rfl
      · cases error

end Sent

/-- The configuration of a catalog on the same machine. -/
def loopback : Config := { Config.default with apiUrl := "http://[::1]/api/v1" }

theorem onlySuccessIsData_iff_noContent :
    (fetchTags loopback).sent ≠ [] ∧
      (OnlySuccessIsData (fetchTags loopback) 204 none [] ↔
        isSuccessStatus 204 = true ∨ isErrorStatus 204 = true) :=
  ⟨by decide +kernel, onlySuccessIsData_iff (by decide +kernel) none []⟩

/-- A choice of several addresses, with an empty list beside it, is taken for a catalog without
    tags. -/
theorem not_onlySuccessIsData_multipleChoices :
    ¬ OnlySuccessIsData (fetchTags loopback) 300 none [0x5B, 0x5D] := by
  intro only
  have data : ((fetchTags loopback).outcome (.answered 300 none [0x5B, 0x5D])).toOption =
      some [] := by
    decide +kernel
  rw [only.refused rfl] at data
  cases data

end ResourceCatalog.Service
