import Waymark.Exchange.Outcome
import Waymark.Value.Writing
import Waymark.Wire.Reading

/-! # Replies

    A server replies to a request with a status and a document: success for an answer,
    the designated status for a rejection. Server logic has no business with failures.

    A client reads the reply back with `receive`.
-/

namespace Waymark.Exchange

open Waymark.Wire (Json)

/-- A reply to a request. -/
structure Reply where
  status : Int
  body : Json

/-- What server logic hands back. -/
inductive Product where
  | response (r : Response)
  /-- Something that is no response. -/
  | stray (v : Value)

/-- Why there is no reply. -/
inductive ReplyFault where
  /-- Server logic produced a failure. -/
  | failureProduced
  /-- Server logic produced no response. -/
  | unexpected (shown : String)
  /-- The value cannot be written. -/
  | write (fault : WriteFault)
  /-- A number of the body is not finite. -/
  | infinite

/-- The wording of a fault. -/
def ReplyFault.message : ReplyFault → String
  | .failureProduced => "Err must not be constructed by server logic"
  | .unexpected shown => Exchange.unexpected shown
  | .write fault => fault.message
  | .infinite => "Out of range float values are not JSON compliant"

/-- The body for a value of a kind. -/
def bodyOf (k : Kind) (v : Value) : Except ReplyFault Json :=
  match k.toJson v with
  | .ok j => .ok j.merged
  | .error fault => .error (.write fault)

/-- The status of an answer. -/
def successStatus : Int := 200

/-- The reply to a request. -/
def Product.reply (p : Product) (result error : Kind := .any)
    (errorStatus : Int := Standing.defaultErrorStatus) : Except ReplyFault Reply :=
  match p with
  | .response (.answered value) => do return ⟨successStatus, ← bodyOf result value⟩
  | .response (.rejected value) => do return ⟨errorStatus, ← bodyOf error value⟩
  | .response (.failed _) => .error .failureProduced
  | .stray v => .error (.unexpected v.shown)

/-- The body as it is sent. -/
def Reply.text (r : Reply) : Except ReplyFault String :=
  if r.body.isFinite then .ok (r.body.render Value.numberLayout) else .error .infinite

/-- What is said about a body that is not of the expected kind. -/
def decodeFault : String := "the body does not read as a value of the expected kind"

/-- The value of a kind that a body stands for. -/
def decode (body : String) (k : Kind) : Except String Value :=
  if k.isWritable then
    match (Json.parse? body).bind k.ofJson? with
    | some v => .ok v
    | none => .error decodeFault
  else .error WriteFault.unwritableKind.message

/-- What a client makes of an answer. -/
def outcomeOf (status : Int) (body : String)
    (errorStatus : Int := Standing.defaultErrorStatus) : Outcome Id Kind where
  standing := .ofStatus status errorStatus
  status := some status
  text := body
  decode := fun k => decode body k

/-- The response that a client makes of an answer. -/
def receive (status : Int) (body : String) (result error : Kind := .any)
    (errorStatus : Int := Standing.defaultErrorStatus) : Response :=
  Id.run ((outcomeOf status body errorStatus).response result error)

section Receiving

variable {status errorStatus : Int} {body : String} {result error : Kind}

/-- What is received with a status of success. -/
theorem receive_of_success (h : 200 ≤ status ∧ status < 300) :
    receive status body result error errorStatus
      = match decode body result with
        | .ok v => .answered v
        | .error why => .failed (.transport ("cannot decode result: " ++ why)) := by
  have hstanding : Standing.ofStatus status errorStatus = .success := by
    unfold Standing.ofStatus
    rw [if_pos (by simpa using h)]
  unfold receive Outcome.response
  cases hdecode : decode body result with
  | ok v =>
    simp only [outcomeOf, hstanding, hdecode]
    rfl
  | error why =>
    simp only [outcomeOf, hstanding, hdecode]
    rfl

/-- What is received with the status designated for errors. -/
theorem receive_error (h : ¬(200 ≤ errorStatus ∧ errorStatus < 300)) :
    receive errorStatus body result error errorStatus
      = match decode body error with
        | .ok v => .rejected v
        | .error why => .failed (.transport ("status " ++ statusText (some errorStatus)
            ++ " body is not a valid error value: " ++ why)) := by
  have hstanding : Standing.ofStatus errorStatus errorStatus = .clientError := by
    unfold Standing.ofStatus
    rw [if_neg (by simpa using h), beq_self_eq_true, if_pos rfl]
  unfold receive Outcome.response
  cases hdecode : decode body error with
  | ok v =>
    simp only [outcomeOf, hstanding, hdecode]
    rfl
  | error why =>
    simp only [outcomeOf, hstanding, hdecode]
    rfl

/-- What is received with any other status. -/
theorem receive_other (h : ¬(200 ≤ status ∧ status < 300)) (hother : status ≠ errorStatus) :
    receive status body result error errorStatus = .failed (.status status body) := by
  have hstanding : Standing.ofStatus status errorStatus = .otherError := by
    unfold Standing.ofStatus
    rw [if_neg (by simpa using h), if_neg (by simpa using hother)]
  unfold receive Outcome.response
  simp only [outcomeOf, hstanding]
  rfl

end Receiving

end Waymark.Exchange
