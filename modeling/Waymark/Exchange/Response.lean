import Waymark.Value.Text

/-! # Responses

    A request is answered with a value, or rejected with an error of the API's own
    vocabulary, or it fails for a reason outside of it. Failures are only ever observed
    by clients.
-/

namespace Waymark.Exchange

/-- Why a request failed outside the vocabulary of the API. -/
inductive Failure where
  /-- No answer was obtained at all. -/
  | network
  /-- An answer with a status that the API does not use. -/
  | status (code : Int) (message : String)
  /-- The request or the answer could not be written, sent or read. -/
  | transport (message : String)
  deriving Repr, DecidableEq

/-- The text of a failure. -/
def Failure.shown : Failure → String
  | .network => "NetworkError"
  | .status code message =>
    "HttpError(status=" ++ toString code ++ ", message=" ++ Text.quoted message ++ ")"
  | .transport message => "TransportError(message=" ++ Text.quoted message ++ ")"

/-- The answer to a request. -/
inductive Response where
  | answered (value : Value)
  | rejected (error : Value)
  | failed (failure : Failure)

namespace Response

/-- The text of a response. -/
def shown : Response → String
  | .answered value => "Ok(value=" ++ value.shown ++ ")"
  | .rejected error => "RequestErr(err=" ++ error.shown ++ ")"
  | .failed failure => "Err(other=" ++ failure.shown ++ ")"

/-- Was the request answered with a value? -/
def isAnswered : Response → Bool
  | .answered _ => true
  | _ => false

/-- The value of an answer, or what is said when there is none. -/
def result : Response → Except String Value
  | .answered value => .ok value
  | .rejected error => .error ("Request was answered with error: " ++ error.shown)
  | .failed failure => .error ("Request failed: " ++ failure.shown)

/-- Equality of responses. -/
def equals : Response → Response → Bool
  | .answered v, .answered w => v.equals w
  | .rejected v, .rejected w => v.equals w
  | .failed f, .failed g => f == g
  | _, _ => false

/-- An answer with the value, or a rejection with the error when the value is none. -/
def ofOptional (value error : Value) : Response :=
  if value.isNone then .rejected error else .answered value

end Response

/-- What is said when a field of something unchangeable is to be set. -/
def unchangeable (field : String) : String :=
  "cannot assign to field " ++ Text.quoted field

/-- How much of a text a message about something unexpected shows. -/
def maxShown : Nat := 100

/-- What is said about something that no case is made for. -/
def unexpected (shown : String) : String :=
  let text := if shown.length > maxShown then String.ofList (shown.toList.take maxShown) ++ "..."
    else shown
  "Expected code to be unreachable, but got: " ++ text

end Waymark.Exchange
