import Waymark.Exchange.Response

/-! # Outcomes

    What came of sending a request, and what it means. The status of an HTTP answer is a
    success, the one status designated for errors of the API, or neither
    (`Standing.ofStatus`). `Outcome.response` is what an outcome amounts to: bodies
    are decoded only where they are expected to be values, and one that does not decode is
    a failure of the transport, never a rejection.
-/

namespace Waymark.Exchange

/-- The standing of an outcome. -/
inductive Standing where
  | success
  /-- The designated status for errors of the API. -/
  | clientError
  | otherError
  /-- No answer was received. -/
  | networkFailure
  deriving Repr, DecidableEq

namespace Standing

/-- All standings. -/
def all : List Standing := [.success, .clientError, .otherError, .networkFailure]

/-- The word for a standing. -/
def word : Standing → String
  | .success => "success"
  | .clientError => "client_error"
  | .otherError => "other_error"
  | .networkFailure => "network_failure"

/-- The standing that a word stands for. -/
def ofWord? (s : String) : Option Standing :=
  all.find? fun standing => standing.word == s

theorem ofWord?_word (s : Standing) : ofWord? s.word = some s := by
  cases s <;> rfl

/-- The status designated for errors of the API unless another one is chosen. -/
def defaultErrorStatus : Int := 400

/-- The standing of an HTTP answer. Every status from 200 to 299 is a success, even the
    designated one. -/
def ofStatus (code : Int) (errorStatus : Int := defaultErrorStatus) : Standing :=
  if 200 ≤ code && code < 300 then .success
  else if code == errorStatus then .clientError
  else .otherError

end Standing

/-- What came of a request. Bodies are decoded in the monad `m`; what a body is decoded
    as is given by a `κ`. -/
structure Outcome (m : Type → Type) (κ : Type) where
  standing : Standing
  status : Option Int := none
  text : String := ""
  decode : κ → m (Except String Value)

/-- A status as text. -/
def statusText : Option Int → String
  | none => "None"
  | some code => toString code

/-- The response that an outcome amounts to. -/
def Outcome.response {m : Type → Type} [Monad m] {κ : Type} (o : Outcome m κ)
    (result error : κ) : m Response :=
  match o.standing with
  | .success => do
    match ← o.decode result with
    | .ok value => return .answered value
    | .error why => return .failed (.transport ("cannot decode result: " ++ why))
  | .clientError => do
    match ← o.decode error with
    | .ok value => return .rejected value
    | .error why =>
      return .failed (.transport
        ("status " ++ statusText o.status ++ " body is not a valid error value: " ++ why))
  | .otherError => return .failed (.status (o.status.getD 0) o.text)
  | .networkFailure => return .failed .network

end Waymark.Exchange
