import Waymark.Api.Route
import Waymark.Contract
import Waymark.Exchange.Reply
import Waymark.Exchange.Target

/-! # Transport

    A client asks for a node with `GET` or hands it a parameter with `POST`. The request
    is sent over HTTP; what comes of sending it is its `Delivery`. Every call ends in one
    response, unless it is misused, has no target, or is given up.
-/

namespace Waymark.Exchange

open Waymark.Api (Registry ClassInfo RouteFault)

/-- A request as it is sent. -/
structure Request where
  verb : Verb
  target : Target
  /-- The document that is sent along. -/
  body : Option String := none

/-- The type of what is sent along. -/
def Request.contentType (q : Request) : Option String :=
  q.body.map fun _ => "application/json"

/-- Ways in which sending a request fails. -/
inductive Breakdown where
  | timeout (phase : String)
  | connection (phase : String)
  /-- A failure of the exchange that was not for want of an answer. -/
  | exchange (name : String)
  deriving Repr, DecidableEq

/-- The breakdowns for want of an answer, by name. -/
def losses : List (String × Breakdown) :=
  (["Connect", "Read", "Write", "Pool"].map fun p => (p ++ "Timeout", .timeout p))
    ++ [("TimeoutException", .timeout "")]
    ++ (["Connect", "Read", "Write", "Close"].map fun p => (p ++ "Error", .connection p))
    ++ [("NetworkError", .connection "")]

/-- The other breakdowns, by name. -/
def exchangeFailures : List String :=
  ["HTTPError", "RequestError", "TransportError", "ProtocolError", "LocalProtocolError",
    "RemoteProtocolError", "ProxyError", "UnsupportedProtocol", "DecodingError",
    "TooManyRedirects", "HTTPStatusError"]

/-- The breakdown of a name, if it is one. -/
def Breakdown.ofName? (name : String) : Option Breakdown :=
  match losses.lookup name with
  | some b => some b
  | none => if exchangeFailures.contains name then some (.exchange name) else none

/-- The failure that a breakdown amounts to. -/
def Breakdown.failure (message : String) : Breakdown → Failure
  | .timeout _ => .network
  | .connection _ => .network
  | .exchange name => .transport (name ++ ": " ++ message)

/-- What comes of sending a request. -/
inductive Delivery where
  | answered (status : Int) (body : String)
  | broken (breakdown : Breakdown) (message : String)
  /-- The call was given up. -/
  | cancelled
  /-- A fault that is none of the exchange. -/
  | escaped (name message : String)

/-- Why a call ends without a response. -/
inductive CallFault where
  /-- The node is not one of the expected class. -/
  | wrongNode (expected given : String)
  | route (fault : RouteFault)
  | target (fault : TargetFault)
  | cancelled
  | escaped (name message : String)
  /-- No transport was installed. -/
  | notInstalled

/-- The wording of a fault. -/
def CallFault.message : CallFault → String
  | .wrongNode expected given => "expected a " ++ expected ++ " node, got " ++ given
  | .route fault => fault.message
  | .target fault => fault.message
  | .cancelled => ""
  | .escaped _ message => message
  | .notInstalled => "no transport installed; call shapi.client.transport.install() first"

/-- What a transport knows: where the API is, and which status designates its errors. -/
structure Transport where
  base : String
  errorStatus : Int := Standing.defaultErrorStatus

/-- A call of a node of an expected class. -/
structure Call where
  node : Value
  expected : ClassInfo
  result : Kind
  error : Kind
  /-- The parameter and its kind, for `POST`. -/
  param : Option (Value × Kind) := none

/-- Numbers in requests are positional unless they are very large or very small; an
    exponent has a minus sign or none. -/
def requestLayout : Decimal.Layout where
  minPoint := -4
  maxPoint := 16
  plus := []
  exponentDigits := 1
  infinity := "null"
  nan := "null"

/-- The document for a parameter. -/
def encodeParam (v : Value) (k : Kind) : Except WriteFault String := do
  let document ← k.toJson v true
  return document.finite.render requestLayout

/-- A call ends without a response, in a response without a request, or with a request
    to send. -/
inductive Prepared where
  | faulty (fault : CallFault)
  | settled (response : Response)
  | request (q : Request)

namespace Transport

/-- The target for a node of the expected class. -/
def targetOf (t : Transport) (r : Registry) (c : Call) : Except CallFault Target :=
  if !r.isInstance c.node c.expected.ref then
    .error (.wrongNode c.expected.ref.qualname c.node.typeName)
  else
    match r.route c.node with
    | .error fault => .error (.route fault)
    | .ok route =>
      match r.query c.node with
      | .error fault => .error (.route fault)
      | .ok entries =>
        match Target.ofRequest t.base route entries with
        | .error fault => .error (.target fault)
        | .ok target => .ok target

/-- The request for a node, with a body for `POST`. -/
def requestFor (t : Transport) (r : Registry) (c : Call) (verb : Verb) (body : Option String) :
    Prepared :=
  match t.targetOf r c with
  | .error fault => .faulty fault
  | .ok target => .request { verb, target, body }

/-- Prepares a call. A parameter is written before anything else is looked at. -/
def prepare (t : Transport) (r : Registry) (c : Call) : Prepared :=
  match c.param with
  | none => t.requestFor r c .get none
  | some (value, kind) =>
    match encodeParam value kind with
    | .error fault =>
      .settled (.failed (.transport ("cannot encode request body: " ++ fault.message)))
    | .ok body => t.requestFor r c .post (some body)

/-- What a call makes of a delivery. -/
def conclude (t : Transport) (c : Call) : Delivery → Except CallFault Response
  | .answered status body => .ok (receive status body c.result c.error t.errorStatus)
  | .broken breakdown message => .ok (.failed (breakdown.failure message))
  | .cancelled => .error .cancelled
  | .escaped name message => .error (.escaped name message)

/-- Carries out a call, where `send` delivers requests. Hands back the requests that were
    sent with the response. -/
def perform (t : Transport) (r : Registry) (c : Call) (send : Request → Delivery) :
    List Request × Except CallFault Response :=
  match t.prepare r c with
  | .faulty fault => ([], .error fault)
  | .settled response => ([], .ok response)
  | .request q => ([q], t.conclude c (send q))

end Transport

/-- Carries out a call with the transport that is installed. -/
def performInstalled (installed : Option Transport) (r : Registry) (c : Call)
    (send : Request → Delivery) : List Request × Except CallFault Response :=
  match installed with
  | none => ([], .error .notInstalled)
  | some t => t.perform r c send

end Waymark.Exchange
