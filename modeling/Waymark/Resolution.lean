import Waymark.Client.Tree
import Waymark.Descriptor.Builtin
import Waymark.Descriptor.Endpoint
import Waymark.Diagnostic
import Waymark.Text.Order
import Waymark.Text.Quoted

/-! # Resolution of capabilities

    A capability becomes an operation when it extends exactly one contract and gives it
    the right type arguments. Arguments are read by position. `Capability.resolve`
    answers with the operation, or with the first reason against it:

    * the supertypes: none, several, or one that is no contract;
    * the arguments in slot order: missing, or with a name that nothing binds;
    * more arguments than slots;
    * a first argument that is not the enclosing endpoint.
-/

namespace Waymark

/-- Why a type argument cannot be used. -/
inductive ArgumentFault where
  /-- The argument was already found faulty when it was read. -/
  | unreadable (problem : String)
  /-- A name is bound neither in the module nor everywhere. -/
  | undefined (name module : String)
  /-- A name is a type variable. -/
  | typeVariable (name : String)
  deriving Repr, DecidableEq

/-- The wording of a fault. -/
def ArgumentFault.message : ArgumentFault → String
  | .unreadable problem => problem
  | .undefined name module =>
    "name " ++ Text.quoted name ++ " is not defined at module level of " ++ module
  | .typeVariable name => Text.quoted name ++ " is a type variable"

/-- What a scope has against a name. -/
def Scope.nameFault (scope : Scope) (name : String) : Option ArgumentFault :=
  match scope.lookup name with
  | none => if isBuiltin name then none else some (.undefined name scope.module)
  | some b => if b.kind = .typeVariable then some (.typeVariable name) else none

/-- What a scope has against a type argument: its problem, unless that is empty, else the
    first fault among its names. -/
def TypeArgument.fault (scope : Scope) (argument : TypeArgument) : Option ArgumentFault :=
  match argument.problem with
  | some problem =>
    if problem = "" then argument.names.findSome? scope.nameFault else some (.unreadable problem)
  | none => argument.names.findSome? scope.nameFault

/-- Why a capability is not an operation. -/
inductive Rejection where
  | noSupertype
  | severalSupertypes (displays : List String)
  | unknownSupertype (display : String)
  | missingArgument (verb : Verb) (index : Nat) (slot : Slot)
  | faultyArgument (index : Nat) (slot : Slot) (fault : ArgumentFault)
  | surplusArgument (verb : Verb)
  | foreignNode (given expected : String)
  deriving Repr, DecidableEq

namespace Rejection

/-- Trouble with the supertypes is about the declaration, all else about its arguments. -/
def concern : Rejection → Concern
  | .noSupertype | .severalSupertypes _ | .unknownSupertype _ => .configuration
  | _ => .resolution

/-- The slot that is to blame. -/
def slot : Rejection → Option Nat
  | .missingArgument _ index _ | .faultyArgument index _ _ => some index
  | .surplusArgument verb => some verb.arity
  | .foreignNode _ _ => some 0
  | _ => none

/-- The wording of a rejection. -/
def message : Rejection → String
  | .noSupertype => "capability extends no supertype; exactly one of GET or POST expected"
  | .severalSupertypes displays =>
    "capability extends " ++ toString displays.length ++ " supertypes ("
      ++ ", ".intercalate displays ++ "); exactly one contract expected"
  | .unknownSupertype display =>
    "supertype " ++ display ++ " is not a recognized contract (GET or POST)"
  | .missingArgument verb index slot =>
    verb.name ++ " is missing the type argument for slot " ++ toString index
      ++ " (" ++ slot.word ++ ")"
  | .faultyArgument index slot fault =>
    "unresolved type argument at slot " ++ toString index ++ " (" ++ slot.word ++ "): "
      ++ fault.message
  | .surplusArgument verb =>
    "unexpected type argument at slot " ++ toString verb.arity ++ ": " ++ verb.name
      ++ " takes " ++ toString verb.arity
  | .foreignNode given expected =>
    "type argument at slot 0 (node) is " ++ given ++ ", expected the owning node " ++ expected

end Rejection

namespace Capability

/-- What is wrong at one slot of a contract. -/
def slotFault (scope : Scope) (verb : Verb) (arguments : List TypeArgument) :
    Slot × Nat → Option Rejection
  | (slot, index) =>
    match arguments[index]? with
    | none => some (.missingArgument verb index slot)
    | some argument => (argument.fault scope).map (.faultyArgument index slot ·)

/-- The contract a capability extends, with the type arguments it gives. -/
def contract (cap : Capability) : Except Rejection (Verb × List TypeArgument) :=
  match cap.supertypes with
  | [] => .error .noSupertype
  | [base] =>
    match Verb.ofContract? (base.target.getD "") with
    | none => .error (.unknownSupertype base.display)
    | some verb => .ok (verb, base.arguments.getD [])
  | several => .error (.severalSupertypes (several.map Supertype.display))

/-- The text of the argument at a slot. -/
def sourceAt (verb : Verb) (arguments : List TypeArgument) (slot : Slot) : Option String :=
  ((verb.slots.zip arguments).find? fun (s, _) => s == slot).map fun (_, a) => a.source

/-- The operation of a capability whose arguments are all in order. -/
def operation (cap : Capability) (node : Endpoint) (verb : Verb)
    (arguments : List TypeArgument) : Operation :=
  { node := node.qualname
    capability := cap.qualname
    verb
    requestType := (sourceAt verb arguments .node).getD ""
    paramType := sourceAt verb arguments .param
    resultType := (sourceAt verb arguments .result).getD ""
    errorType := (sourceAt verb arguments .error).getD ""
    names := Text.sortDistinct (arguments.flatMap TypeArgument.names) }

/-- The operation that a capability of an endpoint declares. -/
def resolve (scope : Scope) (node : Endpoint) (cap : Capability) :
    Except Rejection Operation := do
  let (verb, arguments) ← cap.contract
  match verb.slots.zipIdx.findSome? (slotFault scope verb arguments) with
  | some rejection => throw rejection
  | none => pure ()
  if arguments.length > verb.arity then throw (.surplusArgument verb)
  let op := cap.operation node verb arguments
  if op.requestType ≠ node.qualname then
    throw (.foreignNode op.requestType node.qualname)
  return op

/-- The diagnostic of a rejected capability. -/
def rejected (scope : Scope) (cap : Capability) (r : Rejection) : Diagnostic :=
  .error r.concern (scope.locate cap.qualname) r.message (some cap.line)
    (r.slot.map fun n => (n : Int))

/-- Resolution as a report: an operation, or one error. -/
def resolveReport (scope : Scope) (node : Endpoint) (cap : Capability) :
    Report (Option Operation) :=
  match cap.resolve scope node with
  | .ok op => { value := some op }
  | .error r => { value := none, diagnostics := [cap.rejected scope r] }

end Capability

end Waymark
