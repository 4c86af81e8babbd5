import Waymark.Contract
import Waymark.Descriptor.Scope

/-! # Client tree

    What a client is made of: a tree of units, one for each endpoint that is kept, and
    in each unit the operations of its endpoint. A root unit goes together with the
    scope of the descriptor module it was read from.
-/

namespace Waymark

/-- One call that a client offers: the verb, the types it goes by, and the module-level
    names that those types mention. Only a `POST` has a parameter. -/
structure Operation where
  node : String
  capability : String
  verb : Verb
  requestType : String
  paramType : Option String := none
  resultType : String
  errorType : String
  names : List String := []
  deriving Repr, DecidableEq

/-- One class of a client. -/
structure ClientUnit where
  name : String
  qualname : String
  segment : String
  operations : List Operation := []
  children : List ClientUnit := []
  deriving Repr

namespace ClientUnit

mutual
/-- The unit and all units below it, each before its children. -/
def walk (u : ClientUnit) : List ClientUnit :=
  match u with
  | ⟨name, qualname, segment, operations, children⟩ =>
    ⟨name, qualname, segment, operations, children⟩ :: walkAll children

/-- The units of a forest in the same order. -/
def walkAll : List ClientUnit → List ClientUnit
  | [] => []
  | u :: rest => walk u ++ walkAll rest
end

/-- Does the unit, or one nested in it, offer anything? -/
def offersAnything (u : ClientUnit) : Bool :=
  !u.operations.isEmpty || !u.children.isEmpty

/-- All operations of the unit and of those below it. -/
def allOperations (u : ClientUnit) : List Operation :=
  u.walk.flatMap ClientUnit.operations

/-- The number of units. -/
def unitCount (u : ClientUnit) : Nat :=
  u.walk.length

/-- The number of operations. -/
def operationCount (u : ClientUnit) : Nat :=
  u.allOperations.length

end ClientUnit

/-- A whole client: its outermost unit, the descriptor module it was read from, and that
    module's scope. -/
structure ClientRoot where
  module : String
  root : ClientUnit
  scope : Scope

end Waymark
