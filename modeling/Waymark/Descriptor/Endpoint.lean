import Waymark.Descriptor.Scope

/-! # Descriptor tree

    What a descriptor module declares: endpoints with a path segment, nested in each
    other, with fields and with capabilities. A capability is kept as it was declared;
    whether it makes sense is decided later.
-/

namespace Waymark

/-- One type argument of a contract: its text with forward references written out, the
    names that occur in it, and what is wrong with it, if anything. -/
structure TypeArgument where
  source : String
  names : List String := []
  problem : Option String := none
  deriving Repr, DecidableEq

/-- A base class of a capability: its text, the qualified name it denotes if that is
    known, and its type arguments if it has any brackets. -/
structure Supertype where
  display : String
  target : Option String := none
  arguments : Option (List TypeArgument) := none
  deriving Repr, DecidableEq

/-- A nested class that declares what can be done with the endpoint around it. -/
structure Capability where
  name : String
  qualname : String
  supertypes : List Supertype := []
  marked : Bool := false
  line : Int := 0
  deriving Repr, DecidableEq

/-- A declared field of an endpoint. -/
structure Field where
  name : String
  typeText : String
  isParent : Bool := false
  hasDefault : Bool := false
  deriving Repr, DecidableEq

/-- A class with a path segment, and what is nested in it. -/
structure Endpoint where
  name : String
  qualname : String
  segment : String
  fields : List Field := []
  children : List Endpoint := []
  capabilities : List Capability := []
  line : Int := 0
  deriving Repr

namespace Endpoint

/-- The field that refers to the enclosing endpoint: the first one declared so. -/
def parentField (e : Endpoint) : Option Field :=
  e.fields.find? Field.isParent

end Endpoint

/-- A descriptor module as read: its scope and its outermost endpoints. -/
structure Descriptor where
  module : String
  scope : Scope
  roots : List Endpoint

/-- The first outermost endpoint with the name. -/
def Descriptor.root? (d : Descriptor) (name : String) : Option Endpoint :=
  d.roots.find? fun e => e.name == name

end Waymark
