import Waymark.Contract
import Waymark.Value.Basic

/-! # Classes of an API

    An API is built of classes. A class has attributes, some of which are classes
    themselves, and may extend another class, whose attributes it has as well unless it
    has its own. A class that is a resource has a segment of the route and fields; the
    resource that it is nested in is its parent.

    Which class is a resource, which segment it has and what its parent is are matters of
    the class alone, and not inherited.
-/

namespace Waymark.Api

/-- A field of a resource. -/
structure NodeField where
  name : String
  /-- Does it hold the node of the parent? -/
  isParent : Bool := false
  default : Option Value := none

/-- What a class attribute holds. -/
inductive Attribute where
  | value (v : Value)
  /-- The mark of a field for the parent's node. -/
  | parentMark

/-- A check of new instances: why it refuses one, if it does. -/
abbrev NodeCheck := Value → Option String

/-- What is known of a class. -/
structure ClassInfo where
  ref : ClassRef
  /-- The classes it extends, nearest first. -/
  ancestors : List Nat := []
  /-- The contract it extends itself. -/
  verb : Option Verb := none
  /-- Is it marked as a capability? -/
  marked : Bool := false
  /-- Its own attributes, in the order in which they were first set. -/
  attributes : List (String × Attribute) := []
  /-- The names it declares as fields, in order. -/
  declared : List String := []
  /-- The segment of its route, if it is a resource. -/
  segment : Option String := none
  /-- The fields, inherited ones first, if it is a resource. -/
  fields : List NodeField := []
  parent : Option ClassRef := none
  /-- Its own check of new instances, if it has one. -/
  refusal : Option NodeCheck := none

/-- Is the class a resource? -/
def ClassInfo.isResource (c : ClassInfo) : Bool :=
  c.segment.isSome

/-- The classes defined so far, by serial number, and the number of objects made. -/
structure Registry where
  classes : List ClassInfo := []
  objects : Nat := 0

namespace Registry

/-- What is known of the class with a serial number. -/
def info? (r : Registry) (serial : Nat) : Option ClassInfo :=
  r.classes[serial]?

/-- The latest class of a qualified name. -/
def named? (r : Registry) (qualname : String) : Option ClassInfo :=
  r.classes.reverse.find? fun c => c.ref.qualname == qualname

/-- Changes what is known of a class. -/
def modify (r : Registry) (serial : Nat) (f : ClassInfo → ClassInfo) : Registry :=
  { r with classes := r.classes.modify serial f }

/-- The class and those that it extends, nearest first. -/
def lineage (r : Registry) (c : ClassInfo) : List ClassInfo :=
  c :: c.ancestors.filterMap r.info?

/-- The nearest resource among the class and those that it extends. -/
def resource? (r : Registry) (c : ClassInfo) : Option ClassInfo :=
  (r.lineage c).find? ClassInfo.isResource

/-- The fields of instances of the class; none if it extends no resource. -/
def fields? (r : Registry) (c : ClassInfo) : Option (List NodeField) :=
  (r.resource? c).map ClassInfo.fields

/-- The first field for a parent. -/
def parentField? (r : Registry) (c : ClassInfo) : Option NodeField :=
  (r.fields? c).bind fun fields => fields.find? NodeField.isParent

/-- An attribute of the class, its own or inherited. -/
def attribute? (r : Registry) (c : ClassInfo) (name : String) : Option Attribute :=
  (r.lineage c).findSome? fun a => a.attributes.lookup name

/-- The contract that the class extends. -/
def contract? (r : Registry) (c : ClassInfo) : Option Verb :=
  (r.lineage c).findSome? ClassInfo.verb

/-- The contract whose method the class leaves without a body. -/
def unmet? (r : Registry) (c : ClassInfo) : Option Verb :=
  (r.contract? c).filter fun v => (r.attribute? c v.method).isNone

/-- Does the class extend the other one, or is it the same? -/
def descends (r : Registry) (c : ClassInfo) (other : ClassRef) : Bool :=
  (r.lineage c).any fun a => a.ref.serial == other.serial

/-- The class that a value is an instance of, if it is one of the API. -/
def classOf? (r : Registry) : Value → Option ClassInfo
  | .node ref .. => r.info? ref.serial
  | .inert ref _ => r.info? ref.serial
  | _ => none

/-- Is the value an instance of the class? -/
def isInstance (r : Registry) (v : Value) (c : ClassRef) : Bool :=
  (r.classOf? v).any fun info => r.descends info c

/-- The classes among the attributes of a class, in order. Names that start with two
    underscores do not count. -/
def nestedClasses (r : Registry) (c : ClassInfo) : List ClassInfo :=
  c.attributes.filterMap fun (name, a) =>
    match a with
    | .value (.cls ref) => if name.startsWith "__" then none else r.info? ref.serial
    | _ => none

/-- The resources nested in a class. -/
def children (r : Registry) (c : ClassInfo) : List ClassInfo :=
  (r.nestedClasses c).filter ClassInfo.isResource

/-- Is the class a capability: one that extends a contract, or is marked as one? -/
def isCapability (r : Registry) (c : ClassInfo) : Bool :=
  !c.isResource && ((r.contract? c).isSome || c.marked)

/-- The capabilities nested in a class. -/
def capabilities (r : Registry) (c : ClassInfo) : List ClassInfo :=
  (r.nestedClasses c).filter r.isCapability

/-- Is the value a resource class? -/
def isResource (r : Registry) : Value → Bool
  | .cls ref => (r.info? ref.serial).any ClassInfo.isResource
  | _ => false

end Registry

end Waymark.Api
