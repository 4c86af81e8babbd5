import Waymark.Api.Registry
import Waymark.Value.Text

/-! # Making nodes

    A node is an instance of a class, made from its fields by name. Of a resource all
    fields without a default must be given, and a resource that has a parent takes only
    a node of it in the field for it. An own check of the class comes last.

    Nodes cannot be changed once they are made.
-/

namespace Waymark.Api

/-- Why a node cannot be made. -/
inductive NodeFault where
  /-- The class has no fields, and some are given. -/
  | takesNothing (className : String)
  /-- The class extends a contract without giving it a body. -/
  | unmet (className : String) (verb : Verb)
  /-- The node itself is given by name. -/
  | repeatedSelf (qualname : String)
  | unexpectedField (qualname field : String)
  | missingFields (qualname : String) (fields : List String)
  /-- The field for the parent holds something else. -/
  | wrongParent (qualname field expected given : String)
  /-- The check of the class refuses. -/
  | refused (message : String)
  deriving Repr, DecidableEq

/-- Texts in a list, the last one after `and`. -/
def enumerated : List String → String
  | [] => ""
  | [a] => a
  | [a, b] => a ++ " and " ++ b
  | many => ", ".intercalate many.dropLast ++ ", and " ++ many.getLastD ""

/-- The name under which a node is itself passed to what makes it. -/
def selfName : String := "self"

/-- The wording of a fault. -/
def NodeFault.message : NodeFault → String
  | .takesNothing className => className ++ "() takes no arguments"
  | .unmet className verb => verb.abstractMessage className
  | .repeatedSelf qualname =>
    qualname ++ ".__init__() got multiple values for argument " ++ Text.quoted selfName
  | .unexpectedField qualname field =>
    qualname ++ ".__init__() got an unexpected keyword argument " ++ Text.quoted field
  | .missingFields qualname fields =>
    qualname ++ ".__init__() missing " ++ toString fields.length
      ++ " required keyword-only argument" ++ (if fields.length = 1 then "" else "s") ++ ": "
      ++ enumerated (fields.map Text.quoted)
  | .wrongParent qualname field expected given =>
    qualname ++ "." ++ field ++ " must be a " ++ expected ++ ", got " ++ given
  | .refused message => message

namespace Registry

/-- Is every given name a field? The first that is not is at fault. -/
def checkNames (qualname : String) (fields : List NodeField) (given : List (String × Value)) :
    Except NodeFault Unit :=
  given.forM fun (name, _) =>
    if fields.any fun f => f.name == name then .ok ()
    else if name == selfName then .error (.repeatedSelf qualname)
    else .error (.unexpectedField qualname name)

/-- The values of all fields. -/
def fill (qualname : String) (fields : List NodeField) (given : List (String × Value)) :
    Except NodeFault (List (String × Value)) :=
  let missing := fields.filter fun f => f.default.isNone && (given.lookup f.name).isNone
  if missing.isEmpty then
    .ok (fields.filterMap fun f =>
      ((given.lookup f.name).orElse fun _ => f.default).map fun v => (f.name, v))
  else .error (.missingFields qualname (missing.map NodeField.name))

/-- Does the field for the parent hold a node of the parent? -/
def checkParent (r : Registry) (c : ClassInfo) (fields : List (String × Value)) :
    Except NodeFault Unit :=
  match c.parent, r.parentField? c with
  | some expected, some f =>
    let value := (fields.lookup f.name).getD .none
    if r.isInstance value expected then .ok ()
    else .error (.wrongParent c.ref.qualname f.name expected.qualname value.typeName)
  | _, _ => .ok ()

/-- The checks of a new instance: those of the nearest class that has any. Every resource
    checks the parent, then does what its own check does. -/
def check (r : Registry) (c : ClassInfo) (fields : List (String × Value)) :
    Except NodeFault Unit :=
  match (r.lineage c).find? fun a => a.isResource || a.refusal.isSome with
  | none => .ok ()
  | some a => do
    if a.isResource then r.checkParent c fields
    match a.refusal.bind (· (.node c.ref r.objects fields)) with
    | some message => .error (.refused message)
    | none => .ok ()

/-- An instance of a class that extends no resource. -/
def makeInert (r : Registry) (c : ClassInfo) (given : List (String × Value)) :
    Except NodeFault Value :=
  if !given.isEmpty then .error (.takesNothing c.ref.name)
  else match r.unmet? c with
    | some verb => .error (.unmet c.ref.name verb)
    | none => .ok (.inert c.ref r.objects)

/-- An instance of a class, from its fields by name. -/
def instantiate (r : Registry) (c : ClassInfo) (given : List (String × Value)) :
    Except NodeFault Value :=
  match r.resource? c with
  | none => r.makeInert c given
  | some maker => do
    match r.unmet? c with
    | some verb => .error (.unmet c.ref.name verb)
    | none =>
      checkNames maker.ref.qualname maker.fields given
      let fields ← fill maker.ref.qualname maker.fields given
      r.check c fields
      return .node c.ref r.objects fields

/-- An instance of a class, which counts as a new object. -/
def make (r : Registry) (c : ClassInfo) (given : List (String × Value)) :
    Except NodeFault (Registry × Value) := do
  let v ← r.instantiate c given
  return ({ r with objects := r.objects + 1 }, v)

/-- May the field of a node be set? Not on a resource, nor if it is one of the fields that
    were inherited from one. -/
def isSettable (r : Registry) (c : ClassInfo) (name : String) : Bool :=
  match r.resource? c with
  | none => true
  | some maker =>
    maker.ref.serial != c.ref.serial && maker.fields.all fun f => f.name != name

end Registry

end Waymark.Api
