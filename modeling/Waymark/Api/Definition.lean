import Waymark.Api.Registry
import Waymark.Value.Text

/-! # Defining classes

    A class is defined by its members, in order. A later member of a name takes the place
    of an earlier one, and nested classes are defined before the class around them.

    Making a class a resource settles its fields: those of the resource it extends, then
    its own, each with the attribute of its name as default. It then becomes the parent
    of the resources nested in it, all of which must have a field for it.

    Values in definitions may refer to classes defined before, so they are given as
    expressions (`ε`) that are evaluated when their turn comes.
-/

namespace Waymark.Api

mutual
/-- A member of a class. -/
inductive Member (ε : Type) where
  | field (name : String) (default : Option ε)
  | parent (name : String)
  | nested (definition : Definition ε)
  | capability (name : String) (verb : Option Verb) (marked : Bool)
  | attribute (name : String) (value : ε)

/-- The definition of a class: a resource if it has a segment. -/
inductive Definition (ε : Type) where
  | mk (name : String) (base segment : Option String) (refusal : Option NodeCheck)
      (members : List (Member ε))
end

/-- Why a class cannot be defined. -/
inductive DefinitionFault where
  /-- A nested resource has no field for its parent. -/
  | missingParent (child outer : String)
  /-- The default of a field could be changed later on. -/
  | changeableDefault (type field : String)
  /-- The mark of a parent field was inherited from a class that is no resource. -/
  | inheritedMark (className field : String)
  /-- The class to extend is not there. -/
  | unknownBase (name : String)
  deriving Repr, DecidableEq

/-- The wording of a fault. -/
def DefinitionFault.message : DefinitionFault → String
  | .missingParent child outer =>
    "resource " ++ child ++ " is nested in " ++ outer ++ " but declares no parent() field"
  | .changeableDefault type field =>
    "mutable default " ++ type ++ " for field " ++ field
      ++ " is not allowed: use default_factory"
  | .inheritedMark className field =>
    "type object " ++ Text.quoted className ++ " has no attribute " ++ Text.quoted field
  | .unknownBase name => name

/-- Can the value be changed in place? -/
def isChangeable : Value → Bool
  | .list _ => true
  | .dict _ => true
  | .set .mutable _ => true
  | .record .. => true
  | _ => false

/-- The text of a value's type. -/
def typeText (v : Value) : String :=
  match v with
  | .record shape _ => "<class '" ++ recordModule ++ "." ++ shape ++ "'>"
  | v => "<class '" ++ v.typeName ++ "'>"

/-- The members of a class body as they have been read so far. -/
structure Body where
  attributes : List (String × Attribute) := []
  declared : List String := []

/-- Sets an attribute. -/
def Body.set (b : Body) (name : String) (a : Attribute) : Body :=
  { b with attributes := Wire.putMember name a b.attributes }

/-- Declares a field. -/
def Body.declare (b : Body) (name : String) : Body :=
  { b with declared := if b.declared.contains name then b.declared else b.declared ++ [name] }

namespace Registry

/-- Adds a class and gives it its serial number. -/
def add (r : Registry) (c : ClassInfo) : Registry × ClassInfo :=
  let c := { c with ref := { c.ref with serial := r.classes.length } }
  ({ r with classes := r.classes ++ [c] }, c)

/-- The field that a class declares by a name. -/
def ownField (r : Registry) (c : ClassInfo) (name : String) : Except DefinitionFault NodeField :=
  match r.attribute? c name with
  | none => .ok { name }
  | some .parentMark => .ok { name, isParent := true }
  | some (.value v) =>
    if isChangeable v then .error (.changeableDefault (typeText v) name)
    else .ok { name, default := some v }

/-- Puts a field among others: one of the name keeps its place. -/
def putField (fields : List NodeField) (f : NodeField) : List NodeField :=
  if fields.any (fun g => g.name == f.name) then
    fields.map fun g => if g.name == f.name then f else g
  else fields ++ [f]

/-- The parent marks are used up by the fields; one that is not the class's own cannot
    be. -/
def marksUsed (c : ClassInfo) (own : List NodeField) : Except DefinitionFault Unit :=
  own.forM fun f =>
    if f.isParent && (c.attributes.lookup f.name).isNone then
      .error (.inheritedMark c.ref.name f.name)
    else .ok ()

/-- The attributes without the marks of parent fields. -/
def withoutMarks (attributes : List (String × Attribute)) : List (String × Attribute) :=
  attributes.filter fun (_, a) => match a with
    | .parentMark => false
    | .value _ => true

/-- Makes the class the parent of the resources nested in it. -/
def adopt (r : Registry) (outer : ClassInfo) : List ClassInfo → Except DefinitionFault Registry
  | [] => .ok r
  | child :: rest =>
    if (r.parentField? child).isNone then
      .error (.missingParent child.ref.qualname outer.ref.qualname)
    else
      adopt (r.modify child.ref.serial fun c => { c with parent := some outer.ref }) outer rest

/-- Makes a class a resource. -/
def makeResource (r : Registry) (c : ClassInfo) (segment : String) :
    Except DefinitionFault (Registry × ClassInfo) := do
  let own ← c.declared.mapM (r.ownField c)
  marksUsed c own
  let inherited := (r.fields? c).getD []
  let c := { c with
    attributes := withoutMarks c.attributes
    segment := some segment
    fields := own.foldl putField inherited }
  let (r, c) := r.add c
  return (← r.adopt c (r.children c), c)

end Registry

/-- Where a class is defined: inside the class of the qualified name, or at the top. -/
def nestedName (outer : Option String) (name : String) : String :=
  match outer with
  | none => name
  | some path => path ++ "." ++ name

section
variable {ε φ : Type} (evaluate : ε → StateT Registry (Except φ) Value)
  (fault : DefinitionFault → φ) (module : String)

/-- Defines a capability nested in a class. -/
def defineCapability (qualname : String) (verb : Option Verb) (marked : Bool) :
    StateT Registry (Except φ) ClassInfo := fun r =>
  let metaclass := if verb.isSome then "ABCMeta" else "type"
  let (r, c) := r.add { ref := ⟨0, module, qualname, metaclass⟩, verb, marked }
  .ok (c, r)

/-- The class to extend. -/
def baseOf (name : Option String) : StateT Registry (Except φ) (Option ClassInfo) := fun r =>
  match name with
  | none => .ok (none, r)
  | some n =>
    match r.named? n with
    | some c => .ok (some c, r)
    | none => .error (fault (.unknownBase n))

/-- Adds a class whose body has been read. -/
def settle (qualname : String) (base : Option ClassInfo) (segment : Option String)
    (refusal : Option NodeCheck) (body : Body) : StateT Registry (Except φ) ClassInfo := fun r =>
  let c : ClassInfo :=
    { ref := ⟨0, module, qualname, (base.map (·.ref.metaclass)).getD "type"⟩
      ancestors := (base.map fun b => b.ref.serial :: b.ancestors).getD []
      attributes := body.attributes, declared := body.declared, refusal }
  match segment with
  -- a plain class, which nothing is asked of
  | none =>
    let (r, c) := r.add c
    .ok (c, r)
  | some s =>
    match r.makeResource c s with
    | .ok (r, c) => .ok (c, r)
    | .error f => .error (fault f)

mutual
/-- Defines a class. -/
def define (outer : Option String) : Definition ε → StateT Registry (Except φ) ClassInfo
  | .mk name base segment refusal members => do
    let qualname := nestedName outer name
    let body ← defineMembers qualname members {}
    let base ← baseOf fault base
    settle fault module qualname base segment refusal body

/-- Reads the members of a class body. -/
def defineMembers (qualname : String) :
    List (Member ε) → Body → StateT Registry (Except φ) Body
  | [], body => pure body
  | .field name default :: rest, body => do
    let body := body.declare name
    match default with
    | none => defineMembers qualname rest body
    | some e => do
      let v ← evaluate e
      defineMembers qualname rest (body.set name (.value v))
  | .parent name :: rest, body =>
    defineMembers qualname rest ((body.declare name).set name .parentMark)
  | .nested definition :: rest, body => do
    let c ← define (some qualname) definition
    defineMembers qualname rest (body.set c.ref.name (.value (.cls c.ref)))
  | .capability name verb marked :: rest, body => do
    let c ← defineCapability module (nestedName (some qualname) name) verb marked
    defineMembers qualname rest (body.set name (.value (.cls c.ref)))
  | .attribute name e :: rest, body => do
    let v ← evaluate e
    defineMembers qualname rest (body.set name (.value v))
end

end

end Waymark.Api
