import Mathlib.Data.List.Forall2
import Waymark.Api.Definition
import Waymark.Descriptor.Reading

/-! # Shapes of class trees

    A tree of classes is described in three ways: by its definition, by the endpoint that is
    read from its source, and by the classes that there are once it is defined. What they have
    in common is the shape of the tree: the names of the classes and how they are nested, the
    segment and the field for the parent of each, and its capabilities.

    * `Definition.shape?` and `Endpoint.shape` compute it for definitions and endpoints.
    * Classes refer to each other by serial numbers, so that nothing bounds how deep they are
      nested. Going through them is a relation (`Registry.Shows`): asked for what is nested in
      it, each class answers with what the shape says.
-/

namespace Waymark

open Waymark.Api

/-- What is known of a capability: its names, the contract that it extends if it extends one,
    and whether it is marked. -/
structure CapabilityShape where
  name : String
  qualname : String
  verb : Option Verb
  marked : Bool
  deriving Repr, DecidableEq

/-- What is known of a resource: its names and its segment, the name of its field for the
    parent, its capabilities and the resources nested in it. -/
inductive ClassShape where
  | mk (name qualname segment : String) (parent : Option String)
      (capabilities : List CapabilityShape) (children : List ClassShape)
  deriving Repr

namespace ClassShape

/-- The field for the parent. -/
def parent : ClassShape → Option String
  | .mk _ _ _ parent _ _ => parent

mutual
/-- The shape with the segments of all classes without blanks at the ends. -/
def trimmed : ClassShape → ClassShape
  | .mk name qualname segment parent capabilities children =>
    .mk name qualname (Text.trim segment) parent capabilities (trimmedAll children)

def trimmedAll : List ClassShape → List ClassShape
  | [] => []
  | s :: rest => s.trimmed :: trimmedAll rest
end

mutual
/-- The segments of all classes, each before those of the classes nested in it. -/
def segments : ClassShape → List String
  | .mk _ _ segment _ _ children => segment :: segmentsAll children

def segmentsAll : List ClassShape → List String
  | [] => []
  | s :: rest => s.segments ++ segmentsAll rest
end

mutual
/-- Only segments with blanks at the ends are changed. -/
theorem trimmed_eq_self_iff (s : ClassShape) :
    s.trimmed = s ↔ ∀ segment ∈ s.segments, Text.trim segment = segment := by
  obtain ⟨name, qualname, segment, parent, capabilities, children⟩ := s
  simp only [trimmed, segments, List.forall_mem_cons, mk.injEq, true_and,
    trimmedAll_eq_self_iff children]

theorem trimmedAll_eq_self_iff (ss : List ClassShape) :
    trimmedAll ss = ss ↔ ∀ segment ∈ segmentsAll ss, Text.trim segment = segment := by
  cases ss with
  | nil => simp [trimmedAll, segmentsAll]
  | cons s rest =>
    simp only [trimmedAll, segmentsAll, List.forall_mem_append, List.cons.injEq,
      trimmed_eq_self_iff s, trimmedAll_eq_self_iff rest]
end

theorem trimmedAll_append (ss ss' : List ClassShape) :
    trimmedAll (ss ++ ss') = trimmedAll ss ++ trimmedAll ss' := by
  induction ss with
  | nil => rfl
  | cons s rest ih => simp only [List.cons_append, trimmedAll, ih]

end ClassShape

/-! ## Shapes of endpoints -/

/-- The contract that a capability extends: the first one among its base classes. -/
def Capability.verb? (c : Capability) : Option Verb :=
  c.supertypes.findSome? fun s => s.target.bind Verb.ofContract?

def Capability.shape (c : Capability) : CapabilityShape :=
  { name := c.name, qualname := c.qualname, verb := c.verb?, marked := c.marked }

mutual
/-- The shape of what was read from a source. -/
def Endpoint.shape : Endpoint → ClassShape
  | ⟨name, qualname, segment, fields, children, capabilities, _⟩ =>
    .mk name qualname segment ((fields.find? Field.isParent).map Field.name)
      (capabilities.map Capability.shape) (Endpoint.shapes children)

def Endpoint.shapes : List Endpoint → List ClassShape
  | [] => []
  | e :: rest => e.shape :: Endpoint.shapes rest
end

theorem Endpoint.shapes_append (es es' : List Endpoint) :
    Endpoint.shapes (es ++ es') = Endpoint.shapes es ++ Endpoint.shapes es' := by
  induction es with
  | nil => rfl
  | cons e rest ih => simp only [List.cons_append, Endpoint.shapes, ih]

/-! ## Shapes of definitions -/

namespace Api

variable {ε : Type}

def Definition.name : Definition ε → String
  | .mk name .. => name

def Definition.segment : Definition ε → Option String
  | .mk _ _ segment .. => segment

/-- The name under which a member is defined. -/
def Member.name : Member ε → String
  | .field name _ => name
  | .parent name => name
  | .nested definition => definition.name
  | .capability name .. => name
  | .attribute name _ => name

/-- The name of a field for the parent. -/
def Member.parent? : Member ε → Option String
  | .parent name => some name
  | _ => none

/-- The first field for the parent. -/
def parentOf (members : List (Member ε)) : Option String :=
  members.findSome? Member.parent?

/-- The shape of a capability: of what extends a contract or is marked. -/
def Member.capability? (path : String) : Member ε → Option CapabilityShape
  | .capability name verb marked =>
    if verb.isSome || marked then
      some { name, qualname := nestedName (some path) name, verb, marked }
    else none
  | _ => none

def capabilityShapes (path : String) (members : List (Member ε)) : List CapabilityShape :=
  members.filterMap (Member.capability? path)

mutual
/-- The shape of what is defined, if that is a resource. -/
def Definition.shape? (outer : Option String) : Definition ε → Option ClassShape
  | .mk name _ segment _ members =>
    segment.map fun s =>
      .mk name (nestedName outer name) s (parentOf members)
        (capabilityShapes (nestedName outer name) members)
        (childShapes (nestedName outer name) members)

/-- The shapes of the resources among the members. -/
def childShapes (path : String) : List (Member ε) → List ClassShape
  | [] => []
  | .nested definition :: rest =>
    (definition.shape? (some path)).toList ++ childShapes path rest
  | _ :: rest => childShapes path rest
end

theorem childShapes_cons (path : String) (m : Member ε) (members : List (Member ε)) :
    childShapes path (m :: members) = childShapes path [m] ++ childShapes path members := by
  cases m <;> simp [childShapes]

theorem capabilityShapes_cons (path : String) (m : Member ε) (members : List (Member ε)) :
    capabilityShapes path (m :: members)
      = (m.capability? path).toList ++ capabilityShapes path members := by
  unfold capabilityShapes
  rw [List.filterMap_cons]
  cases m.capability? path <;> rfl

theorem parentOf_cons (m : Member ε) (members : List (Member ε)) :
    parentOf (m :: members) = m.parent?.or (parentOf members) := by
  unfold parentOf
  rw [List.findSome?_cons]
  cases m.parent? <;> rfl

/-! ## Shapes of classes -/

def Registry.capabilityShape (r : Registry) (c : ClassInfo) : CapabilityShape :=
  { name := c.ref.name, qualname := c.ref.qualname, verb := r.contract? c, marked := c.marked }

/-- The class and those that are found by going through what is nested in it have the shape. -/
inductive Registry.Shows (r : Registry) : ClassInfo → ClassShape → Prop
  | intro {c : ClassInfo} {segment : String} {children : List ClassShape}
      (own : c.segment = some segment)
      (nested : List.Forall₂ (Registry.Shows r) (r.children c) children) :
      Registry.Shows r c (.mk c.ref.name c.ref.qualname segment
        ((r.parentField? c).map NodeField.name) ((r.capabilities c).map r.capabilityShape) children)

end Api

end Waymark
