import Waymark.Client.Tree
import Waymark.Descriptor.Endpoint
import Waymark.Value.Reading

/-! # Documents as input

    Descriptors and clients can also be given as JSON documents. Members that a record
    does not name are passed over, members that are missing take their defaults, and
    scalars are read leniently.
-/

namespace Waymark

open Waymark.Wire (Json)

namespace Wire.Json

/-- The members of an object. -/
def members? : Json → Option (List (String × Json))
  | .object members => some members
  | _ => none

/-- The items of an array. -/
def items? : Json → Option (List Json)
  | .array items => some items
  | _ => none

/-- A text. -/
def text? : Json → Option String
  | .text s => some s
  | _ => none

/-- A whole number, read leniently. -/
def int? (j : Json) : Option Int :=
  match Kind.int.ofJson? j with
  | some (.int n) => some n
  | _ => none

/-- A truth value, read leniently. -/
def bool? (j : Json) : Option Bool :=
  match Kind.bool.ofJson? j with
  | some (.bool b) => some b
  | _ => none

/-- The things that the items of an array stand for. -/
def list? {α : Type} (f : Json → Option α) (j : Json) : Option (List α) := do
  (← j.items?).mapM f

/-- A list of texts. -/
def texts? (j : Json) : Option (List String) :=
  j.list? text?

/-- What a document stands for that may be null. -/
def nullable? {α : Type} (f : Json → Option α) : Json → Option (Option α)
  | .null => some none
  | j => (f j).map some

/-- A member of an object. -/
def member? (j : Json) (name : String) : Option Json := do
  lastOf? name (← j.members?)

/-- What a member stands for that must be there. -/
def required? {α : Type} (j : Json) (name : String) (f : Json → Option α) : Option α := do
  f (← j.member? name)

/-- What a member stands for, or the default if it is missing. -/
def given? {α : Type} (j : Json) (name : String) (f : Json → Option α) (default : α) :
    Option α :=
  match j.member? name with
  | none => some default
  | some m => f m

end Wire.Json

/-- Reads a binding. -/
def Binding.ofJson? (j : Json) : Option Binding := do
  let word ← j.required? "kind" Json.text?
  return { name := ← j.required? "name" Json.text?
           kind := ← BindingKind.ofWord? word
           originModule := ← j.required? "origin_module" Json.text?
           originName := ← j.given? "origin_name" (Json.nullable? Json.text?) none }

/-- Reads a scope. -/
def Scope.ofJson? (j : Json) : Option Scope := do
  let bindings ← j.given? "bindings" (fun b => do
    (← b.members?).mapM fun (name, binding) => return (name, ← Binding.ofJson? binding)) []
  return { module := ← j.required? "module" Json.text?, bindings }

/-- Reads a type argument. -/
def TypeArgument.ofJson? (j : Json) : Option TypeArgument := do
  return { source := ← j.required? "source" Json.text?
           names := ← j.given? "names" Json.texts? []
           problem := ← j.given? "problem" (Json.nullable? Json.text?) none }

/-- Reads a base class. -/
def Supertype.ofJson? (j : Json) : Option Supertype := do
  return { display := ← j.required? "display" Json.text?
           target := ← j.given? "target" (Json.nullable? Json.text?) none
           arguments := ← j.given? "args"
             (Json.nullable? (Json.list? TypeArgument.ofJson?)) none }

/-- Reads a capability. -/
def Capability.ofJson? (j : Json) : Option Capability := do
  return { name := ← j.required? "name" Json.text?
           qualname := ← j.required? "qualname" Json.text?
           supertypes := ← j.given? "supertypes" (Json.list? Supertype.ofJson?) []
           marked := ← j.given? "marked" Json.bool? false
           line := ← j.given? "line" Json.int? 0 }

/-- Reads a field. -/
def Field.ofJson? (j : Json) : Option Field := do
  return { name := ← j.required? "name" Json.text?
           typeText := ← j.required? "annotation" Json.text?
           isParent := ← j.given? "is_parent" Json.bool? false
           hasDefault := ← j.given? "has_default" Json.bool? false }

namespace Endpoint

mutual
/-- Reads an endpoint, with all that is nested in it. -/
def ofJson? : Json → Option Endpoint
  | .object members => do
    let j : Json := .object members
    let children ← childrenOfJson? members
    return { name := ← j.required? "name" Json.text?
             qualname := ← j.required? "qualname" Json.text?
             segment := ← j.required? "segment" Json.text?
             fields := ← j.given? "fields" (Json.list? Field.ofJson?) []
             children := children.getD []
             capabilities := ← j.given? "capabilities" (Json.list? Capability.ofJson?) []
             line := ← j.given? "line" Json.int? 0 }
  | _ => none

/-- Reads the endpoints of the last member `children`. -/
def childrenOfJson? : List (String × Json) → Option (Option (List Endpoint))
  | [] => some none
  | (name, j) :: rest => do
    match ← childrenOfJson? rest with
    | some children => return some children
    | none => if name == "children" then return some (← itemsOfJson? j) else return none

/-- Reads an array of endpoints. -/
def itemsOfJson? : Json → Option (List Endpoint)
  | .array items => listOfJson? items
  | _ => none

/-- Reads some endpoints. -/
def listOfJson? : List Json → Option (List Endpoint)
  | [] => some []
  | j :: rest => do return (← ofJson? j) :: (← listOfJson? rest)
end

end Endpoint

/-- Reads a verb. -/
def Verb.ofJson? (j : Json) : Option Verb := do
  let word ← j.text?
  Verb.all.find? fun v => v.name == word

/-- Reads an operation. -/
def Operation.ofJson? (j : Json) : Option Operation := do
  return { node := ← j.required? "node" Json.text?
           capability := ← j.required? "capability" Json.text?
           verb := ← j.required? "verb" Verb.ofJson?
           requestType := ← j.required? "request_type" Json.text?
           paramType := ← j.given? "param_type" (Json.nullable? Json.text?) none
           resultType := ← j.required? "result_type" Json.text?
           errorType := ← j.required? "error_type" Json.text?
           names := ← j.given? "names" Json.texts? [] }

namespace ClientUnit

mutual
/-- Reads a client unit, with all units below it. -/
def ofJson? : Json → Option ClientUnit
  | .object members => do
    let j : Json := .object members
    let children ← childrenOfJson? members
    return { name := ← j.required? "name" Json.text?
             qualname := ← j.required? "qualname" Json.text?
             segment := ← j.required? "segment" Json.text?
             operations := ← j.given? "bindings" (Json.list? Operation.ofJson?) []
             children := children.getD [] }
  | _ => none

/-- Reads the units of the last member `children`. -/
def childrenOfJson? : List (String × Json) → Option (Option (List ClientUnit))
  | [] => some none
  | (name, j) :: rest => do
    match ← childrenOfJson? rest with
    | some children => return some children
    | none => if name == "children" then return some (← itemsOfJson? j) else return none

/-- Reads an array of units. -/
def itemsOfJson? : Json → Option (List ClientUnit)
  | .array items => listOfJson? items
  | _ => none

/-- Reads some units. -/
def listOfJson? : List Json → Option (List ClientUnit)
  | [] => some []
  | j :: rest => do return (← ofJson? j) :: (← listOfJson? rest)
end

end ClientUnit

/-- Reads a client. -/
def ClientRoot.ofJson? (j : Json) : Option ClientRoot := do
  return { module := ← j.required? "module" Json.text?
           root := ← j.required? "root" ClientUnit.ofJson?
           scope := ← j.required? "scope" Scope.ofJson? }

end Waymark
