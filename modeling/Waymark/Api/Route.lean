import Waymark.Api.Registry
import Waymark.Route
import Waymark.Text.Percent
import Waymark.Value.Text

/-! # Routes of nodes

    A node stands at the end of a chain of nodes that leads through the fields for the
    parents to a node that has no such field. Its route is made of the segments of the
    chain, and its query of the fields along the chain, both from the outermost node
    inwards.

    A placeholder of a segment, a name in braces, is filled with the text of what the
    node has under that name. A field that fills a placeholder of its own class takes no
    part in the query, and neither do fields for parents and fields that hold none. A
    field that holds several values is listed once for each.
-/

namespace Waymark.Api

/-- Why a value has no route or no query. -/
inductive RouteFault where
  /-- The value is no node of a resource. -/
  | notResource (typeName : String)
  /-- A placeholder that nothing fills. -/
  | noField (segment className name : String)
  /-- The value has no fields. -/
  | notNode
  /-- The class of the node has no segment of its own. -/
  | noSegment
  deriving Repr, DecidableEq

/-- The wording of a fault. -/
def RouteFault.message : RouteFault → String
  | .notResource typeName => typeName ++ " is not a resource"
  | .noField segment className name =>
    "path segment " ++ Text.quoted segment ++ " of " ++ className ++ " has no field "
      ++ Text.quoted name
  | .notNode => "must be called with a dataclass type or instance"
  | .noSegment => Text.quoted "__resource_segment__"

/-! ### Segments -/

/-- A piece of a segment. -/
inductive Piece where
  | text (cs : List Char)
  | placeholder (name : String)
  deriving Repr, DecidableEq

/-- May the character start the name of a placeholder? -/
def startsName (c : Char) : Bool :=
  c.isAlpha || c == '_'

/-- May the character stand in the name of a placeholder? -/
def inName (c : Char) : Bool :=
  c.isAlphanum || c == '_'

/-- The name of the placeholder in front, if there is one. -/
def placeholder? : List Char → Option (List Char)
  | '\x7b' :: c :: rest =>
    let name := (c :: rest).takeWhile inName
    if startsName c && ((c :: rest).dropWhile inName).head? == some '\x7d' then some name
    else none
  | _ => none

/-- Cuts a segment into pieces, where `skip` characters belong to a piece that was cut
    already. -/
def cut : (skip : Nat) → List Char → List Piece
  | _, [] => []
  | skip + 1, _ :: rest => cut skip rest
  | 0, c :: rest =>
    match placeholder? (c :: rest) with
    | some name => .placeholder (String.ofList name) :: cut (name.length + 1) rest
    | none => .text [c] :: cut 0 rest

/-- The pieces of a segment. -/
def pieces (segment : String) : List Piece :=
  cut 0 segment.toList

/-- The names of the placeholders of a segment. -/
def placeholders (segment : String) : List String :=
  (pieces segment).filterMap fun
    | .placeholder name => some name
    | .text _ => none

/-- The text of a value in a route or a query. -/
def routeText : Value → String
  | .bool b => if b then "true" else "false"
  | v => v.plain

/-! ### What nodes have -/

/-- The text of what a class attribute holds that marks the field for the parent. -/
def markText : String :=
  "Field(name=None,type=None,default=<dataclasses._MISSING_TYPE object at 0x0>,"
    ++ "default_factory=<dataclasses._MISSING_TYPE object at 0x0>,init=True,repr=True,hash=None,"
    ++ "compare=True,metadata=mappingproxy(\x7b'shapi_parent': True\x7d),"
    ++ "kw_only=<dataclasses._MISSING_TYPE object at 0x0>,_field_type=None)"

/-- The text of how the fields of a class were asked for. -/
def optionsText : String :=
  "_DataclassParams(init=True,repr=True,eq=True,order=False,unsafe_hash=False,frozen=True)"

/-- Stands for texts that list types of fields or type arguments, which are not followed. -/
def untold : String := "..."

/-- The methods that every class of nodes has of its own. -/
def ownMethods : List String :=
  ["__init__", "__repr__", "__eq__", "__hash__", "__setattr__", "__delattr__"]

/-- The operators that nodes have as all objects do. -/
def objectOperators : List String :=
  ["__ge__", "__getattribute__", "__gt__", "__le__", "__lt__", "__ne__", "__str__"]

/-- The methods that nodes have as all objects do. -/
def objectMethods : List String :=
  ["__dir__", "__format__", "__getstate__", "__reduce__", "__reduce_ex__", "__sizeof__"]

/-- The text of a method that every node has, if there is one of the name. -/
def methodText? (c : ClassInfo) (fields : List (String × Value)) (name : String) : Option String :=
  let node := (Value.node c.ref 0 fields).shown
  if ownMethods.contains name then
    some ("<bound method " ++ c.ref.qualname ++ "." ++ name ++ " of " ++ node ++ ">")
  else if name == "__post_init__" then
    some ("<bound method _install_parent_check.<locals>.__post_init__ of " ++ node ++ ">")
  else if objectOperators.contains name then
    some ("<method-wrapper " ++ Text.quoted name ++ " of " ++ c.ref.name ++ " object at 0x0>")
  else if objectMethods.contains name then
    some ("<built-in method " ++ name ++ " of " ++ c.ref.name ++ " object at 0x0>")
  else if name == "__new__" || name == "__init_subclass__" then
    some ("<built-in method " ++ name ++ " of type object at 0x0>")
  else if name == "__subclasshook__" then
    some ("<built-in method __subclasshook__ of " ++ c.ref.metaclass ++ " object at 0x0>")
  else none

/-- What a node has under a name if its class extends a contract. -/
def contractMember? (c : ClassInfo) : String → Option Value
  | "__abstractmethods__" => some (.set .frozen [])
  | "__parameters__" => some (.tuple [])
  | "__slots__" => some (.tuple [])
  | "__orig_bases__" => some (.text untold)
  | "__class_getitem__" =>
    some (.text ("<bound method Generic.__class_getitem__ of " ++ c.ref.shown ++ ">"))
  | "__init_subclass__" =>
    some (.text ("<bound method Generic.__init_subclass__ of " ++ c.ref.shown ++ ">"))
  | "_abc_impl" => some (.text "<_abc._abc_data object at 0x0>")
  | "_is_protocol" => some (.bool false)
  | _ => none

/-- What every node of a resource has under a name, whatever the class declares. -/
def nodeMember? (c : ClassInfo) (fields : List (String × Value)) : String → Option Value
  | "__class__" => some (.cls c.ref)
  | "__module__" => some (.text c.ref.module)
  | "__dict__" => some (Value.ofEntries (fields.map fun (n, v) => (.text n, v)))
  | "__weakref__" => some .none
  | "__match_args__" => some (.tuple [])
  | "__doc__" => some (.text untold)
  | "__dataclass_params__" => some (.text optionsText)
  | "__dataclass_fields__" => some (.text untold)
  | name => (methodText? c fields name).map .text

namespace Registry

/-- What the marks that were put on a class and those it extends leave under a name. -/
def markMember? (r : Registry) (c : ClassInfo) : String → Option Value
  | "__resource_segment__" => (r.lineage c).findSome? fun a => a.segment.map .text
  | "__resource_parent__" => (r.lineage c).findSome? fun a => a.parent.map .cls
  | "__resource_capability__" =>
    if (r.lineage c).any ClassInfo.marked then some (.bool true) else none
  | "__annotations__" =>
    if (r.lineage c).any fun a => !a.declared.isEmpty then some (.text untold) else none
  | _ => none

/-- What a node has under a name apart from fields and class attributes. -/
def innate? (r : Registry) (c : ClassInfo) (fields : List (String × Value)) (name : String) :
    Option Value :=
  ((r.markMember? c name).or
    (if (r.contract? c).isSome then contractMember? c name else none)).or
    (nodeMember? c fields name)

/-- What a node has under a name: a field, an attribute of its class, or what all nodes of such
    a class have. -/
def member? (r : Registry) (c : ClassInfo) (fields : List (String × Value)) (name : String) :
    Option Value :=
  match fields.lookup name with
  | some v => some v
  | none =>
    match r.attribute? c name with
    | some (.value v) => some v
    | some .parentMark => some (.text markText)
    | none => r.innate? c fields name

/-- The text of a piece of a segment. -/
def pieceText (r : Registry) (c : ClassInfo) (fields : List (String × Value)) (segment : String) :
    Piece → Except RouteFault String
  | .text cs => .ok (String.ofList cs)
  | .placeholder name =>
    match r.member? c fields name with
    | some v => .ok (Text.percentEncoded (routeText v))
    | none => .error (.noField segment c.ref.qualname name)

/-- The segment of a node with its placeholders filled. -/
def segmentText (r : Registry) (v : Value) : Except RouteFault String :=
  match r.classOf? v with
  | none => .error (.notResource v.typeName)
  | some c =>
    match c.segment, v with
    | some segment, .node _ _ fields => do
      return "".intercalate (← (pieces segment).mapM (r.pieceText c fields segment))
    | _, _ => .error (.notResource c.ref.qualname)

/-! ### Chains -/

/-- The field of a node that leads to its parent. -/
def upField? (r : Registry) (ref : ClassRef) : Option String :=
  ((r.info? ref.serial).bind r.parentField?).map NodeField.name

mutual
/-- The chain from a value outwards. It ends with the first value that has no field for
    a parent. -/
def chain (r : Registry) : Value → List Value
  | .node ref serial fields =>
    .node ref serial fields :: match r.upField? ref with
      | some name => chainIn r name fields
      | none => []
  | v => [v]

/-- The chain from the value of a field outwards. -/
def chainIn (r : Registry) (name : String) : List (String × Value) → List Value
  | [] => []
  | (n, v) :: rest => if n == name then chain r v else chainIn r name rest
end

/-- The route of a node. -/
def route (r : Registry) (v : Value) : Except RouteFault String := do
  return Route.ofSegments (← (r.chain v).mapM r.segmentText).reverse

/-! ### Queries -/

/-- The entries of a query that a field gives rise to. -/
def entriesOf (name : String) : Value → List (String × String)
  | .none => []
  | .list items => items.map fun v => (name, routeText v)
  | .tuple items => items.map fun v => (name, routeText v)
  | .set _ items => items.map fun v => (name, routeText v)
  | v => [(name, routeText v)]

/-- Has the value fields? -/
def hasFields (r : Registry) (v : Value) : Bool :=
  ((r.classOf? v).bind r.fields?).isSome

/-- The part of the query that a node of the chain contributes. -/
def queryPart (r : Registry) (v : Value) : Except RouteFault (List (String × String)) :=
  match r.classOf? v, v with
  | some c, .node _ _ values =>
    match c.segment with
    | none => .error .noSegment
    | some segment =>
      let used := placeholders segment
      .ok (((r.fields? c).getD []).flatMap fun f =>
        if f.isParent || used.contains f.name then []
        else entriesOf f.name ((values.lookup f.name).getD .none))
  | _, _ => .error .notNode

/-- The query of a node: names and texts in order. -/
def query (r : Registry) (v : Value) : Except RouteFault (List (String × String)) := do
  let nodes := (r.chain v).filter fun v => !v.isNone
  if nodes.all r.hasFields then
    return (← nodes.reverse.mapM r.queryPart).flatten
  else .error .notNode

end Registry

end Waymark.Api
