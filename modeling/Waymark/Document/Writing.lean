import Waymark.Client.Source
import Waymark.Client.Tree
import Waymark.Descriptor.Endpoint
import Waymark.Diagnostic
import Waymark.Wire.Json

/-! # Documents for results

    What the generator reads and makes, as JSON documents for other programs. Every
    field of a record has a member, null when it holds nothing.
-/

namespace Waymark

open Waymark.Wire (Json)

namespace Wire.Json

/-- An array with the documents of some things. -/
def ofList {α : Type} (f : α → Json) (xs : List α) : Json :=
  .array (xs.map f)

/-- A document, or null for nothing. -/
def ofOption {α : Type} (f : α → Json) : Option α → Json
  | none => .null
  | some a => f a

/-- An array of texts. -/
def ofTexts (xs : List String) : Json :=
  ofList .text xs

/-- The lines of a text. -/
def ofLines (s : String) : Json :=
  ofTexts ((Text.splitWhere (· == '\n') s.toList).map String.ofList)

/-- A text, or null. -/
def ofText? (s : Option String) : Json :=
  ofOption .text s

/-- A number, or null. -/
def ofInt? (n : Option Int) : Json :=
  ofOption .int n

end Wire.Json

/-- The document for a diagnostic. -/
def Diagnostic.toJson (d : Diagnostic) : Json :=
  .object [("severity", .text d.severity.word), ("kind", .text d.concern.word),
    ("location", .text d.location), ("message", .text d.message), ("line", .ofInt? d.line),
    ("slot", .ofInt? d.slot), ("render", .text d.render)]

/-- The document for a binding. -/
def Binding.toJson (b : Binding) : Json :=
  .object [("name", .text b.name), ("kind", .text b.kind.word),
    ("origin_module", .text b.originModule), ("origin_name", .ofText? b.originName)]

/-- The document for a type argument. -/
def TypeArgument.toJson (a : TypeArgument) : Json :=
  .object [("source", .text a.source), ("names", .ofTexts a.names),
    ("problem", .ofText? a.problem)]

/-- The document for a base class. -/
def Supertype.toJson (s : Supertype) : Json :=
  .object [("display", .text s.display), ("target", .ofText? s.target),
    ("args", .ofOption (.ofList TypeArgument.toJson) s.arguments)]

/-- The document for a capability. -/
def Capability.toJson (c : Capability) : Json :=
  .object [("name", .text c.name), ("qualname", .text c.qualname),
    ("supertypes", .ofList Supertype.toJson c.supertypes), ("marked", .bool c.marked),
    ("line", .int c.line)]

/-- The document for a field. -/
def Field.toJson (f : Field) : Json :=
  .object [("name", .text f.name), ("annotation", .text f.typeText),
    ("is_parent", .bool f.isParent), ("has_default", .bool f.hasDefault)]

namespace Endpoint

mutual
/-- The document for an endpoint, with all that is nested in it. -/
def toJson (e : Endpoint) : Json :=
  match e with
  | ⟨name, qualname, segment, fields, children, capabilities, line⟩ =>
    .object [("name", .text name), ("qualname", .text qualname), ("segment", .text segment),
      ("fields", .ofList Field.toJson fields), ("children", .array (toJsonAll children)),
      ("capabilities", .ofList Capability.toJson capabilities), ("line", .int line),
      ("parent_field", .ofText? ((fields.find? Field.isParent).map Field.name))]

/-- The documents for some endpoints. -/
def toJsonAll : List Endpoint → List Json
  | [] => []
  | e :: rest => e.toJson :: toJsonAll rest
end

end Endpoint

/-- The document for a descriptor; its bindings are sorted by name. -/
def Descriptor.toJson (d : Descriptor) : Json :=
  let sorted := d.scope.bindings.mergeSort fun a b => a.1 ≤ b.1
  .object [("module", .text d.module),
    ("bindings", .ofList (fun b : String × Binding => b.2.toJson) sorted),
    ("roots", .ofList Endpoint.toJson d.roots)]

/-- The document for an operation. -/
def Operation.toJson (op : Operation) : Json :=
  .object [("node", .text op.node), ("capability", .text op.capability),
    ("verb", .text op.verb.name), ("request_type", .text op.requestType),
    ("param_type", .ofText? op.paramType), ("result_type", .text op.resultType),
    ("error_type", .text op.errorType), ("names", .ofTexts op.names)]

namespace ClientUnit

mutual
/-- The document for a client unit, with all units below it. -/
def toJson (u : ClientUnit) : Json :=
  match u with
  | ⟨name, qualname, segment, operations, children⟩ =>
    .object [("name", .text name), ("qualname", .text qualname), ("segment", .text segment),
      ("bindings", .ofList Operation.toJson operations),
      ("children", .array (toJsonAll children))]

/-- The documents for some units. -/
def toJsonAll : List ClientUnit → List Json
  | [] => []
  | u :: rest => u.toJson :: toJsonAll rest
end

end ClientUnit

/-- The document for a client. -/
def ClientRoot.toJson (c : ClientRoot) : Json :=
  .object [("module", .text c.module), ("root", c.root.toJson),
    ("operation_count", .int c.root.operationCount),
    ("walk", .ofList (fun u : ClientUnit => .text u.qualname) c.root.walk),
    ("has_output", .bool c.root.offersAnything)]

/-- The document for a generated module. -/
def Client.ClientModule.toJson (m : Client.ClientModule) : Json :=
  .object [("module", .text m.module), ("root", .text m.root),
    ("module_name", .text m.moduleName), ("filename", .text m.filename),
    ("class_name", .text m.className), ("operations", .int m.operationCount),
    ("units", .int m.unitCount), ("source", .ofLines m.source)]

end Waymark
