import Waymark.Descriptor.ForwardReference
import Waymark.Contract
import Waymark.Diagnostic

/-! # Reading descriptor modules

    A class that is decorated with `resource` is an endpoint. Its annotated names are
    fields, its nested endpoints are children, and every other nested class that is
    marked or extends a contract is a capability.

    * The path segment is the text given to the decorator. An endpoint whose segment is
      no literal text is reported and skipped with all that is nested in it.
    * Class variables are no fields.
    * A field whose value is a call of `parent` refers to the enclosing endpoint.

    Some modules cannot be read at all, for instance when a segment holds half of a
    character (`ReadFault`). Reading itself is total: `Descriptor.ofStatements` gives the
    descriptor, and `moduleFault?` says whether it may be used.
-/

namespace Waymark

open Waymark.Grammar

/-! ### Markers -/

/-- The qualified name of the decorator of endpoints. -/
def endpointMarker : String := "shapi.api.resources.resource"

/-- The qualified name of the function that declares a field for the enclosing endpoint. -/
def parentMarker : String := "shapi.api.resources.parent"

/-- The qualified name of the decorator of capabilities. -/
def capabilityMarker : String := "shapi.api.resources.capability"

/-- The names under which the annotation of class variables is known. -/
def classVariableForms : List String := ["typing.ClassVar", "ClassVar"]

/-- Why a module cannot be read. -/
inductive ReadFault where
  /-- The source holds the null character. -/
  | nullCharacter
  /-- A forward reference or an annotation cannot be spelled or read. -/
  | spelling (fault : SpellingFault)
  /-- A path segment holds half of a character. No check of the reader says so, but the record of
      an endpoint is a validated one, whose texts must be texts that can be encoded. -/
  | segment
  /-- A class that should be an endpoint is none. -/
  | undecorated (qualname : String)
  deriving Repr, DecidableEq

/-- The wording of a fault; a few have none. -/
def ReadFault.message : ReadFault → Option String
  | .nullCharacter | .spelling .null => some "source code string cannot contain null bytes"
  | .spelling (.unprintable fault) => some fault.message
  | .undecorated qualname => some (qualname ++ " is not decorated with resource()")
  | .spelling (.malformed _) | .spelling .surrogate | .segment => none

/-! ### Decorators and segments -/

/-- The decorator that makes a class an endpoint: the first that qualifies. -/
def endpointDecorator (scope : Scope) (decorators : List Expr) : Option Expr :=
  decorators.find? fun d => scope.denoted d == some endpointMarker

/-- Is a class with these decorators an endpoint? -/
def isEndpointClass (scope : Scope) (decorators : List Expr) : Bool :=
  (endpointDecorator scope decorators).isSome

/-- The argument that gives the path: the first positional one, else the keyword `path`. -/
def pathArgument : Expr → Option Expr
  | .apply (.call positional keywords) (_ :: arguments) =>
    if positional > 0 then arguments.head?
    else (keywords.zip (arguments.drop positional)).lookup (some "path")
  | _ => none

/-- The code points of the segment that a decorator gives, without blanks at the ends. -/
def segmentCodes (decorator : Expr) : Option (List Nat) := do
  let argument ← pathArgument decorator
  let codes ← argument.text?
  return Text.dropAround Text.isBlankCode codes

/-! ### Fields -/

/-- The expression that an annotation is a form of. -/
def typeHead : Expr → Expr
  | .apply .subscript (head :: _) => head
  | e => e

/-- Does an annotation declare a class variable? -/
def isClassVariable (scope : Scope) (typeExpr : Expr) : Bool :=
  isOneOf classVariableForms (scope.denoted (typeHead typeExpr))
    || (typeExpr.print false Level.test).startsWith "ClassVar"

/-- Is the value a call of `parent`? -/
def isParentCall (scope : Scope) : Expr → Bool
  | .apply (.call ..) (function :: _) => scope.denoted function == some parentMarker
  | _ => false

/-- The field that an annotated name declares, if it declares one. -/
def Field.read? (scope : Scope) (name : String) (typeExpr : Expr) (value : Option Expr) :
    Option Field :=
  if isClassVariable scope typeExpr then none
  else
    let isParent := value.any (isParentCall scope)
    some { name, typeText := typeExpr.print false Level.test, isParent
           hasDefault := value.isSome && !isParent }

/-! ### Capabilities -/

/-- The type arguments in brackets after a base class. -/
def indexArguments : Expr → List Expr
  | .apply .tuple items => items
  | e => [e]

/-- A base class of a capability. -/
def Supertype.read (scope : Scope) (base : Expr) : Supertype :=
  let display := base.print false Level.test
  match base with
  | .apply .subscript [head, index] =>
    { display, target := scope.denoted head
      arguments := some ((indexArguments index).map (TypeArgument.read scope)) }
  | _ => { display, target := scope.denoted base }

/-- Does a base class denote a contract? -/
def Supertype.isContract (s : Supertype) : Bool :=
  (s.target.bind Verb.ofContract?).isSome

/-- The capability that a nested class declares, if it declares one. -/
def Capability.read? (scope : Scope) (path name : String) (bases decorators : List Expr)
    (line : Nat) : Option Capability :=
  let marked := decorators.any fun d => scope.denoted d == some capabilityMarker
  let supertypes := bases.map (Supertype.read scope)
  if marked || supertypes.any Supertype.isContract then
    some { name, qualname := path ++ name, supertypes, marked, line }
  else none

/-! ### Endpoints -/

/-- What the body of an endpoint declares, in order. -/
structure Members where
  fields : List Field := []
  children : List Endpoint := []
  capabilities : List Capability := []

/-- The diagnostic for a class, which names its line. -/
def classDiagnostic (scope : Scope) (qualname : String) (line : Nat) (message : String) :
    Diagnostic :=
  .error .configuration (scope.locate qualname) message (some line)

/-- Reported when fields disagree on which of them refers to the enclosing endpoint. -/
def parentDiagnostics (scope : Scope) (qualname : String) (line : Nat) (fields : List Field) :
    List Diagnostic :=
  let parents := (fields.filter Field.isParent).map Field.name
  if parents.length > 1 then
    [classDiagnostic scope qualname line
      ("more than one parent() field: " ++ ", ".intercalate parents)]
  else []

mutual
/-- The endpoint that a class declares, where `path` is the qualified name of what it is
    nested in, followed by a dot. Nothing if the class is no endpoint, or one whose
    segment cannot be known. -/
def Endpoint.read (scope : Scope) (path : String) : Statement → Report (Option Endpoint)
  | .classDef name _ decorators body line =>
    match endpointDecorator scope decorators with
    | none => pure none
    | some decorator =>
      let qualname := path ++ name
      match segmentCodes decorator with
      -- nothing of the class is kept, not even what is nested in it
      | none => do
        Report.tell [classDiagnostic scope qualname line
          "resource path must be a string literal; subtree skipped"]
        return none
      | some codes => do
        let members ← Members.read scope (qualname ++ ".") body
        Report.tell (parentDiagnostics scope qualname line members.fields)
        return some { name, qualname, segment := ofCodes codes
                      fields := members.fields, children := members.children
                      capabilities := members.capabilities, line }
  | _ => pure none

/-- What a class body declares. -/
def Members.read (scope : Scope) (path : String) : List Statement → Report Members
  | [] => pure {}
  | s :: rest => do
    match s with
    | .annotate (.name name) typeExpr value =>
      let later ← Members.read scope path rest
      return { later with
        fields := (Field.read? scope name typeExpr value).toList ++ later.fields }
    | .classDef name bases decorators body line =>
      if isEndpointClass scope decorators then
        let child ← Endpoint.read scope path (.classDef name bases decorators body line)
        let later ← Members.read scope path rest
        return { later with children := child.toList ++ later.children }
      else
        let later ← Members.read scope path rest
        return { later with
          capabilities := (Capability.read? scope path name bases decorators line).toList
            ++ later.capabilities }
    | _ => Members.read scope path rest
end

/-- The outermost endpoints of a module. -/
def readRoots (scope : Scope) : List Statement → Report (List Endpoint)
  | [] => pure []
  | s :: rest => do
    let root ← Endpoint.read scope "" s
    let later ← readRoots scope rest
    return root.toList ++ later

/-! ### Modules that cannot be read -/

/-- The fault of an expression that has no text. -/
def printFault? (e : Expr) : Option ReadFault :=
  e.fault?.map fun f => .spelling (.unprintable f)

/-- The fault of a base class. -/
def baseFault? (scope : Scope) (base : Expr) : Option ReadFault :=
  (printFault? base).or
    (match base with
    | .apply .subscript [_, index] =>
      (indexArguments index).findSome? fun e => (TypeArgument.fatal? scope e).map .spelling
    | _ => none)

mutual
/-- Why a class cannot be read as an endpoint, if that is so. -/
def classFault? (scope : Scope) : Statement → Option ReadFault
  | .classDef _ _ decorators body _ =>
    match (endpointDecorator scope decorators).bind segmentCodes with
    | none => none
    | some codes =>
      (bodyFault? scope body).or (if codes.any isSurrogate then some .segment else none)
  | _ => none

/-- Why a class body cannot be read, if that is so. -/
def bodyFault? (scope : Scope) : List Statement → Option ReadFault
  | [] => none
  | s :: rest =>
    (match s with
    | .annotate (.name _) typeExpr _ => printFault? typeExpr
    | .classDef name bases decorators body line =>
      if isEndpointClass scope decorators then
        classFault? scope (.classDef name bases decorators body line)
      else bases.findSome? (baseFault? scope)
    | _ => none).or (bodyFault? scope rest)
end

/-- Why a module cannot be read, if that is so. -/
def moduleFault? (scope : Scope) (body : List Statement) : Option ReadFault :=
  body.findSome? (classFault? scope)

/-! ### Descriptors -/

namespace Descriptor

/-- The descriptor that the statements of a module make up. -/
def ofStatements (module : String) (isPackage : Bool) (body : List Statement) :
    Report Descriptor := do
  let scope := Scope.ofStatements module isPackage body
  let roots ← readRoots scope body
  return { module, scope, roots }

/-- Reported when a source does not parse, with what is said about that. -/
def unparsable (module complaint : String) (m : Malformed) : Diagnostic :=
  .error .configuration module ("descriptor source does not parse: " ++ complaint) (some m.line)

/-- Reads the source of a module. If it does not parse, `complaint` is what is said about
    it. -/
def ofSource (module : String) (isPackage : Bool) (source : String)
    (complaint : String := "invalid syntax") : Except ReadFault (Report (Option Descriptor)) :=
  if source.toList.contains '\x00' then .error .nullCharacter
  else
    match parseModule source.toList with
    | .error m => .ok { value := none, diagnostics := [unparsable module complaint m] }
    | .ok body =>
      match moduleFault? (Scope.ofStatements module isPackage body) body with
      | some fault => .error fault
      | none => .ok do
        let d ← ofStatements module isPackage body
        return some d

end Descriptor

/-- Reads one class as an endpoint that is nested in `path`. -/
def readClass (scope : Scope) (path : String) (s : Statement) :
    Except ReadFault (Report (Option Endpoint)) :=
  match s with
  | .classDef name _ decorators _ _ =>
    if !isEndpointClass scope decorators then .error (.undecorated (path ++ name))
    else
      match classFault? scope s with
      | some fault => .error fault
      | none => .ok (Endpoint.read scope path s)
  | _ => .ok (pure none)

end Waymark
