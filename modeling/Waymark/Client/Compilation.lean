import Waymark.Client.ModuleName
import Waymark.Resolution

/-! # Compilation of endpoints into client units

    A root endpoint is walked in declaration order, each endpoint before what is nested
    in it, and every capability is resolved on the way.

    * An endpoint whose nested names clash, or that is nested and refers to no enclosing
      endpoint, is dropped with all below it.
    * Of the capabilities of one verb the first that resolves is taken.
    * A nested endpoint that offers nothing leaves no unit.

    Several roots are compiled into one output directory, so roots that would share a
    module name are all rejected (`compileAll`).
-/

namespace Waymark

/-- What makes an endpoint or a capability drop out, apart from resolution. -/
inductive Misfit where
  /-- Two nested classes have the same name. -/
  | duplicateName (name : String)
  /-- A nested endpoint has no field for the endpoint around it. -/
  | missingParent
  /-- An earlier capability of the endpoint has the verb already. -/
  | repeatedVerb (node : String) (verb : Verb) (first : String)
  /-- Other roots have the same module name. -/
  | sharedModule (others : List String)
  deriving Repr, DecidableEq

/-- The wording of a misfit. -/
def Misfit.message : Misfit → String
  | .duplicateName name => "duplicate nested name " ++ Text.quoted name ++ "; subtree skipped"
  | .missingParent => "nested resource declares no parent() field; subtree skipped"
  | .repeatedVerb node verb first =>
    node ++ " already declares a " ++ verb.name ++ " capability (" ++ first
      ++ "); capability skipped"
  | .sharedModule others =>
    "root name collides with " ++ ", ".intercalate others ++ " in the same output namespace"

/-- The diagnostic of a misfit. -/
def Misfit.diagnostic (scope : Scope) (qualname : String) (line : Int) (m : Misfit) :
    Diagnostic :=
  .error .configuration (scope.locate qualname) m.message (some line)

namespace Endpoint

/-- The simple names of what is nested in an endpoint. -/
def nestedNames (e : Endpoint) : List String :=
  e.children.map Endpoint.name ++ e.capabilities.map Capability.name

/-- The nested names that occur more than once, sorted. -/
def clashes (e : Endpoint) : List String :=
  Text.sortDistinct (e.nestedNames.filter fun name => e.nestedNames.count name > 1)

/-- Why an endpoint is dropped with all below it; nothing if it is kept. -/
def misfits (e : Endpoint) (isRoot : Bool) : List Misfit :=
  if e.clashes ≠ [] then e.clashes.map .duplicateName
  else if !isRoot && e.parentField.isNone then [.missingParent]
  else []

/-- Resolves capabilities in order and keeps the first operation of each verb; `taken`
    holds the verbs kept so far and the capabilities that have them. -/
def operations (scope : Scope) (e : Endpoint) (taken : List (Verb × String)) :
    List Capability → Report (List Operation)
  | [] => pure []
  | cap :: rest => do
    match ← cap.resolveReport scope e with
    | none => operations scope e taken rest
    | some op =>
      -- the first capability with a verb has it
      match taken.lookup op.verb with
      | some first =>
        Report.tell [(Misfit.repeatedVerb e.qualname op.verb first).diagnostic scope
          cap.qualname cap.line]
        operations scope e taken rest
      | none =>
        let later ← operations scope e ((op.verb, cap.qualname) :: taken) rest
        return op :: later

mutual
/-- The client unit of an endpoint. -/
def compile (scope : Scope) (isRoot : Bool) (e : Endpoint) : Report (Option ClientUnit) :=
  match e with
  | ⟨name, qualname, segment, fields, children, capabilities, line⟩ =>
    let e : Endpoint := ⟨name, qualname, segment, fields, children, capabilities, line⟩
    match e.misfits isRoot with
    | [] => do
      let ops ← e.operations scope [] capabilities
      let units ← compileNested scope children
      return some { name, qualname, segment, operations := ops, children := units }
    | misfits => do
      Report.tell (misfits.map (Misfit.diagnostic scope qualname line))
      return none

/-- The client units of nested endpoints, without those that offer nothing. -/
def compileNested (scope : Scope) : List Endpoint → Report (List ClientUnit)
  | [] => pure []
  | e :: rest => do
    let unit ← compile scope false e
    let later ← compileNested scope rest
    return (unit.filter ClientUnit.offersAnything).toList ++ later
end

end Endpoint

/-- An endpoint to be made into a client, with the scope of its module. -/
structure RootRequest where
  endpoint : Endpoint
  scope : Scope

namespace RootRequest

/-- The module that the client of the root would be written to. -/
def outputName (r : RootRequest) : String :=
  Client.moduleName r.endpoint.name

/-- The place of the root. -/
def location (r : RootRequest) : String :=
  r.scope.locate r.endpoint.qualname

/-- Compiles a root on its own. -/
def compile (r : RootRequest) : Report (Option ClientRoot) := do
  let unit ← r.endpoint.compile r.scope true
  return unit.map fun u => { module := r.scope.module, root := u, scope := r.scope }

/-- The other roots, before and after this one, that share its module name. -/
def rivals (r : RootRequest) (before after : List RootRequest) : List RootRequest :=
  (before ++ after).filter fun other => other.outputName == r.outputName

/-- Compiles a root among others: rejected if it has rivals. -/
def compileAmong (r : RootRequest) (before after : List RootRequest) :
    Report (Option ClientRoot) :=
  match r.rivals before after with
  | [] => r.compile
  | rivals => do
    Report.tell [(Misfit.sharedModule (rivals.map location)).diagnostic r.scope
      r.endpoint.qualname r.endpoint.line]
    return none

end RootRequest

/-- Compiles the roots of `pending`, of which those of `before` were passed already. -/
def compileAllFrom (before : List RootRequest) :
    List RootRequest → Report (List ClientRoot)
  | [] => pure []
  | r :: rest => do
    let root ← r.compileAmong before rest
    let later ← compileAllFrom (before ++ [r]) rest
    return root.toList ++ later

/-- Compiles several roots into one output directory. -/
def compileAll (roots : List RootRequest) : Report (List ClientRoot) :=
  compileAllFrom [] roots

end Waymark
