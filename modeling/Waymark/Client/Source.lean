import Waymark.Client.Imports
import Waymark.Client.ModuleName
import Waymark.Route

/-! # Source text of a client module

    A client module is a header, the imports and one class, the root's, with the other
    units nested in it as in the tree. The class of a unit extends the unit's
    capabilities, documents its route, has a forwarding method for each operation and
    then the nested classes. The text depends on the compiled tree and the name of the
    transport module alone.
-/

namespace Waymark.Client

/-- Why a tree has no source text. -/
inductive SourceFault where
  /-- A `POST` operation has no parameter type. -/
  | missingParam
  deriving Repr, DecidableEq

/-- The wording of a fault. -/
def SourceFault.message : SourceFault → String
  | .missingParam => "POST binding without a param type"

/-- A generated module. -/
structure ClientModule where
  module : String
  root : String
  moduleName : String
  className : String
  source : String
  operationCount : Nat
  unitCount : Nat
  deriving Repr, DecidableEq

/-- The file that a module is written to. -/
def ClientModule.filename (m : ClientModule) : String :=
  m.moduleName ++ ".py"

/-- The name of the class for a root. -/
def className (rootName : String) : String :=
  rootName ++ "Client"

/-- Indentation by some steps. -/
def padding (depth : Nat) : String :=
  String.join (List.replicate depth indent)

/-- An argument list on one line, or with an argument per line if that line is long. -/
def argumentLines (pad head : String) (items : List String) (tail : String) : List String :=
  let line := pad ++ head ++ "(" ++ ", ".intercalate items ++ ")" ++ tail
  if line.length ≤ maxLine then [line]
  else (pad ++ head ++ "(") :: items.map (fun item => pad ++ indent ++ item ++ ",")
    ++ [pad ++ ")" ++ tail]

/-- The parameters of an operation's method and the arguments of its forwarding call. -/
def signature (op : Operation) : Except SourceFault (List String × List String) :=
  match op.verb with
  | .get =>
    .ok (["self", "node: " ++ op.requestType],
      ["node", op.requestType, op.resultType, op.errorType])
  | .post =>
    match op.paramType with
    | none => .error .missingParam
    | some param =>
      .ok (["self", "node: " ++ op.requestType, "param: " ++ param],
        ["node", "param", op.requestType, param, op.resultType, op.errorType])

/-- The method of an operation. -/
def operationLines (depth : Nat) (op : Operation) : Except SourceFault (List String) := do
  let (params, arguments) ← signature op
  let pad := padding depth
  let returns := responseType ++ "[" ++ op.resultType ++ ", " ++ op.errorType ++ "]"
  return argumentLines pad ("async def " ++ op.verb.method) params (" -> " ++ returns ++ ":")
    ++ argumentLines (pad ++ indent) ("return await " ++ primitive op.verb) arguments ""

/-- The first line of a class. Bases that have no text are left out with their brackets. -/
def classHeader (pad name : String) (ops : List Operation) : String :=
  let bases := ", ".intercalate (ops.map Operation.capability)
  if bases = "" then pad ++ "class " ++ name ++ ":"
  else pad ++ "class " ++ name ++ "(" ++ bases ++ "):"

/-- The line that documents a route. -/
def routeLine (pad route : String) : String :=
  pad ++ indent ++ "\"\"\"" ++ route ++ "\"\"\""

mutual
/-- The class of a unit that is called `name` and hangs at `route`. -/
def unitLines (depth : Nat) (route name : String) (u : ClientUnit) :
    Except SourceFault (List String) :=
  match u with
  | ⟨_, _, segment, operations, children⟩ => do
    let pad := padding depth
    let route := Route.join route segment
    let methods ← operations.mapM (operationLines (depth + 1))
    let nested ← nestedLines (depth + 1) route children
    return classHeader pad name operations :: routeLine pad route
      :: (methods.flatMap ("" :: ·) ++ nested)

/-- The classes nested in a unit, each after an empty line. -/
def nestedLines (depth : Nat) (route : String) : List ClientUnit →
    Except SourceFault (List String)
  | [] => .ok []
  | u :: rest => do
    let first ← unitLines depth route u.name u
    let later ← nestedLines depth route rest
    return "" :: first ++ later
end

/-- The lines before the imports. -/
def headerLines (module : String) : List String :=
  ["# Code generated by shapi from " ++ module ++ ". DO NOT EDIT.",
    "from __future__ import annotations",
    ""]

/-- The class section of a client. -/
def classSection (root : ClientUnit) : Except SourceFault (List String) :=
  unitLines 0 "" (className root.name) root

/-- Lines as a text that ends with a line end. -/
def textOfLines (lines : List String) : String :=
  "\n".intercalate lines ++ "\n"

theorem toList_textOfLines {lines : List String} (h : lines ≠ []) :
    (textOfLines lines).toList = lines.flatMap fun line => line.toList ++ ['\n'] := by
  unfold textOfLines
  induction lines with
  | nil => exact absurd rfl h
  | cons line rest ih =>
    cases rest with
    | nil => simp
    | cons next more =>
      rw [String.intercalate_cons_cons, String.append_assoc, String.append_assoc,
        String.toList_append, String.toList_append, ih (List.cons_ne_nil _ _)]
      exact (List.append_assoc line.toList ['\n'] _).symm

/-- The module generated for a root. -/
def generate (client : ClientRoot) (transport : String) : Except SourceFault ClientModule := do
  let root := client.root
  let ops := root.allOperations
  let classes ← classSection root
  return {
    module := client.module
    root := root.name
    moduleName := moduleName root.name
    className := className root.name
    source := textOfLines (headerLines client.module
      ++ importBlock (imports client.scope root.name ops transport) ++ ["", ""] ++ classes)
    operationCount := ops.length
    unitCount := root.unitCount }

end Waymark.Client
