import Waymark.Client.Tree
import Waymark.Descriptor.Naming
import Waymark.Text.Identifier
import Waymark.Text.Order

/-! # Imports of a client module

    A client module imports the response type, the transport's functions for the verbs
    it uses, and every module-level name of the descriptor that it mentions: its root
    class and the names in the types of its operations. Each name is imported from where
    the descriptor has it; what the descriptor defines itself is imported from the
    descriptor. Names without a binding are defined everywhere and need no import.

    Imports of whole modules come first, then one statement per module that items are
    taken from, all in sorted order and without repetition.
-/

namespace Waymark.Client

/-- The module that defines the response type. -/
def responseModule : String := "shapi.api.response"

/-- The name of the response type. -/
def responseType : String := "ApiResponse"

/-- The widest line that a list of items is written on. -/
def maxLine : Nat := 88

/-- One step of indentation. -/
def indent : String := "    "

/-- The private name of a verb's transport function. -/
def primitive (v : Verb) : String :=
  "_" ++ v.method

/-- One thing that a module imports, with the name it goes by if that is another one. -/
inductive Import where
  /-- A whole module. -/
  | whole (path : String) (newName : Option String)
  /-- One name out of a module. -/
  | item (module name : String) (newName : Option String)
  deriving Repr, DecidableEq

namespace Import

/-- A name, followed by the new name it gets. -/
def renamed (name : String) : Option String → String
  | none => name
  | some other => name ++ " as " ++ other

/-- The statement that imports a whole module. -/
def statement? : Import → Option String
  | .whole path newName => some ("import " ++ renamed path newName)
  | .item .. => none

/-- The module an item is taken from. -/
def itemModule? : Import → Option String
  | .whole .. => none
  | .item module _ _ => some module

/-- How an item taken from the module is written. -/
def itemOf? (wanted : String) : Import → Option String
  | .whole .. => none
  | .item module name newName => if module = wanted then some (renamed name newName) else none

end Import

/-- What a client imports to have a name mean what it means in the descriptor. -/
def importOf (scope : Scope) (name : String) : Option Import :=
  (scope.lookup name).map fun b =>
    match b.kind with
    | .importedModule =>
      .whole b.originModule (if name = topName b.originModule then none else some name)
    | .imported =>
      .item b.originModule (b.originName.getD "None")
        (if b.originName = some name then none else some name)
    | _ => .item scope.module name none

/-- The verbs that occur among some operations. -/
def verbsOf (ops : List Operation) : List Verb :=
  Verb.all.filter fun v => ops.any fun op => op.verb == v

/-- The descriptor names that a client mentions. -/
def mentioned (rootName : String) (ops : List Operation) : List String :=
  rootName :: ops.flatMap Operation.names

/-- Everything that a client imports. -/
def imports (scope : Scope) (rootName : String) (ops : List Operation)
    (transport : String) : List Import :=
  Import.item responseModule responseType none
    :: (verbsOf ops).map (fun v => .item transport v.method (some (primitive v)))
    ++ (mentioned rootName ops).filterMap (importOf scope)

/-- The statement that takes items from a module, with an item per line if it is long. -/
def itemStatement (module : String) (items : List String) : List String :=
  let line := "from " ++ module ++ " import " ++ ", ".intercalate items
  if line.length ≤ maxLine then [line]
  else ("from " ++ module ++ " import (") :: items.map (fun item => indent ++ item ++ ",")
    ++ [")"]

/-- The import statements for some imports. -/
def importBlock (all : List Import) : List String :=
  Text.sortDistinct (all.filterMap Import.statement?)
    ++ (Text.sortDistinct (all.filterMap Import.itemModule?)).flatMap fun module =>
        itemStatement module (Text.sortDistinct (all.filterMap (Import.itemOf? module)))

end Waymark.Client
