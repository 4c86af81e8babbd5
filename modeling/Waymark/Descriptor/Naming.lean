import Waymark.Descriptor.Scope
import Waymark.Grammar.Tree
import Waymark.Text.Identifier

/-! # What names mean in a descriptor module

    The scope of a descriptor module is what its statements bind, in order: imports,
    classes, functions and assignments to plain names. Only statements that stand at
    the outermost level count.

    `Scope.denoted` finds the qualified name that an expression denotes, as far as the
    imports tell. The library recognises classes and decorators by their qualified
    names, however they were imported.
-/

namespace Waymark

open Waymark.Grammar

/-- The first part of a dotted name. -/
def topName (path : String) : String :=
  (Text.dottedParts path).headD ""

/-- What stands before the first dot is the first part. -/
theorem topName_append_dot {name : String} (h : '.' ∉ name.toList) (rest : String) :
    topName (name ++ "." ++ rest) = name := by
  have hfront : ∀ c ∈ name.toList, (c == '.') = false := by
    intro c hc
    exact beq_eq_false_iff_ne.mpr fun hdot => h (hdot ▸ hc)
  unfold topName Text.dottedParts
  rw [String.toList_append, String.toList_append, List.append_assoc]
  show ((Text.splitWhere (· == '.') (name.toList ++ '.' :: rest.toList)).map String.ofList).headD "" = name
  rw [Text.splitWhere_append_cons hfront rfl]
  simp

/-- A text, unless it is empty. -/
def nonEmpty (s : String) : Option String :=
  if s = "" then none else some s

/-- The module that a `from` statement takes names from. Each leading dot after the first
    one drops a part of the package; the package of a module that is no package itself is
    the module without its last part. -/
def importedModule (module : String) (isPackage : Bool) (level : Nat)
    (written : Option String) : Option String :=
  if level = 0 then written
  else
    let parts := Text.dottedParts module
    let package := if isPackage then parts else parts.dropLast
    let drop := level - 1
    if drop > package.length then none
    else nonEmpty (".".intercalate (package.take (package.length - drop) ++ written.toList))

/-- The functions whose result is a type variable. -/
def typeVariableMakers : List String := ["TypeVar", "ParamSpec", "TypeVarTuple"]

/-- Does the expression make a type variable? -/
def makesTypeVariable : Expr → Bool
  | .apply (.call ..) (.name f :: _) => typeVariableMakers.contains f
  | .apply (.call ..) (.apply (.attribute f) _ :: _) => typeVariableMakers.contains f
  | _ => false

namespace Scope

/-- Binds what `import` brings: without a new name that is the outermost package, which
    keeps the whole path so that its submodule stays loaded. -/
def bindModule (s : Scope) (item : Alias) : Scope :=
  s.bind { name := item.newName.getD (topName item.name), kind := .importedModule
           originModule := item.name }

/-- Binds what `from … import` brings. A star binds nothing that could be known here. -/
def bindItem (s : Scope) (module : String) (item : Alias) : Scope :=
  if item.name = "*" then s
  else s.bind { name := item.newName.getD item.name, kind := .imported, originModule := module
                originName := some item.name }

/-- Binds a name that the module defines itself. -/
def bindOwn (s : Scope) (kind : BindingKind) (name : String) : Scope :=
  s.bind { name, kind, originModule := s.module, originName := some name }

/-- Binds the targets of an assignment that are plain names. -/
def bindTargets (s : Scope) (kind : BindingKind) (targets : List Expr) : Scope :=
  (targets.filterMap Expr.name?).foldl (fun s name => s.bindOwn kind name) s

/-- Binds what a statement binds. -/
def bindStatement (isPackage : Bool) (s : Scope) : Statement → Scope
  | .importModules items => items.foldl bindModule s
  | .importItems level written items =>
    match importedModule s.module isPackage level written with
    | none => s
    | some module => items.foldl (fun s item => s.bindItem module item) s
  | .classDef name _ _ _ _ => s.bindOwn .localClass name
  | .functionDef name _ _ => s.bindOwn .localFunction name
  | .assign targets value =>
    s.bindTargets (if makesTypeVariable value then .typeVariable else .assigned) targets
  | .annotate target _ value =>
    s.bindTargets (if value.any makesTypeVariable then .typeVariable else .assigned) [target]
  | .compound _ | .simple => s

/-- The scope of a module. -/
def ofStatements (module : String) (isPackage : Bool) (body : List Statement) : Scope :=
  body.foldl (bindStatement isPackage) { module }

/-- The qualified name that a binding stands for. -/
def qualifiedName (b : Binding) : String :=
  match b.kind with
  | .importedModule =>
    if b.name = topName b.originModule then b.name else b.originModule
  | _ => b.originModule ++ "." ++ b.originName.getD "None"

/-- The qualified name that an expression denotes: a bound name, an attribute of
    something that has a qualified name, or a call of it. -/
def denoted (s : Scope) : Expr → Option String
  | .name id => (s.lookup id).map qualifiedName
  | .apply (.attribute name) (value :: _) =>
    ((s.denoted value).bind nonEmpty).map fun base => base ++ "." ++ name
  | .apply (.call ..) (function :: _) => s.denoted function
  | _ => none

end Scope

end Waymark
