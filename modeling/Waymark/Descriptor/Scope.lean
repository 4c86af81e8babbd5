/-! # Module scope

    The module-level names of a descriptor module and where each of them comes from.
    A later binding of a name replaces an earlier one.
-/

namespace Waymark

/-- How a name was bound at module level. -/
inductive BindingKind where
  | localClass
  | localFunction
  | assigned
  | typeVariable
  | imported
  | importedModule
  deriving Repr, DecidableEq

/-- The word for a kind of binding. -/
def BindingKind.word : BindingKind → String
  | .localClass => "class"
  | .localFunction => "function"
  | .assigned => "assign"
  | .typeVariable => "typevar"
  | .imported => "import"
  | .importedModule => "module"

/-- All kinds of binding. -/
def BindingKind.all : List BindingKind :=
  [.localClass, .localFunction, .assigned, .typeVariable, .imported, .importedModule]

/-- The kind that a word names. -/
def BindingKind.ofWord? (word : String) : Option BindingKind :=
  BindingKind.all.find? fun k => k.word == word

/-- A module-level name and its origin: the module it comes from and its name there.
    An imported module is an origin without a name inside it. -/
structure Binding where
  name : String
  kind : BindingKind
  originModule : String
  originName : Option String := none
  deriving Repr, DecidableEq

/-- The module-level names of one descriptor module, in the order of first binding. -/
structure Scope where
  module : String
  bindings : List (String × Binding) := []
  deriving Repr, DecidableEq

/-- Puts the value at its key: in place when the key is known, else at the end. -/
def putAt {α : Type} (key : String) (value : α) : List (String × α) → List (String × α)
  | [] => [(key, value)]
  | (k, v) :: rest =>
    if k = key then (k, value) :: rest else (k, v) :: putAt key value rest

theorem lookup_putAt {α : Type} (key other : String) (value : α) (xs : List (String × α)) :
    (putAt key value xs).lookup other =
      if other = key then some value else xs.lookup other := by
  induction xs with
  | nil =>
    by_cases h : other = key
    · simp [putAt, h]
    · simp [putAt, h, List.lookup_cons, beq_eq_false_iff_ne.2 h]
  | cons head rest ih =>
    obtain ⟨k, v⟩ := head
    by_cases hk : k = key
    · subst hk
      by_cases h : other = k
      · simp [putAt, h]
      · simp [putAt, h, List.lookup_cons, beq_eq_false_iff_ne.2 h]
    · by_cases h : other = k
      · subst h
        simp [putAt, hk]
      · simp [putAt, hk, List.lookup_cons, beq_eq_false_iff_ne.2 h, ih]

namespace Scope

/-- What a name is bound to. -/
def lookup (s : Scope) (name : String) : Option Binding :=
  s.bindings.lookup name

/-- The place of something declared in the module. -/
def locate (s : Scope) (qualname : String) : String :=
  s.module ++ ":" ++ qualname

/-- Binds a name. -/
def bind (s : Scope) (b : Binding) : Scope :=
  { s with bindings := putAt b.name b s.bindings }

@[simp] theorem module_bind (s : Scope) (b : Binding) : (s.bind b).module = s.module := rfl

theorem lookup_bind (s : Scope) (b : Binding) (name : String) :
    (s.bind b).lookup name = if name = b.name then some b else s.lookup name :=
  lookup_putAt b.name name b s.bindings

end Scope

end Waymark
