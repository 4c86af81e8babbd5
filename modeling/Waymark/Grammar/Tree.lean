import Waymark.Decimal.Binary64

/-! # Expressions and statements of descriptor modules

    A descriptor module is Python source that is read and never run. This module holds
    the tree it is read into.

    * An expression is a name, a literal, or a `Form` applied to its parts. The form
      says what kind of expression it is and what its parts stand for; every operation
      that treats all parts alike needs one case for all forms.
    * A statement keeps what the reading of descriptors asks for: imports, classes,
      functions, assignments and the statements inside compound ones.
-/

namespace Waymark.Grammar

open Waymark.Decimal (Binary64)

/-- The value of a literal. Texts are lists of code points, since an escape may name a
    surrogate; `marked` is the prefix `u`, which is kept. -/
inductive Literal where
  | none
  | true
  | false
  | ellipsis
  | integer (value : Nat)
  | float (value : Binary64)
  | imaginary (value : Binary64)
  | text (codes : List Nat) (marked : Bool)
  | bytes (values : List Nat)
  deriving Repr, DecidableEq

/-- Operators on one operand. -/
inductive UnaryOp where
  | invert
  | not
  | plus
  | minus
  deriving Repr, DecidableEq

/-- Operators on two operands. -/
inductive BinaryOp where
  | bitOr
  | bitXor
  | bitAnd
  | shiftLeft
  | shiftRight
  | add
  | subtract
  | multiply
  | matrixMultiply
  | divide
  | floorDivide
  | modulo
  | power
  deriving Repr, DecidableEq

/-- The two short-circuit operators, which take two operands or more. -/
inductive BoolOp where
  | and
  | or
  deriving Repr, DecidableEq

/-- Comparisons. -/
inductive CompareOp where
  | equal
  | unequal
  | less
  | lessEqual
  | greater
  | greaterEqual
  | same
  | notSame
  | member
  | notMember
  deriving Repr, DecidableEq

/-- What a comprehension makes. -/
inductive Comprehension where
  | list
  | set
  | generator
  | dictionary
  deriving Repr, DecidableEq

/-- One `for` of a comprehension: whether it is asynchronous, and its number of
    conditions. -/
structure Clause where
  isAsync : Bool
  conditions : Nat
  deriving Repr, DecidableEq

/-- The parameters of a lambda. The default values are parts of the expression:
    `defaults` of them belong to the last positional parameters, and each keyword-only
    parameter says whether it has one. -/
structure Parameters where
  positionalOnly : List String := []
  positional : List String := []
  defaults : Nat := 0
  variadic : Option String := none
  keywordOnly : List (String × Bool) := []
  keywordVariadic : Option String := none
  deriving Repr, DecidableEq

/-- The kinds of compound expression, each with the order of its parts. -/
inductive Form where
  /-- Parts: the value. -/
  | attribute (name : String)
  /-- Parts: the value and the index. -/
  | subscript
  /-- Parts: the function, the positional arguments and the values of the keywords, of
      which those without a name are unpacked mappings. -/
  | call (positional : Nat) (keywords : List (Option String))
  | tuple
  | list
  | set
  /-- Parts: the keys of the entries that have one, then all values; an entry without a
      key is an unpacked mapping. -/
  | dictionary (keyed : List Bool)
  | unary (op : UnaryOp)
  | binary (op : BinaryOp)
  | boolean (op : BoolOp)
  /-- Parts: one more than there are operators. -/
  | comparison (ops : List CompareOp)
  /-- Parts: the condition, the value and the other value. -/
  | conditional
  /-- Parts: the defaults of keyword-only parameters, those of positional ones, the body. -/
  | lambda (params : Parameters)
  /-- Parts: the element (for a dictionary: key and value), then for each clause its
      target, its source and its conditions. -/
  | comprehension (kind : Comprehension) (clauses : List Clause)
  /-- Parts: the target and the value. -/
  | named
  | await
  /-- Parts: the value, if there is one. -/
  | yield
  | yieldFrom
  | starred
  /-- Parts: those of lower bound, upper bound and step that are there. -/
  | slice (lower upper step : Bool)
  /-- A formatted text. Parts: literal texts and replacement fields. -/
  | joined
  /-- A replacement field. Parts: the value and, if there is one, the format, which is a
      formatted text. -/
  | replacement (conversion : Option Char)
  deriving Repr, DecidableEq

/-- Expressions. -/
inductive Expr where
  | name (id : String)
  | literal (value : Literal)
  | apply (form : Form) (parts : List Expr)
  deriving Repr

namespace Expr

/-- Is the expression a text literal? -/
def text? : Expr → Option (List Nat)
  | .literal (.text codes _) => some codes
  | _ => none

/-- Is the expression a name? -/
def name? : Expr → Option String
  | .name id => some id
  | _ => none

mutual
/-- The names that occur in an expression, in order and with repetitions. -/
def names : Expr → List String
  | .name id => [id]
  | .literal _ => []
  | .apply _ parts => namesAll parts

/-- The names that occur in some expressions. -/
def namesAll : List Expr → List String
  | [] => []
  | e :: rest => names e ++ namesAll rest
end

end Expr

/-- One item of an import: its dotted name and the name it goes by, if another one. -/
structure Alias where
  name : String
  newName : Option String := none
  deriving Repr, DecidableEq

/-- Statements. -/
inductive Statement where
  /-- `import a.b as c, d` -/
  | importModules (items : List Alias)
  /-- `from ..a import b as c`, with the number of leading dots. -/
  | importItems (level : Nat) (module : Option String) (items : List Alias)
  | classDef (name : String) (bases decorators : List Expr) (body : List Statement) (line : Nat)
  | functionDef (name : String) (decorators : List Expr) (body : List Statement)
  /-- `a = b = value` -/
  | assign (targets : List Expr) (value : Expr)
  /-- `target: type = value` -/
  | annotate (target typeExpr : Expr) (value : Option Expr)
  /-- Any other compound statement; `body` holds the statements of all its suites. -/
  | compound (body : List Statement)
  /-- Any other simple statement. -/
  | simple
  deriving Repr

end Waymark.Grammar
