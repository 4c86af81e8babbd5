import Waymark.Descriptor.Endpoint
import Waymark.Descriptor.Naming
import Waymark.Grammar.Printer
import Waymark.Grammar.Statement
import Waymark.Text.Order

/-! # Forward references

    A type may be written as a text that spells it, since it may not be defined yet. In
    the type arguments of contracts these texts are replaced by the expressions they
    spell, at any depth and texts inside texts too.

    * What stands inside `Literal[…]` are values, so texts stay texts there.
    * Of `Annotated[…]` only the first argument is a type.

    An argument in which a text spells no expression is kept as written, with a note of
    what is wrong.
-/

namespace Waymark

open Waymark.Grammar

/-- Why a text or an argument cannot be read. All but the first are no fault of the type:
    nothing of the module can be used then. -/
inductive SpellingFault where
  /-- It is no expression; `shown` is the part of it that tells so. -/
  | malformed (shown : String)
  /-- It holds half of a character. -/
  | surrogate
  /-- It holds the null character. -/
  | null
  /-- It has no text. -/
  | unprintable (fault : PrintFault)
  deriving Repr, DecidableEq

/-- The code points that stand for no character. -/
def isSurrogate (code : Nat) : Bool :=
  0xd800 ≤ code && code ≤ 0xdfff

/-- The expression that a text spells. -/
def expressionOfCodes (codes : List Nat) : Except SpellingFault Expr :=
  let codes := Text.dropAround Text.isBlankCode codes
  if codes.any isSurrogate then .error .surrogate
  else if codes.contains 0 then .error .null
  else
    match parseExpression (codes.map Char.ofNat) with
    | .ok e => .ok e
    | .error m => .error (.malformed m.shown)

/-- The qualified names of the form whose arguments are values. -/
def literalForms : List String := ["typing.Literal", "typing_extensions.Literal"]

/-- The qualified names of the form of which only the first argument is a type. -/
def annotatedForms : List String := ["typing.Annotated", "typing_extensions.Annotated"]

/-- Is the qualified name known and one of these? -/
def isOneOf (names : List String) (qualified : Option String) : Bool :=
  qualified.any names.contains

namespace Scope

variable (scope : Scope)

mutual
/-- Replaces the texts in an expression, where `spelled` gives the expression that a text
    stands for. -/
def inlineWith (spelled : List Nat → Except SpellingFault Expr) :
    Expr → Except SpellingFault Expr
  | .name id => .ok (.name id)
  | .literal (.text codes _) => spelled codes
  | .literal value => .ok (.literal value)
  | .apply .subscript [head, index] =>
    if isOneOf literalForms (scope.denoted head) then .ok (.apply .subscript [head, index])
    else if isOneOf annotatedForms (scope.denoted head) then
      match index with
      -- what comes behind the type is metadata, whose texts are no types
      | .apply .tuple (type :: metadata) => do
        let type ← inlineWith spelled type
        return .apply .subscript [head, .apply .tuple (type :: metadata)]
      | _ => .ok (.apply .subscript [head, index])
    else do
      let head ← inlineWith spelled head
      let index ← inlineWith spelled index
      return .apply .subscript [head, index]
  | .apply form parts => do
    let parts ← inlineAll spelled parts
    return .apply form parts

/-- Replaces the texts in some expressions. -/
def inlineAll (spelled : List Nat → Except SpellingFault Expr) :
    List Expr → Except SpellingFault (List Expr)
  | [] => .ok []
  | e :: rest => do
    let e ← inlineWith spelled e
    let rest ← inlineAll spelled rest
    return e :: rest
end

/-- The expression that a text stands for, with the texts in it replaced as well. A text
    inside it is shorter, so its length is fuel enough. -/
def inlineText : (fuel : Nat) → List Nat → Except SpellingFault Expr
  | 0, _ => .error (.malformed "")
  | fuel + 1, codes => do
    let e ← expressionOfCodes codes
    scope.inlineWith (inlineText fuel) e

/-- Replaces the texts in an expression. -/
def inlined (e : Expr) : Except SpellingFault Expr :=
  scope.inlineWith (fun codes => scope.inlineText (codes.length + 1) codes) e

end Scope

mutual
/-- Does a formatted text occur in the expression? -/
def Grammar.Expr.hasFormatted : Expr → Bool
  | .name _ => false
  | .literal _ => false
  | .apply form parts => form == .joined || anyFormatted parts

/-- Does a formatted text occur in one of the expressions? -/
def Grammar.anyFormatted : List Expr → Bool
  | [] => false
  | e :: rest => e.hasFormatted || anyFormatted rest
end

/-- A type argument as an expression on its own. A starred one or a slice is none. All
    others read back from their text as what they are; formatted texts, which may read
    back in other parts, are read from their text. -/
def standalone (e : Expr) : Except SpellingFault Expr :=
  match e.text with
  | .error fault => .error (.unprintable fault)
  | .ok text =>
    match e with
    | .apply .starred _ => .error (.malformed text)
    | .apply (.slice ..) _ => .error (.malformed text)
    | _ =>
      if e.hasFormatted then
        match parseExpression text.toList with
        | .ok e => .ok e
        | .error m => .error (.malformed m.shown)
      else .ok e

namespace TypeArgument

/-- The type that an argument spells, or why it spells none. -/
def typeOf (scope : Scope) (e : Expr) : Except SpellingFault Expr := do
  let e ← standalone e
  scope.inlined e

/-- What is noted of an argument with a text that spells no expression. -/
def malformedNote (shown : String) : String :=
  "forward reference is not an expression: " ++ Text.quoted shown

/-- A type argument of a contract. -/
def read (scope : Scope) (e : Expr) : TypeArgument :=
  match typeOf scope e with
  | .ok type =>
    { source := type.print false Level.test, names := Text.sortDistinct type.names }
  | .error (.malformed shown) =>
    { source := e.print false Level.test, problem := some (malformedNote shown) }
  | .error _ => { source := e.print false Level.test }

/-- Why nothing of a module with the argument can be used, if that is so. -/
def fatal? (scope : Scope) (e : Expr) : Option SpellingFault :=
  match typeOf scope e with
  | .ok type => type.fault?.map .unprintable
  | .error (.malformed _) => none
  | .error fault => some fault

end TypeArgument

end Waymark
