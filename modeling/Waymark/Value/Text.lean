import Waymark.Decimal.Shortest
import Waymark.Text.Quoted
import Waymark.Value.Basic

/-! # Texts of values

    `Value.shown` is the text of a value inside messages and inside other values: texts
    are quoted, and records and nodes list their fields. `Value.plain` is the text of a
    value on its own, as it stands in routes and queries: a text is itself, and a record
    is its fields alone.
-/

namespace Waymark

open Waymark.Decimal (Layout)

/-- Numbers are positional unless they are very large or very small; an exponent has a
    sign and two digits. -/
def Value.numberLayout : Layout where
  minPoint := -3
  maxPoint := 16
  plus := ['+']
  exponentDigits := 2
  infinity := "inf"
  nan := "nan"

/-- Texts with a comma between them. -/
def commaSeparated (parts : List String) : String :=
  ", ".intercalate parts

/-- Fields with their values. -/
def fieldTexts (fields : List (String × String)) : List String :=
  fields.map fun (name, value) => name ++ "=" ++ value

/-- The text of a class. -/
def ClassRef.shown (c : ClassRef) : String :=
  "<class '" ++ c.module ++ "." ++ c.qualname ++ "'>"

/-- The text of a tuple: a single item is followed by a comma. -/
def tupleText : List String → String
  | [item] => "(" ++ item ++ ",)"
  | items => "(" ++ commaSeparated items ++ ")"

/-- The text of a set. -/
def setText (kind : SetKind) (items : List String) : String :=
  let braces := "\x7b" ++ commaSeparated items ++ "\x7d"
  match kind, items with
  | .mutable, [] => "set()"
  | .mutable, _ => braces
  | .frozen, [] => "frozenset()"
  | .frozen, _ => "frozenset(" ++ braces ++ ")"

namespace Value

mutual
/-- The text of a value inside messages and other values. Integers have one here however long they
    are. Beyond 4300 digits there is none, so what is said of routes and queries is about values
    that have a text. -/
def shown : Value → String
  | .none => "None"
  | .bool b => if b then "True" else "False"
  | .int n => toString n
  | .float x => numberLayout.render x
  | .text s => Text.quoted s
  | .bytes octets => Text.quoteBytes octets
  | .list items => "[" ++ commaSeparated (shownItems items) ++ "]"
  | .tuple items => tupleText (shownItems items)
  | .set kind items => setText kind (shownItems items)
  | .dict entries => "\x7b" ++ commaSeparated (shownEntries entries) ++ "\x7d"
  | .record shape fields =>
    shape ++ "(" ++ commaSeparated (fieldTexts (shownFields fields)) ++ ")"
  | .sealed _ content => "Plain(" ++ content.shown ++ ")"
  | .cls ref => ref.shown
  | .node ref _ fields =>
    ref.qualname ++ "(" ++ commaSeparated (fieldTexts (shownFields fields)) ++ ")"
  | .inert ref _ => "<" ++ ref.module ++ "." ++ ref.qualname ++ " object at 0x0>"

/-- The texts of some values. -/
def shownItems : List Value → List String
  | [] => []
  | v :: rest => v.shown :: shownItems rest

/-- The texts of the entries of a dictionary. -/
def shownEntries : List (Value × Value) → List String
  | [] => []
  | (k, v) :: rest => (k.shown ++ ": " ++ v.shown) :: shownEntries rest

/-- The texts of the values of fields. -/
def shownFields : List (String × Value) → List (String × String)
  | [] => []
  | (name, v) :: rest => (name, v.shown) :: shownFields rest
end

/-- The text of a value on its own. -/
def plain : Value → String
  | .text s => s
  | .record _ fields => " ".intercalate (fieldTexts (shownFields fields))
  | v => v.shown

end Value

end Waymark
