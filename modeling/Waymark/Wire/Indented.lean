import Waymark.Wire.Json

/-! # Indented JSON

    A document for people to read: every item and every member stands on a line of its own,
    two spaces further in than what holds it. Empty arrays and objects stay on one line.
-/

namespace Waymark.Wire.Json

open Waymark.Decimal (Layout)

/-- A line end and the blanks in front of the next line. -/
def lineStart (depth : Nat) : String :=
  "\n" ++ String.ofList (List.replicate (2 * depth) ' ')

/-- Texts on lines of their own between brackets. -/
def bracketed (opening closing : String) (depth : Nat) (inner : List String) : String :=
  if inner.isEmpty then opening ++ closing
  else opening ++ lineStart (depth + 1) ++ ("," ++ lineStart (depth + 1)).intercalate inner
    ++ lineStart depth ++ closing

mutual
/-- The document as text, where its first line stands at the given depth. -/
def renderIndented (layout : Layout) (depth : Nat) : Json → String
  | .array items => bracketed "[" "]" depth (indentedItems layout depth items)
  | .object members => bracketed "\x7b" "\x7d" depth (indentedMembers layout depth members)
  | j => j.render layout

/-- The items of an array as texts. -/
def indentedItems (layout : Layout) (depth : Nat) : List Json → List String
  | [] => []
  | j :: rest => j.renderIndented layout (depth + 1) :: indentedItems layout depth rest

/-- The members of an object as texts. -/
def indentedMembers (layout : Layout) (depth : Nat) : List (String × Json) → List String
  | [] => []
  | (name, j) :: rest =>
    (renderText name ++ ": " ++ j.renderIndented layout (depth + 1))
      :: indentedMembers layout depth rest
end

end Waymark.Wire.Json
