import Waymark.Display.Wrap

/-! # Outlines

    A tree of labels is shown with a label in each line and guides that lead from a label
    to those below it.
-/

namespace Waymark.Display

/-- A tree of labels. -/
inductive Outline where
  | node (label : List Char) (children : List Outline)

namespace Outline

/-- The guides before a label and before the lines that follow it: for the last of some
    siblings, and for the others. -/
def guides (isLast : Bool) : List Char × List Char :=
  if isLast then ("└── ".toList, "    ".toList) else ("├── ".toList, "│   ".toList)

/-- A label with a guide before each of its lines. -/
def guided (columns : Nat) (first later label : List Char) : List (List Char) :=
  match fit {} (columns - width first) label with
  | [] => []
  | line :: rest => (first ++ line) :: rest.map (later ++ ·)

mutual
/-- The lines of a tree, with what stands before its label and before all that follows. -/
def linesWith (columns : Nat) (first later : List Char) : Outline → List (List Char)
  | .node label children =>
    guided columns first later label ++ forestLines columns later children

/-- The lines of some siblings, with what stands before them. -/
def forestLines (columns : Nat) (before : List Char) : List Outline → List (List Char)
  | [] => []
  | o :: rest =>
    let (here, below) := guides rest.isEmpty
    linesWith columns (before ++ here) (before ++ below) o ++ forestLines columns before rest
end

/-- The lines of a tree in some columns. -/
def lines (columns : Nat) (o : Outline) : List (List Char) :=
  linesWith columns [] [] o

end Outline

end Waymark.Display
