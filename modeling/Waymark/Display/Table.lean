import Waymark.Display.Wrap

/-! # Tables

    A table has a heavy head and a light body. Every column is as wide as its widest cell,
    with a space on both sides. If that is wider than the screen, first the widest columns
    that may be broken are narrowed, then all columns alike.
-/

namespace Waymark.Display

/-- A column: its title and how its cells are laid out. -/
structure Column where
  title : String
  side : Side := .left
  /-- May the cells be broken into lines? -/
  breaks : Bool := true
  deriving Repr, DecidableEq

/-- A table. -/
structure Table where
  columns : List Column
  rows : List (List (List Char))

namespace Table

/-- The spaces beside the text of a cell. -/
def padding : Nat := 2

/-- Does the character end a line where the width of a text is measured? -/
def endsMeasuredLine (c : Char) : Bool :=
  [0xa, 0x1c, 0x1d, 0x1e, 0x85, 0x2028, 0x2029].contains c.toNat

/-- The width of the widest line of a text. -/
def textWidth (cs : List Char) : Nat :=
  ((Text.splitWhere endsMeasuredLine cs).map width).foldl max 0

/-- The width that the cells of a column ask for, of at most `limit`. -/
def wanted (limit : Nat) (cells : List (List Char)) : Nat :=
  min limit ((cells.map textWidth).foldl max 0 + padding)

/-- The width of several columns together. -/
def total (widths : List Nat) : Nat :=
  widths.foldr (· + ·) 0

/-! ### Narrowing -/

/-- Half of a share goes to the even neighbour. -/
def roundedShare (amount parts : Nat) : Nat :=
  let quotient := amount / parts
  let twice := 2 * (amount % parts)
  if twice < parts then quotient
  else if twice > parts then quotient + 1
  else quotient + quotient % 2

/-- Takes an amount away from the columns that take part, in equal shares of at most
    `most`. -/
def reduce (amount parts : Nat) : List (Nat × Bool × Nat) → List Nat
  | [] => []
  | (most, takesPart, columnWidth) :: rest =>
    if takesPart && most > 0 then
      let share := min most (roundedShare amount parts)
      (columnWidth - share) :: reduce (amount - share) (parts - 1) rest
    else columnWidth :: reduce amount parts rest

/-- The number of columns that take part. -/
def participants (columns : List (Nat × Bool × Nat)) : Nat :=
  (columns.filter fun c => c.2.1 && c.1 > 0).length

/-- Narrows the widest columns that may be broken until the table fits or they are as
    narrow as the next ones, at most `fuel` times. -/
def collapse (breaks : List Bool) (limit : Nat) : (fuel : Nat) → List Nat → List Nat
  | 0, widths => widths
  | fuel + 1, widths =>
    let excess := total widths - limit
    if excess = 0 then widths
    else
      let breakable := (widths.zip breaks).filterMap fun (w, b) => if b then some w else none
      let widest := breakable.foldl max 0
      -- the widest columns give way until they are no wider than the next ones
      let next := (breakable.filter (· != widest)).foldl max 0
      if breakable.isEmpty || widest = next then widths
      else
        let columns := (widths.zip breaks).map fun (w, b) =>
          (min excess (widest - next), b && w == widest, w)
        collapse breaks limit fuel (reduce excess (participants columns) columns)

/-- Narrows columns to a limit. -/
def narrowed (breaks : List Bool) (limit : Nat) (widths : List Nat) : List Nat :=
  let widths := collapse breaks limit (total widths) widths
  let excess := total widths - limit
  if excess = 0 then widths
  else
    let columns := widths.map fun w => (w, true, w)
    reduce excess (participants columns) columns

/-! ### Layout -/

/-- The cells of each column, its title first. -/
def cellsByColumn (t : Table) : List (List (List Char)) :=
  t.columns.zipIdx.map fun (column, i) =>
    column.title.toList :: t.rows.filterMap fun row => row[i]?

/-- The width of each column on a screen of the given width. -/
def columnWidths (t : Table) (screen : Nat) : List Nat :=
  let limit := screen - (t.columns.length + 1)
  let cells := t.cellsByColumn
  let widths := cells.map (wanted limit)
  if total widths ≤ limit then widths
  else (narrowed (t.columns.map Column.breaks) limit widths).zipWith wanted cells

/-- The characters of a border: at the left, between columns, at the right. -/
structure Border where
  left : Char
  middle : Char
  right : Char

/-- Joins the cells of a line. -/
def Border.join (b : Border) (cells : List (List Char)) : List Char :=
  b.left :: [b.middle].intercalate cells ++ [b.right]

/-- A line between rows. -/
def ruler (b : Border) (line : Char) (widths : List Nat) : List Char :=
  b.join (widths.map fun w => List.replicate w line)

/-- The lines of a cell. There are none if there is no room for them. -/
def cellLines (column : Column) (columnWidth : Nat) (cell : List Char) : List (List Char) :=
  if columnWidth ≤ padding then []
  else
    let how : Fit := { overflow := .ellipsis, side := column.side, breaks := column.breaks }
    (fit how (columnWidth - padding) cell).map fun line => ' ' :: line ++ [' ']

/-- The lines of a row. Cells with fewer lines are filled up below. -/
def rowLines (b : Border) (columns : List Column) (widths : List Nat) (row : List (List Char)) :
    List (List Char) :=
  let cells := (columns.zip (widths.zip row)).map fun (column, w, cell) =>
    (w, cellLines column w cell)
  let height := (cells.map fun (_, lines) => lines.length).foldl max 1
  (List.range height).map fun i =>
    b.join (cells.map fun (w, lines) => lines[i]?.getD (spaces w))

/-- The lines of a table on a screen of the given width. -/
def lines (t : Table) (screen : Nat) : List (List Char) :=
  let widths := t.columnWidths screen
  let titles := t.columns.map fun column => column.title.toList
  ruler ⟨'┏', '┳', '┓'⟩ '━' widths
    :: rowLines ⟨'┃', '┃', '┃'⟩ t.columns widths titles
    ++ ruler ⟨'┡', '╇', '┩'⟩ '━' widths
    :: t.rows.flatMap (rowLines ⟨'│', '│', '│'⟩ t.columns widths)
    ++ [ruler ⟨'└', '┴', '┘'⟩ '─' widths]

end Table

end Waymark.Display
