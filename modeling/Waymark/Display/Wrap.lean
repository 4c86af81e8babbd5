import Waymark.Display.Width
import Waymark.Text.Blank

/-! # Breaking lines

    A text is shown in a number of columns. Lines are broken between words, and the blanks
    after a word stay with it. A word that is wider than the columns is either cut into
    lines of its own or kept in one piece; what sticks out of a line in the end is cut off.
-/

namespace Waymark.Display

/-- What happens to what does not fit. -/
inductive Overflow where
  /-- Long words go on in the next line. -/
  | fold
  /-- Long lines end in an ellipsis. -/
  | ellipsis
  deriving Repr, DecidableEq

/-- The side at which lines stand. Free lines are not filled up with spaces. -/
inductive Side where
  | free
  | left
  | right
  deriving Repr, DecidableEq

/-- Spaces. -/
def spaces (n : Nat) : List Char :=
  List.replicate n ' '

/-- The text without blanks at its end. -/
def trimEnd (cs : List Char) : List Char :=
  (cs.reverse.dropWhile Text.isBlank).reverse

/-- The front of a text that fits into some columns. A character of which only half would
    fit is replaced by a space. -/
def cut (columns : Nat) : List Char → List Char
  | [] => []
  | c :: rest =>
    if charWidth c ≤ columns then c :: cut (columns - charWidth c) rest else spaces columns

/-- The word in front, with the blanks after it and those before it, and the rest. -/
def splitWord (cs : List Char) : List Char × List Char :=
  let before := cs.takeWhile Text.isBlank
  let rest := cs.dropWhile Text.isBlank
  let word := rest.takeWhile fun c => !Text.isBlank c
  let later := rest.dropWhile fun c => !Text.isBlank c
  (before ++ word ++ later.takeWhile Text.isBlank, later.dropWhile Text.isBlank)

/-- The words of a text of at most `fuel` characters. -/
def wordsWithin : (fuel : Nat) → List Char → List (List Char)
  | 0, _ => []
  | fuel + 1, cs =>
    if cs.all Text.isBlank then []
    else
      let (word, rest) := splitWord cs
      word :: wordsWithin fuel rest

/-- Cuts a word into pieces that fit into some columns, where `done` is the piece so far,
    last character first. -/
def chop (columns : Nat) (done : List Char) : List Char → List (List Char)
  | [] => [done.reverse]
  | c :: rest =>
    if width done + charWidth c ≤ columns then chop columns (c :: done) rest
    else done.reverse :: chop columns [c] rest

/-- Lines while they are filled: the full ones, last one first, and the open one. -/
structure Filling where
  full : List (List Char) := []
  current : List Char := []

namespace Filling

/-- Begins a new line, unless nothing was written yet. -/
def nextLine (f : Filling) (line : List Char) : Filling :=
  if f.full.isEmpty && f.current.isEmpty then { f with current := line }
  else { full := f.current :: f.full, current := line }

/-- Adds a word. -/
def add (columns : Nat) (overflow : Overflow) (f : Filling) (word : List Char) : Filling :=
  let needed := width (trimEnd word)
  if width f.current + needed ≤ columns then { f with current := f.current ++ word }
  else if needed ≤ columns then f.nextLine word
  else
    match overflow with
    | .fold => (chop columns [] word).foldl nextLine f
    | .ellipsis => f.nextLine word

/-- All lines. -/
def lines (f : Filling) : List (List Char) :=
  (f.current :: f.full).reverse

end Filling

/-- Breaks a line between its words. A line without words stays as it is. -/
def breakLine (columns : Nat) (overflow : Overflow) (line : List Char) : List (List Char) :=
  match wordsWithin line.length line with
  | [] => [line]
  | words => (words.foldl (Filling.add columns overflow) {}).lines

/-- Drops blanks at the end of a line that stand beyond the columns. -/
def dropBlanksBeyond (columns : Nat) (line : List Char) : List Char :=
  let blanks := line.length - (trimEnd line).length
  line.take (line.length - min blanks (line.length - columns))

/-- A line that fits. -/
def shorten (columns : Nat) (overflow : Overflow) (line : List Char) : List Char :=
  if width line ≤ columns then line
  else
    match overflow with
    | .fold => cut columns line
    | .ellipsis => cut (columns - 1) line ++ ['…']

/-- Puts a line at its side. -/
def placed (columns : Nat) (overflow : Overflow) (side : Side) (line : List Char) : List Char :=
  match side with
  | .free => shorten columns overflow line
  | .left =>
    let line := shorten columns overflow line
    line ++ spaces (columns - width line)
  | .right =>
    let line := shorten columns overflow (trimEnd line)
    spaces (columns - width line) ++ line

/-- The distance between tab stops. -/
def tabSize : Nat := 8

/-- Puts spaces in the place of tabs, where `column` columns stand in front. -/
def expandTabs (column : Nat) : List Char → List Char
  | [] => []
  | '\t' :: rest =>
    let gap := tabSize - column % tabSize
    spaces gap ++ expandTabs (column + gap) rest
  | c :: rest => c :: expandTabs (column + charWidth c) rest

/-- How a text is laid out in its columns. -/
structure Fit where
  overflow : Overflow := .fold
  side : Side := .free
  /-- May lines be broken? -/
  breaks : Bool := true
  deriving Repr, DecidableEq

/-- The lines in which a text is shown. -/
def fit (how : Fit) (columns : Nat) (cs : List Char) : List (List Char) :=
  (Text.splitWhere (· == '\n') cs).flatMap fun line =>
    let line := expandTabs 0 line
    let lines := if how.breaks then breakLine columns how.overflow line else [line]
    lines.map fun line => placed columns how.overflow how.side (dropBlanksBeyond columns line)

end Waymark.Display
