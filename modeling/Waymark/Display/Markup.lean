import Waymark.Display.Emoji
import Waymark.Display.Style
import Waymark.Grammar.Constant
import Waymark.Text.Quoted

/-! # Markup

    Texts for the screen are marked up with tags in brackets, such as `[bold]`. A tag that
    begins with a slash closes the last open one of the same style, or just the last open one
    if it is only a slash. Backslashes in front of a tag stand for half as many of them, and
    an odd one keeps the tag from being one.

    * A tag names a style. What stands behind an equals sign belongs to the style, too.
    * A tag that begins with an at sign names something that is done when the text is chosen.
      Its arguments behind the equals sign must be constants, if the tag is ever closed.
    * The styles of all other tags are looked up when the text is shown. It does not matter
      whether there are such styles, but the numbers of colours must be numbers.

    `plain` is what is left to read of a marked-up text that is shown in one piece. `escape`
    makes a text that reads as the given one, emoji apart.
-/

namespace Waymark.Display

/-- Why a text is not well marked up. -/
inductive MarkupFault where
  /-- A tag closes one that is not open. -/
  | notOpen (name : String)
  /-- The arguments of a tag are no constants. -/
  | arguments (text : List Char)
  | style (fault : NoNumber)
  deriving Repr, DecidableEq

/-- What is said about a text that is not well marked up. -/
def MarkupFault.message : MarkupFault → String
  | .notOpen name => "closing tag '[/" ++ name ++ "]' doesn't match any open tag"
  | .arguments text => "error parsing " ++ Text.quoted (String.ofList text)
  | .style fault => fault.message

/-- A part of a marked-up text. -/
inductive Piece where
  | plain (text : List Char)
  | tag (content : List Char)
  deriving Repr, DecidableEq

/-- Can the character begin a tag? -/
def beginsTag (c : Char) : Bool :=
  c.isLower || c == '#' || c == '/' || c == '@'

/-- The content of the tag whose opening bracket was read, and the rest. -/
def tag? (cs : List Char) : Option (List Char × List Char) :=
  match cs with
  | [] => none
  | c :: _ =>
    if beginsTag c then
      match cs.dropWhile fun c => c != '[' && c != ']' with
      | ']' :: after => some (cs.takeWhile fun c => c != '[' && c != ']', after)
      | _ => none
    else none

/-- A tag in front of a text with the backslashes before it: their number, the content of
    the tag, and the rest. -/
def tagAhead? (cs : List Char) : Option (Nat × List Char × List Char) :=
  match cs.dropWhile (· == '\\') with
  | '[' :: rest =>
    (tag? rest).map fun (content, after) => ((cs.takeWhile (· == '\\')).length, content, after)
  | _ => none

/-- Joins a character to the plain text in front. -/
def joinChar (c : Char) : List Piece → List Piece
  | .plain text :: rest => .plain (c :: text) :: rest
  | pieces => .plain [c] :: pieces

/-- What a tag and the backslashes before it stand for. -/
def piecesOfTag (backslashes : Nat) (content : List Char) : List Piece :=
  let literal := List.replicate (backslashes / 2) '\\'
  (if literal.isEmpty then [] else [.plain literal])
    ++ [if backslashes % 2 = 1 then .plain ('[' :: content ++ [']']) else .tag content]

/-- The pieces of a text of at most `fuel` characters. An empty plain text keeps those of a
    tag apart from what stands in front. -/
def piecesWithin : (fuel : Nat) → List Char → List Piece
  | 0, _ => []
  | _ + 1, [] => []
  | fuel + 1, c :: rest =>
    match tagAhead? (c :: rest) with
    | some (backslashes, content, after) =>
      .plain [] :: piecesOfTag backslashes content ++ piecesWithin fuel after
    | none =>
      match (c :: rest).takeWhile (· == '\\') with
      | [] => joinChar c (piecesWithin fuel rest)
      | run => run.foldr joinChar (piecesWithin fuel ((c :: rest).dropWhile (· == '\\')))

/-- The pieces of a marked-up text. -/
def pieces (cs : List Char) : List Piece :=
  piecesWithin cs.length cs

/-! ### Tags -/

/-- A tag that is open: the normal form of its name, and what stands behind the equals sign. -/
structure Tag where
  name : String
  parameters : List Char := []
  deriving Repr, DecidableEq

/-- The name of a tag: what stands before an equals sign. -/
def tagName (content : List Char) : List Char :=
  content.takeWhile (· != '=')

/-- What stands behind the equals sign. -/
def tagParameters (content : List Char) : List Char :=
  (content.dropWhile (· != '=')).drop 1

/-- The normal form of the name of a tag. -/
def comparedName (name : List Char) : Except MarkupFault String :=
  (Style.normalForm name).mapError .style

/-- The tag that its content opens. -/
def Tag.ofContent (content : List Char) : Except MarkupFault Tag := do
  return { name := ← comparedName (tagName content), parameters := tagParameters content }

/-- The style of a tag. -/
def Tag.style (t : Tag) : List Char :=
  t.name.toList ++ if t.parameters.isEmpty then [] else ' ' :: t.parameters

/-- Does a tag name something to be done? -/
def Tag.isAction (t : Tag) : Bool :=
  t.name.toList.head? == some '@'

/-- The arguments among the parameters of a tag: what stands in parentheses behind a name,
    or else all of it. -/
def argumentsOf (parameters : List Char) : List Char :=
  let behind := parameters.dropWhile fun c => Text.isWordChar c || c == '.'
  if behind.isEmpty then ['(', ')']
  else if behind.head? == some '(' && behind.getLast? == some ')' && !behind.contains '\n' then
    behind
  else parameters

/-- Are the arguments constants? -/
def areConstants (arguments : List Char) : Bool :=
  let text := arguments.dropWhile fun c => c == ' ' || c == '\t'
  !text.contains '\x00' &&
    match Grammar.parseExpression text with
    | .ok e => e.constant?.isSome
    | .error _ => false

/-- The styles to be looked up when a tag is closed. -/
def Tag.closed (t : Tag) : Except MarkupFault (List (List Char)) :=
  if t.isAction then
    let arguments := argumentsOf (Text.dropAround Text.isBlank t.parameters)
    if areConstants arguments then .ok [] else .error (.arguments arguments)
  else .ok [t.style]

/-- Closes a tag: takes the last one of the style from the open ones, which are listed last one
    first. -/
def close (name : List Char) (opened : List Tag) : Except MarkupFault (Tag × List Tag) := do
  if name.all Text.isBlank then
    match opened with
    | [] => throw (.notOpen "")
    | t :: rest => return (t, rest)
  else
    let compared ← comparedName name
    match opened.find? (·.name == compared) with
    | some t => return (t, opened.erase t)
    | none => throw (.notOpen compared)

/-! ### Reading -/

/-- Removes the backslashes before opening brackets. -/
def bareBrackets : List Char → List Char
  | '\\' :: '[' :: rest => '[' :: bareBrackets rest
  | c :: rest => c :: bareBrackets rest
  | [] => []

/-- The controls that are not put on a screen: bell, backspace, vertical tab, form feed and
    carriage return. -/
def isDropped (c : Char) : Bool :=
  [7, 8, 11, 12, 13].contains c.toNat

/-- What is read of a marked-up text: the text itself, and the styles in it. -/
structure Marked where
  text : List Char := []
  styles : List (List Char) := []
  deriving Repr, DecidableEq

/-- Reads some pieces, where the tags of `opened` are open. What is still open in the end
    applies to the rest of the text. -/
def markedOfPieces (opened : List Tag) : List Piece → Except MarkupFault Marked
  | [] => .ok { styles := opened.map Tag.style }
  | .plain text :: rest => do
    let m ← markedOfPieces opened rest
    return { m with text := withEmoji (bareBrackets text) ++ m.text }
  | .tag content :: rest =>
    match tagName content with
    | '/' :: name => do
      let (tag, opened) ← close name opened
      let styles ← tag.closed
      let m ← markedOfPieces opened rest
      return { m with styles := styles ++ m.styles }
    | _ => do markedOfPieces ((← Tag.ofContent content) :: opened) rest

/-- Reads a marked-up text. -/
def read (s : String) : Except MarkupFault Marked :=
  if s.toList.contains '[' then markedOfPieces [] (pieces s.toList)
  else .ok { text := withEmoji s.toList }

/-- Looks a style up. There need not be such a style. -/
def lookUp (style : List Char) : Except MarkupFault (Option Style) :=
  (Style.read? style).mapError .style

/-- What is left to read of a marked-up text when its styles were looked up. -/
def plain (s : String) : Except MarkupFault (List Char) := do
  let m ← read s
  let _ ← m.styles.mapM lookUp
  return m.text.filter (!isDropped ·)

/-! ### Writing -/

/-- A tag with the backslashes that keep it from being one. -/
def escapedTag (backslashes : Nat) (content : List Char) : List Char :=
  List.replicate (2 * backslashes + 1) '\\' ++ '[' :: content ++ [']']

/-- Escapes the tags of a text of at most `fuel` characters. -/
def escapeTagsWithin : (fuel : Nat) → List Char → List Char
  | 0, _ => []
  | _ + 1, [] => []
  | fuel + 1, c :: rest =>
    match tagAhead? (c :: rest) with
    | some (backslashes, content, after) =>
      escapedTag backslashes content ++ escapeTagsWithin fuel after
    | none =>
      match (c :: rest).takeWhile (· == '\\') with
      | [] => c :: escapeTagsWithin fuel rest
      | run => run ++ escapeTagsWithin fuel ((c :: rest).dropWhile (· == '\\'))

/-- A single backslash at the end is doubled, so that it does not escape what follows. -/
def closeBackslash (cs : List Char) : List Char :=
  match cs.reverse with
  | '\\' :: '\\' :: _ => cs
  | '\\' :: _ => cs ++ ['\\']
  | _ => cs

/-- The marked-up text that reads as the given one. -/
def escape (s : String) : String :=
  String.ofList (closeBackslash (escapeTagsWithin s.length s.toList))

end Waymark.Display
