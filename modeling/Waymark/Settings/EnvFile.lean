import Waymark.Text.Blank
import Waymark.Text.Lines
import Waymark.Wire.Json

/-! # Files of variables

    A file of variables has a binding on each line: a name, an equals sign and a value.

    * Blanks around the name and the sign do not count, nor does `export` in front.
    * A value in quotes may span lines, and a backslash keeps a quote from closing it. A
      value without quotes ends with its line, or at a blank before a number sign.
    * A number sign begins a comment. A name without a sign is bound to nothing.
    * A line that is none of this is passed over.

    `expand` then puts the values of variables in the place of references to them.
-/

namespace Waymark.EnvFile

/-- A name and its value, if it has one. -/
abbrev Binding : Type := String × Option String

/-- A blank that does not end a line. -/
def isInlineBlank (c : Char) : Bool :=
  Text.isBlank c && c != '\n'

/-- The text without the blanks in front that do not end the line. -/
def skipInline (cs : List Char) : List Char :=
  cs.dropWhile isInlineBlank

/-- Where a value in quotes ends: before the first quote that no backslash precedes. -/
def plainClose? (quote : Char) (done : List Char) : List Char → Option (List Char × List Char)
  | [] => none
  | c :: rest =>
    if c == quote && done.head? != some '\\' then some (done.reverse, rest)
    else plainClose? quote (c :: done) rest

/-- The text before and after the last quote. -/
def lastQuote? (quote : Char) (cs : List Char) : Option (List Char × List Char) :=
  match cs.reverse.dropWhile (· != quote) with
  | [] => none
  | _ :: before => some (before.reverse, (cs.reverse.takeWhile (· != quote)).reverse)

/-- Splits at the quote that closes a value: the first that no backslash precedes, or else
    the last one. -/
def closeQuote? (quote : Char) (cs : List Char) : Option (List Char × List Char) :=
  match plainClose? quote [] cs with
  | some found => some found
  | none => lastQuote? quote cs

/-- The characters that a backslash and a letter stand for in double quotes. -/
def doubleEscapes : List (Char × Char) :=
  [('\\', '\\'), ('\'', '\''), ('"', '"'), ('a', Char.ofNat 7), ('b', Char.ofNat 8),
    ('f', Char.ofNat 12), ('n', '\n'), ('r', '\r'), ('t', '\t'), ('v', Char.ofNat 11)]

/-- The characters that a backslash stands in front of in single quotes. -/
def singleEscapes : List (Char × Char) :=
  [('\\', '\\'), ('\'', '\'')]

/-- Replaces the escapes of a table; other backslashes stay. -/
def unescape (table : List (Char × Char)) : List Char → List Char
  | '\\' :: c :: rest =>
    match table.lookup c with
    | some e => e :: unescape table rest
    | none => '\\' :: unescape table (c :: rest)
  | c :: rest => c :: unescape table rest
  | [] => []

/-- The text up to a comment: a number sign that follows a blank, with the blanks before
    it. -/
def beforeComment : List Char → List Char
  | [] => []
  | c :: rest =>
    if Text.isBlank c && (rest.dropWhile Text.isBlank).head? == some '#' then []
    else c :: beforeComment rest

/-- A value and the text after it. -/
def value? (cs : List Char) : Option (String × List Char) :=
  match cs with
  | '\'' :: rest => (closeQuote? '\'' rest).map fun (inner, rest) =>
      (String.ofList (unescape singleEscapes inner), rest)
  | '"' :: rest => (closeQuote? '"' rest).map fun (inner, rest) =>
      (String.ofList (unescape doubleEscapes inner), rest)
  | cs =>
    let line := beforeComment (cs.takeWhile (· != '\n'))
    some (String.ofList (line.reverse.dropWhile Text.isBlank).reverse, cs.dropWhile (· != '\n'))

/-- What a line starts with. -/
inductive Start where
  | comment
  | named (name : String) (rest : List Char)
  | broken

/-- May the character stand in a name without quotes? -/
def isNameChar (c : Char) : Bool :=
  c != '=' && c != '#' && !Text.isBlank c

/-- Reads the name of a binding. -/
def start (cs : List Char) : Start :=
  match cs with
  | '#' :: _ => .comment
  | '\'' :: rest =>
    match rest.takeWhile (· != '\''), rest.dropWhile (· != '\'') with
    | [], _ => .broken
    | _, [] => .broken
    | name, _ :: rest => .named (String.ofList name) rest
  | cs =>
    match cs.takeWhile isNameChar with
    | [] => .broken
    | name => .named (String.ofList name) (cs.dropWhile isNameChar)

/-- The text without the word that may stand before a name. -/
def skipExport (cs : List Char) : List Char :=
  let word := "export".toList
  let rest := skipInline (cs.drop word.length)
  if word.isPrefixOf cs && rest.length + word.length < cs.length then rest else cs

/-- The text after the line in front. -/
def nextLine (cs : List Char) : List Char :=
  (cs.dropWhile (· != '\n')).drop 1

/-- The text after the end of a line, on which only a comment is left. -/
def lineEnd? (cs : List Char) : Option (List Char) :=
  match skipInline cs with
  | [] => some []
  | '\n' :: rest => some rest
  | '#' :: rest => some (nextLine rest)
  | _ => none

/-- One binding, if the line has one, and the text after it. -/
def binding (cs : List Char) : Option Binding × List Char :=
  let cs := skipExport (cs.dropWhile Text.isBlank)
  match start cs with
  | .comment => (none, nextLine cs)
  | .broken => (none, nextLine cs)
  | .named name rest =>
    match skipInline rest with
    | '=' :: rest =>
      let rest := skipInline rest
      match value? rest with
      | none => (none, nextLine rest)
      | some (value, rest) =>
        match lineEnd? rest with
        | none => (none, nextLine rest)
        | some rest => (some (name, some value), rest)
    -- a name without a value is kept
    | rest =>
      match lineEnd? rest with
      | none => (none, nextLine rest)
      | some rest => (some (name, none), rest)

/-- The bindings of a text. The fuel is the length of the text. -/
def bindingsWithin : (fuel : Nat) → List Char → List Binding
  | 0, _ => []
  | fuel + 1, cs =>
    if (cs.dropWhile Text.isBlank).isEmpty then []
    else
      let (found, rest) := binding cs
      found.toList ++ bindingsWithin fuel rest

/-- The bindings of a file, in their order. -/
def bindings (text : String) : List Binding :=
  let cs := Text.unifyLineEnds text.toList
  bindingsWithin cs.length cs

/-! ### References -/

/-- The reference in front of a text, after the opening brace: a name, the text to use
    where it has no value, and the rest. -/
def reference? (cs : List Char) : Option (String × String × List Char) :=
  let name := String.ofList (cs.takeWhile fun c => c != '\x7d' && c != ':')
  match cs.dropWhile fun c => c != '\x7d' && c != ':' with
  | '\x7d' :: rest => some (name, "", rest)
  | ':' :: '-' :: rest =>
    match rest.dropWhile (· != '\x7d') with
    | _ :: after => some (name, String.ofList (rest.takeWhile (· != '\x7d')), after)
    | [] => none
  | _ => none

/-- Puts values in the place of references such as `$\{NAME\}`. A name that is bound to
    nothing stands for the empty text. The fuel is the length of the text. -/
def expandWithin (values : List Binding) : (fuel : Nat) → List Char → List Char
  | 0, _ => []
  | _ + 1, [] => []
  | fuel + 1, '$' :: '\x7b' :: rest =>
    match reference? rest with
    | some (name, default, after) =>
      let value := match values.lookup name with
        | some bound => bound.getD ""
        | none => default
      value.toList ++ expandWithin values fuel after
    | none => '$' :: expandWithin values fuel ('\x7b' :: rest)
  | fuel + 1, c :: rest => c :: expandWithin values fuel rest

/-- The text with the values of the variables in the place of references to them. -/
def expand (values : List Binding) (text : String) : String :=
  String.ofList (expandWithin values text.length text.toList)

/-- The variables of a file. A value may refer to variables bound before it and to the
    given ones; of several bindings of a name the last counts. -/
def values (given : List (String × String)) (text : String) : List Binding :=
  (bindings text).foldl (fun known (name, value) =>
    Wire.putMember name
      (value.map (expand (known ++ given.map fun (n, v) => (n, some v)))) known) []

end Waymark.EnvFile
