import Waymark.Decimal.Reading
import Waymark.Wire.Json

/-! # Reading JSON documents

    A reader takes a value from the front of the text and hands back the rest.

    * Besides the numbers of the format, `NaN` and the two infinities are read.
    * A text holds no control characters, and its escapes stand for whole characters.
    * Arrays and objects are nested at most `maxDepth` deep. A name that occurs twice in
      an object is kept twice.
-/

namespace Waymark.Wire

open Waymark.Decimal (Binary64)

/-- What takes a value from the front of a text. -/
abbrev Reader (α : Type) : Type :=
  List Char → Option (α × List Char)

namespace Reading

/-- The deepest nesting of arrays and objects. -/
def maxDepth : Nat := 200

/-- The blanks of the format. -/
def isSpace (c : Char) : Bool :=
  c == ' ' || c == '\t' || c == '\n' || c == '\r'

/-- The text without the blanks in front. -/
def skipSpace (cs : List Char) : List Char :=
  cs.dropWhile isSpace

/-! ### Texts -/

/-- Four hexadecimal digits as a number. -/
def unit? : Reader Nat
  | a :: b :: c :: d :: rest =>
    let digits := [a, b, c, d].map Char.toLower
    if digits.all fun c => (Text.hexDigit? c).isSome then
      some (Text.hexNumber digits, rest)
    else none
  | _ => none

/-- The character of a numbered escape, whose second half may follow as a further escape. -/
def numbered? : Reader Char := fun cs => do
  let (high, rest) ← unit? cs
  if 0xd800 ≤ high && high < 0xdc00 then
    match rest with
    | '\\' :: 'u' :: rest =>
      let (low, rest) ← unit? rest
      if 0xdc00 ≤ low && low < 0xe000 then
        some (Char.ofNat (0x10000 + (high - 0xd800) * 0x400 + (low - 0xdc00)), rest)
      else none
    | _ => none
  else if 0xdc00 ≤ high && high < 0xe000 then none
  else some (Char.ofNat high, rest)

/-- The character that a letter stands for after a backslash. -/
def escaped? (c : Char) : Option Char :=
  if c == '"' || c == '\\' || c == '/' then some c
  else if c == 'b' then some (Char.ofNat 8)
  else if c == 'f' then some (Char.ofNat 12)
  else if c == 'n' then some '\n'
  else if c == 'r' then some '\r'
  else if c == 't' then some '\t'
  else none

/-- One character of a text, or none at the closing quote. -/
def textChar? : Reader (Option Char)
  | '"' :: rest => some (none, rest)
  | '\\' :: 'u' :: rest => do
    let (c, rest) ← numbered? rest
    return (some c, rest)
  | '\\' :: c :: rest => (escaped? c).map fun e => (some e, rest)
  | c :: rest => if c.toNat < 32 then none else some (some c, rest)
  | [] => none

/-- The characters up to the closing quote, where `done` are those read so far, last one
    first. The fuel is the length of the text. -/
def textChars? (done : List Char) : (fuel : Nat) → Reader (List Char)
  | 0, _ => none
  | fuel + 1, cs =>
    match textChar? cs with
    | some (none, rest) => some (done.reverse, rest)
    | some (some c, rest) => textChars? (c :: done) fuel rest
    | none => none

/-- A text whose opening quote was read. -/
def text? : Reader String := fun cs => do
  let (s, rest) ← textChars? [] cs.length cs
  return (String.ofList s, rest)

/-! ### Numbers -/

/-- May the character stand in a number? -/
def isNumberChar (c : Char) : Bool :=
  c.isDigit || c == '+' || c == '-' || c == '.' || c == 'e' || c == 'E'

/-- Is the whole part well formed: digits, of which the first is zero only if it is the
    only one, and not too many? -/
def isWhole (digits : List Char) : Bool :=
  Decimal.areDigits digits && digits.length ≤ Decimal.maxDigits
    && (digits.length == 1 || digits.head? != some '0')

/-- The number that an unsigned spelling stands for. -/
def unsigned? (negative : Bool) (cs : List Char) : Option Json :=
  let (whole, fraction, _) := Decimal.decimalPieces cs
  if isWhole cs then
    let n : Int := Decimal.digitsValue 10 cs
    some (.int (if negative then -n else n))
  else if isWhole whole && Decimal.isDecimal cs && (!fraction.isEmpty || !cs.contains '.') then
    some (.float (Decimal.decimalValue cs negative))
  else none

/-- A number. -/
def number? : Reader Json := fun cs =>
  let spelling := cs.takeWhile isNumberChar
  let value := match spelling with
    | '-' :: digits => unsigned? true digits
    | digits => unsigned? false digits
  value.map fun j => (j, cs.dropWhile isNumberChar)

/-! ### Documents -/

/-- The value of the word in front, if it is the given one. -/
def word? (word : String) (value : Json) : Reader Json := fun cs =>
  if word.toList.isPrefixOf cs then some (value, cs.drop word.length) else none

/-- A value that is neither an array nor an object. -/
def scalar? : Reader Json := fun cs =>
  match cs with
  | '"' :: rest => (text? rest).map fun (s, rest) => (.text s, rest)
  | 'n' :: _ => word? "null" .null cs
  | 't' :: _ => word? "true" (.bool true) cs
  | 'f' :: _ => word? "false" (.bool false) cs
  | 'N' :: _ => word? "NaN" (.float .nan) cs
  | 'I' :: _ => word? "Infinity" (.float (.infinite false)) cs
  | '-' :: 'I' :: _ => word? "-Infinity" (.float (.infinite true)) cs
  | _ => number? cs

/-- The items after the opening bracket or a comma, up to the closing bracket. The fuel is
    the length of the text. -/
def items? {α : Type} (close : Char) (item : Reader α) : (fuel : Nat) → Reader (List α)
  | 0, _ => none
  | fuel + 1, cs => do
    let (j, rest) ← item (skipSpace cs)
    match skipSpace rest with
    | ',' :: rest =>
      let (later, rest) ← items? close item fuel rest
      return (j :: later, rest)
    | c :: rest => if c == close then some ([j], rest) else none
    | [] => none

/-- The items after the opening bracket, which may be none. -/
def sequence? {α : Type} (close : Char) (item : Reader α) : Reader (List α) := fun cs =>
  match skipSpace cs with
  | [] => none
  | c :: rest => if c == close then some ([], rest) else items? close item cs.length (c :: rest)

/-- A member of an object. -/
def member? (value : Reader Json) : Reader (String × Json)
  | '"' :: rest => do
    let (name, rest) ← text? rest
    match skipSpace rest with
    | ':' :: rest =>
      let (j, rest) ← value (skipSpace rest)
      return ((name, j), rest)
    | _ => none
  | _ => none

/-- A value, where what is in an array or an object is read by another reader. -/
def valueOf (inner : Reader Json) : Reader Json
  | '[' :: rest => (sequence? ']' inner rest).map fun (items, rest) => (.array items, rest)
  | '\x7b' :: rest =>
    (sequence? '\x7d' (member? inner) rest).map fun (ms, rest) => (.object ms, rest)
  | cs => scalar? cs

/-- A value with at most `depth` levels of nesting. There is no level in what is empty. -/
def value? : (depth : Nat) → Reader Json
  | 0 => valueOf fun _ => none
  | depth + 1 => valueOf (value? depth)

end Reading

/-- Reads a document of at most `depth` levels; blanks around it do not count. -/
def Json.parse? (s : String) (depth : Nat := Reading.maxDepth) : Option Json := do
  let (j, rest) ← Reading.value? depth (Reading.skipSpace s.toList)
  if (Reading.skipSpace rest).isEmpty then some j else none

end Waymark.Wire
