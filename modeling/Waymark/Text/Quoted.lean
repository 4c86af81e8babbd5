import Waymark.Text.Printable

/-! # Quoted texts

    The quoted form of a text stands in messages and in the generated code: the text
    between two equal quotes on one line, with a backslash escape for each character
    that could not stand there as it is. The apostrophe is the quote, unless the text
    holds apostrophes and no double quotes.

    Texts of descriptor literals may hold surrogate code points, which `Char` has not,
    so the definitions here are over lists of code points.
-/

namespace Waymark.Text

/-- A hexadecimal digit in lower case. -/
def hexDigit (d : Nat) : Char :=
  Char.ofNat (if d < 10 then '0'.toNat + d else 'a'.toNat + (d - 10))

/-- The last `width` hexadecimal digits of a number. -/
def hexDigits : (width : Nat) → Nat → List Char
  | 0, _ => []
  | width + 1, n => hexDigits width (n / 16) ++ [hexDigit (n % 16)]

/-- The escape of a code point by its number. -/
def escapeByNumber (code : Nat) : List Char :=
  if code < 0x100 then '\\' :: 'x' :: hexDigits 2 code
  else if code < 0x10000 then '\\' :: 'u' :: hexDigits 4 code
  else '\\' :: 'U' :: hexDigits 8 code

/-- How a code point is written between quotes of the given kind. -/
def escapeCode (quote : Char) (code : Nat) : List Char :=
  if code == quote.toNat || code == 0x5c then ['\\', Char.ofNat code]
  else if code == 0x9 then ['\\', 't']
  else if code == 0xa then ['\\', 'n']
  else if code == 0xd then ['\\', 'r']
  else if isPrintableCode code then [Char.ofNat code]
  else escapeByNumber code

/-- The quote that fits a text best. -/
def preferredQuote (codes : List Nat) : Char :=
  if codes.contains 0x27 && !codes.contains 0x22 then '"' else '\''

/-- The quoted form of a text given by its code points. -/
def quoteCodes (codes : List Nat) : String :=
  let quote := preferredQuote codes
  String.ofList (quote :: codes.flatMap (escapeCode quote) ++ [quote])

/-- The code points of a text. -/
def codesOf (s : String) : List Nat :=
  s.toList.map Char.toNat

/-- The quoted form of a text. -/
def quoted (s : String) : String :=
  quoteCodes (codesOf s)

/-- How a byte is written in the quoted form of a byte string. -/
def escapeByte (quote : Char) (byte : Nat) : List Char :=
  if byte == quote.toNat || byte == 0x5c then ['\\', Char.ofNat byte]
  else if byte == 0x9 then ['\\', 't']
  else if byte == 0xa then ['\\', 'n']
  else if byte == 0xd then ['\\', 'r']
  else if 32 ≤ byte && byte < 127 then [Char.ofNat byte]
  else '\\' :: 'x' :: hexDigits 2 byte

/-- The quoted form of a byte string, which a `b` marks. -/
def quoteBytes (bytes : List Nat) : String :=
  let quote := preferredQuote bytes
  String.ofList ('b' :: quote :: bytes.flatMap (escapeByte quote) ++ [quote])

end Waymark.Text
