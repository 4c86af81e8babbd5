import Waymark.Text.Quoted

/-! # Percent encoding

    Where a text must not contain certain characters, each of them is replaced by its
    bytes, written as a percent sign and two hexadecimal digits in upper case.
-/

namespace Waymark.Text

/-- The bytes of a character. -/
def utf8Bytes (c : Char) : List Nat :=
  (String.toUTF8 (String.singleton c)).toList.map UInt8.toNat

/-- A byte as a percent sign and two digits. -/
def percentByte (byte : Nat) : List Char :=
  '%' :: (hexDigits 2 byte).map Char.toUpper

/-- The text with every character percent-encoded that does not satisfy `keeps`. -/
def percentEncodeUnless (keeps : Char → Bool) (s : String) : String :=
  String.ofList (s.toList.flatMap fun c =>
    if keeps c then [c] else (utf8Bytes c).flatMap percentByte)

/-- Letters, digits and the four marks that never need encoding. -/
def isUnreserved (c : Char) : Bool :=
  c.isAlphanum || c == '_' || c == '.' || c == '-' || c == '~'

/-- The text with everything encoded that could have a meaning of its own. -/
def percentEncoded (s : String) : String :=
  percentEncodeUnless isUnreserved s

/-- A text as it stands in a form: like `percentEncoded`, with a plus sign for a space. -/
def formEncoded (s : String) : String :=
  String.ofList (s.toList.flatMap fun c =>
    if c == ' ' then ['+'] else if isUnreserved c then [c]
    else (utf8Bytes c).flatMap percentByte)

end Waymark.Text
