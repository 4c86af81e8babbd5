import Waymark.Decimal.Binary64
import Waymark.Text.Ranges

/-! # Reading numbers

    What the digits of a number stand for. A decimal is digits, perhaps with a point,
    perhaps followed by an exponent; it is read as an exact quotient first and rounded
    once.
-/

namespace Waymark.Decimal

/-- The longest whole number that is read or written in decimal, in digits. -/
def maxDigits : Nat := 4300

/-- The value of a digit in any base up to sixteen. -/
def digitValue (c : Char) : Nat :=
  (Text.hexDigit? c.toLower).getD 0

/-- The number that some digits spell in a base. -/
def digitsValue (base : Nat) (digits : List Char) : Nat :=
  digits.foldl (fun n c => base * n + digitValue c) 0

/-- A whole number in decimal with an optional sign. -/
def signedValue : List Char → Int
  | '-' :: digits => -(digitsValue 10 digits : Int)
  | '+' :: digits => digitsValue 10 digits
  | digits => digitsValue 10 digits

/-- Splits a decimal into its digits before the point, those after it and the exponent. -/
def decimalPieces (cs : List Char) : List Char × List Char × List Char :=
  let mantissa := cs.takeWhile fun c => c != 'e' && c != 'E'
  let exponent := (cs.dropWhile fun c => c != 'e' && c != 'E').drop 1
  (mantissa.takeWhile (· != '.'), (mantissa.dropWhile (· != '.')).drop 1, exponent)

/-- The exact value of an unsigned decimal: digits and a power of ten. -/
def decimalParts (cs : List Char) : Nat × Int :=
  let (whole, fraction, exponent) := decimalPieces cs
  (digitsValue 10 (whole ++ fraction), signedValue exponent - fraction.length)

/-- The binary number nearest to an unsigned decimal. -/
def decimalValue (cs : List Char) (negative : Bool := false) : Binary64 :=
  let (digits, power) := decimalParts cs
  Binary64.ofDecimal negative digits power

/-- Are there digits, and nothing else? -/
def areDigits (cs : List Char) : Bool :=
  !cs.isEmpty && cs.all Char.isDigit

/-- Is it an unsigned decimal? There is a digit before or after the point, and a digit
    in the exponent if there is one. -/
def isDecimal (cs : List Char) : Bool :=
  let (whole, fraction, exponent) := decimalPieces cs
  let exponentDigits := match exponent with
    | '-' :: ds => ds
    | '+' :: ds => ds
    | ds => ds
  whole.all Char.isDigit && fraction.all Char.isDigit && !(whole ++ fraction).isEmpty
    && (areDigits exponentDigits || !cs.any fun c => c == 'e' || c == 'E')

end Waymark.Decimal
