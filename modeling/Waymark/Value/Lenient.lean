import Waymark.Decimal.Reading
import Waymark.Text.Blank
import Waymark.Value.Basic

/-! # Lenient reading of scalars

    A scalar of one kind is accepted for another where nothing is lost: a text that
    spells a number, a fractional number without a fraction, a word that means yes or
    no.
-/

namespace Waymark.Lenient

open Waymark.Decimal (Binary64)

/-- The characters that do not count around a scalar: the blank ones without the
    information separators. -/
def isSpace (c : Char) : Bool :=
  Text.isBlank c && !(0x1c ≤ c.toNat && c.toNat ≤ 0x1f)

/-- The characters of a text without those that do not count around a scalar. -/
def scalarChars (s : String) : List Char :=
  Text.dropAround isSpace s.toList

/-- Removes single underscores between other characters; nothing if they are misplaced. -/
def withoutUnderscores? (cs : List Char) : Option (List Char) :=
  let parts := Text.splitWhere (· == '_') cs
  if parts.length > 1 && parts.any List.isEmpty then none else some parts.flatten

/-- Drops the zeros, and underscores between them, in front of a whole number; the last
    digit stays. -/
def withoutLeadingZeros : List Char → List Char
  | '0' :: rest =>
    match rest.dropWhile fun c => c == '0' || c == '_' with
    | [] => ((('0' :: rest).getLast?).map fun c => [c]).getD []
    | '.' :: fraction =>
      let before := ('0' :: rest).takeWhile fun c => c == '0' || c == '_'
      ((before.getLast?).map fun c => [c]).getD [] ++ '.' :: fraction
    | later => later
  | cs => cs

/-- Drops a point that only zeros follow. -/
def withoutZeroFraction (cs : List Char) : List Char :=
  if ((cs.dropWhile (· != '.')).drop 1).all (· == '0') then cs.takeWhile (· != '.') else cs

/-- A whole number with at most a minus sign in front. -/
def plainInt? (cs : List Char) : Option Int :=
  match cs with
  | '-' :: digits =>
    if Decimal.areDigits digits then some (-(Decimal.digitsValue 10 digits : Int)) else none
  | digits => if Decimal.areDigits digits then some (Decimal.digitsValue 10 digits) else none

/-- The whole number that a text spells. Blanks around it, a plus sign, zeros in front,
    single underscores and a fraction of zeros do not count. -/
def intOfText? (s : String) : Option Int := do
  if s.utf8ByteSize > Decimal.maxDigits then none
  let cs ← match scalarChars s with
    | '+' :: '-' :: _ => none
    | '+' :: rest => some rest
    | rest => some rest
  let digits ← withoutUnderscores? (withoutZeroFraction (withoutLeadingZeros cs))
  plainInt? digits

/-- Does the text spell the word, whatever the case of its letters? -/
def spells (word : String) (cs : List Char) : Bool :=
  cs.map Char.toLower == word.toList

/-- An unsigned fractional number, or a word for what is not finite. -/
def unsignedFloat? (negative : Bool) (cs : List Char) : Option Binary64 :=
  if spells "inf" cs || spells "infinity" cs then some (.infinite negative)
  else if spells "nan" cs then some .nan
  else if Decimal.isDecimal cs then some (Decimal.decimalValue cs negative)
  else none

/-- A fractional number with an optional sign. -/
def signedFloat? : List Char → Option Binary64
  | '-' :: rest => unsignedFloat? true rest
  | '+' :: rest => unsignedFloat? false rest
  | cs => unsignedFloat? false cs

/-- The number that a text spells. Blanks around it and single underscores do not
    count. -/
def floatOfText? (s : String) : Option Binary64 :=
  let cs := scalarChars s
  match signedFloat? cs with
  | some x => some x
  | none => (withoutUnderscores? cs).bind signedFloat?

/-- The words for yes and for no. -/
def boolOfText? (s : String) : Option Bool :=
  let cs := s.toList
  if ["1", "on", "t", "true", "y", "yes"].any fun w => spells w cs then some true
  else if ["0", "off", "f", "false", "n", "no"].any fun w => spells w cs then some false
  else none

/-- The number of the signed words of 64 bits that are not negative. -/
def wordLimit : Int := 9223372036854775808

/-- The whole number that a fractional one equals, if it fits a word of 64 bits. -/
def intOfFloat? (x : Binary64) : Option Int := do
  let n ← x.toInt?
  if -wordLimit < n && n < wordLimit then some n else none

/-- One means yes and zero means no. -/
def boolOfInt? (n : Int) : Option Bool :=
  if n = 1 then some true else if n = 0 then some false else none

end Waymark.Lenient
