import Waymark.Decimal.Binary64

/-! # Shortest decimals

    The decimal text of a binary number has the fewest digits that read back as the
    number, and of those the nearest to it. For 1, 2, … 17 digits the two neighbours of
    the number on the decimal grid are tried; the first grid with a hit wins.

    How the digits are laid out (where positional notation ends, how an exponent is
    written) is a `Layout`.
-/

namespace Waymark.Decimal

/-- A positive decimal: `digits`, read as the digits after a decimal point, times
    `10 ^ point`. There are no trailing zeros. -/
structure Shortest where
  digits : List Char
  point : Int
  deriving Repr, DecidableEq

namespace Shortest

/-- `10 ^ k` as a fraction. -/
def tenPower (k : Int) : Nat × Nat :=
  if k ≥ 0 then (Nat.pow 10 k.toNat, 1) else (1, Nat.pow 10 (-k).toNat)

/-- Is `n₁ / d₁ ≤ n₂ / d₂`? -/
def fractionLe (a b : Nat × Nat) : Bool :=
  a.1 * b.2 ≤ b.1 * a.2

/-- Is `n₁ / d₁ < n₂ / d₂`? -/
def fractionLt (a b : Nat × Nat) : Bool :=
  a.1 * b.2 < b.1 * a.2

/-- `mantissa * 2 ^ exponent` as a fraction. -/
def binaryFraction (mantissa : Nat) (exponent : Int) : Nat × Nat :=
  if exponent ≥ 0 then (mantissa * Nat.pow 2 exponent.toNat, 1)
  else (mantissa, Nat.pow 2 (-exponent).toNat)

/-- The ends of the interval of numbers that round to `mantissa * 2 ^ exponent`. -/
def interval (mantissa : Nat) (exponent : Int) : (Nat × Nat) × (Nat × Nat) :=
  let quarter := exponent - 2
  let below := if mantissa = Nat.pow 2 52 ∧ exponent > Binary64.minExponent then 1 else 2
  (binaryFraction (4 * mantissa - below) quarter, binaryFraction (4 * mantissa + 2) quarter)

/-- The least `k` with `x < 10 ^ k`, found by trying from a bound below. -/
def magnitudeFrom (x : Nat × Nat) : (fuel : Nat) → Int → Int
  | 0, k => k
  | fuel + 1, k => if fractionLt x (tenPower k) then k else magnitudeFrom x fuel (k + 1)

/-- The least `k` with `x < 10 ^ k`. -/
def magnitude (x : Nat × Nat) : Int :=
  let bits : Int := (Nat.log2 x.1 : Int) - (Nat.log2 x.2 : Int)
  magnitudeFrom x 8 ((bits - 1) * 30103 / 100000 - 1)

/-- The digit strings of the two neighbours on the grid of `10 ^ k` that lie in the
    interval of the number, the nearer one first. -/
def candidates (m : Nat) (exponent k : Int) : List Nat :=
  let x := binaryFraction m exponent
  let (low, high) := interval m exponent
  let inside (d : Nat) : Bool :=
    let t := tenPower k
    let y := (d * t.1, t.2)
    -- the ends of the interval read as the number if its fraction is even
    if m % 2 == 0 then fractionLe low y && fractionLe y high
    else fractionLt low y && fractionLt y high
  let t := tenPower k
  let num := x.1 * t.2
  let den := x.2 * t.1
  let d := num / den
  let r := num % den
  -- of two numbers that are as close the even one comes first
  let near := if 2 * r < den || (2 * r == den && d % 2 == 0) then [d, d + 1] else [d + 1, d]
  near.filter fun n => n > 0 && inside n

/-- Removes the zeros at the end of a number that is given with its grid. -/
def stripZeros : (fuel : Nat) → Nat → Int → Nat × Int
  | 0, d, k => (d, k)
  | fuel + 1, d, k => if d % 10 = 0 && d > 0 then stripZeros fuel (d / 10) (k + 1) else (d, k)

/-- The first hit among the grids with at least `n` digits. -/
def search (mantissa : Nat) (exponent top : Int) : (fuel n : Nat) → Nat × Int
  | 0, _ => (mantissa, exponent)
  | fuel + 1, n =>
    match candidates mantissa exponent (top - n) with
    | d :: _ => (d, top - n)
    | [] => search mantissa exponent top fuel (n + 1)

/-- The shortest decimal of the positive number `mantissa * 2 ^ exponent`. -/
def ofBinary (mantissa : Nat) (exponent : Int) : Shortest :=
  let top := magnitude (binaryFraction mantissa exponent)
  let (d, k) := search mantissa exponent top 17 1
  let (d, k) := stripZeros 20 d k
  let digits := Nat.toDigits 10 d
  { digits, point := k + digits.length }

end Shortest

/-- How the digits of a number are laid out. -/
structure Layout where
  /-- The least place of the point that is written positionally. -/
  minPoint : Int
  /-- The greatest place of the point that is written positionally. -/
  maxPoint : Int
  /-- The sign before an exponent that is not negative. -/
  plus : List Char
  /-- The least number of digits of an exponent. -/
  exponentDigits : Nat
  /-- The texts of positive infinity and of what is no number. -/
  infinity : String
  nan : String

namespace Layout

/-- Digits with the point at its place; a whole number ends in `.0`. -/
def positional (s : Shortest) : List Char :=
  if s.point ≤ 0 then '0' :: '.' :: (List.replicate (-s.point).toNat '0' ++ s.digits)
  else
    let n := s.point.toNat
    if s.digits.length ≤ n then
      s.digits ++ List.replicate (n - s.digits.length) '0' ++ ['.', '0']
    else s.digits.take n ++ '.' :: s.digits.drop n

/-- One digit before the point, then the power of ten. -/
def scientific (l : Layout) (s : Shortest) : List Char :=
  let exponent := s.point - 1
  let front := match s.digits with
    | [] => []
    | [d] => [d]
    | d :: rest => d :: '.' :: rest
  let digits := Nat.toDigits 10 exponent.natAbs
  let padding := List.replicate (l.exponentDigits - digits.length) '0'
  front ++ 'e' :: (if exponent < 0 then ['-'] else l.plus) ++ padding ++ digits

/-- The text of a number. -/
def render (l : Layout) : Binary64 → String
  | .nan => l.nan
  | .infinite negative => (if negative then "-" else "") ++ l.infinity
  | .finite negative mantissa exponent =>
    let body :=
      if mantissa = 0 then ['0', '.', '0']
      else
        let s := Shortest.ofBinary mantissa exponent
        if l.minPoint ≤ s.point ∧ s.point ≤ l.maxPoint then positional s else l.scientific s
    String.ofList (if negative then '-' :: body else body)

end Layout

end Waymark.Decimal
