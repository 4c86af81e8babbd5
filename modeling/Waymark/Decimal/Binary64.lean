/-! # Binary floating-point numbers

    A `Binary64` is a number of the 64-bit binary format: a sign, a mantissa below
    `2 ^ 53` and a power of two, or an infinity, or no number at all. Exact values are
    rounded to the nearest such number, and from a tie to the one with the even
    mantissa (`Binary64.ofRatio`).
-/

namespace Waymark.Decimal

/-- A number of the 64-bit binary format. Finite ones are kept with the largest mantissa
    their exponent allows; the exponent is at least `-1074`. -/
inductive Binary64 where
  | finite (negative : Bool) (mantissa : Nat) (exponent : Int)
  | infinite (negative : Bool)
  | nan
  deriving Repr, DecidableEq

namespace Binary64

/-- Mantissas are below this number. -/
def mantissaLimit : Nat := Nat.pow 2 53

/-- The least exponent of a finite number. -/
def minExponent : Int := -1074

/-- The greatest exponent of a finite number. -/
def maxExponent : Int := 971

/-- Zero. -/
def zero : Binary64 := .finite false 0 minExponent

/-- One. -/
def one : Binary64 := .finite false (Nat.pow 2 52) (-52)

/-- The quotient to the nearest whole number, from a tie to the even one. -/
def roundQuotient (num den : Nat) : Nat :=
  let q := num / den
  let r := num % den
  if 2 * r < den then q
  else if 2 * r > den then q + 1
  else if q % 2 == 0 then q else q + 1

/-- `num / den` divided by `2 ^ exponent`, as a fraction. -/
def scaled (num den : Nat) (exponent : Int) : Nat × Nat :=
  if exponent ≥ 0 then (num, den * Nat.pow 2 exponent.toNat)
  else (num * Nat.pow 2 (-exponent).toNat, den)

/-- The exponent at which the quotient has 53 binary digits, or the least one. -/
def exponentFor (num den : Nat) : Int :=
  let guess : Int := (Nat.log2 num : Int) - (Nat.log2 den : Int) - 52
  let (n, d) := scaled num den guess
  let exact := if n / d < Nat.pow 2 52 then guess - 1 else guess
  max exact minExponent

/-- The number nearest to `num / den`. -/
def ofRatio (negative : Bool) (num den : Nat) : Binary64 :=
  if num = 0 then .finite negative 0 minExponent
  else
    let exponent := exponentFor num den
    let (n, d) := scaled num den exponent
    let mantissa := roundQuotient n d
    let (mantissa, exponent) :=
      if mantissa = mantissaLimit then (Nat.pow 2 52, exponent + 1) else (mantissa, exponent)
    if exponent > maxExponent then .infinite negative
    else .finite negative mantissa exponent

/-- The number of decimal digits. -/
def digitCount (n : Nat) : Nat :=
  (Nat.toDigits 10 n).length

/-- The number nearest to `digits * 10 ^ exponent`. What is far out of range is decided
    by size alone. -/
def ofDecimal (negative : Bool) (digits : Nat) (exponent : Int) : Binary64 :=
  if digits = 0 then .finite negative 0 minExponent
  else if exponent + digitCount digits > 400 then .infinite negative
  else if exponent + digitCount digits < -400 then .finite negative 0 minExponent
  else if exponent ≥ 0 then ofRatio negative (digits * Nat.pow 10 exponent.toNat) 1
  else ofRatio negative digits (Nat.pow 10 (-exponent).toNat)

/-- The number nearest to a whole number. -/
def ofInt (n : Int) : Binary64 :=
  ofRatio (n < 0) n.natAbs 1

/-- The whole number that equals it, if there is one. -/
def toInt? : Binary64 → Option Int
  | .finite negative mantissa exponent =>
    let sign (n : Nat) : Int := if negative then -(n : Int) else n
    if exponent ≥ 0 then some (sign (mantissa * Nat.pow 2 exponent.toNat))
    else
      let den := Nat.pow 2 (-exponent).toNat
      if mantissa % den = 0 then some (sign (mantissa / den)) else none
  | _ => none

/-- Is it a number that is not infinite? -/
def isFinite : Binary64 → Bool
  | .finite .. => true
  | _ => false

/-- Equality of numbers: both zeros are equal, and what is no number equals nothing. -/
def equals : Binary64 → Binary64 → Bool
  | .finite n m e, .finite n' m' e' => (m == 0 && m' == 0) || (n == n' && m == m' && e == e')
  | .infinite n, .infinite n' => n == n'
  | _, _ => false

end Binary64

end Waymark.Decimal
