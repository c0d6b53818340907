/- Decimal fractions of any size, rounded to binary64.
   A decimal is rounded to the nearest binary64 number, a tie to the even significand. All of it is
   exact arithmetic on natural numbers in units of the smallest positive binary64 number. -/

import AccessorGen.FieldType
import AccessorGen.Json.Number

set_option autoImplicit false
set_option relaxedAutoImplicit false

namespace AccessorGen

/-- The magnitude that digits without leading zeros denote, times ten to the power of `scale`. -/
structure Decimal where
  digits : Text.Digits
  scale : Int
  deriving DecidableEq, Repr

namespace Decimal

def ofNumber (n : Json.Number) : Decimal :=
  let fraction := n.fraction.getD []
  let exponent := (n.exponent.map Json.Exponent.value).getD 0
  let significant := (n.whole ++ fraction).dropWhile fun digit => digit.val == 0
  ⟨significant, exponent - fraction.length⟩

/-- The magnitude as a numerator over a denominator. -/
def numerator (d : Decimal) : Nat :=
  d.digits.value * Nat.pow 10 d.scale.toNat

def denominator (d : Decimal) : Nat :=
  Nat.pow 10 (-d.scale).toNat

/-- The number of places before the decimal point, negative for leading zeros behind it. A positive
magnitude is less than ten to the power of its places, and at least a tenth of that. -/
def places (d : Decimal) : Int :=
  d.digits.length + d.scale

end Decimal

/-- The quotient rounded to the nearest integer, a tie to the even one. -/
def roundQuotient (n d : Nat) : Nat :=
  let floor := n / d
  let rest := n % d
  if 2 * rest < d then floor
  else if d < 2 * rest then floor + 1
  else if floor % 2 = 0 then floor
  else floor + 1

namespace RealFormat

/-- The smallest positive binary64 number is two to minus this. -/
def unitExponent : Nat := 1074

/-- The quotient rounded to a binary64 significand at any exponent, in units of the smallest
positive binary64 number. -/
def roundToUnits (n d : Nat) : Nat :=
  let units := n * Nat.pow 2 unitExponent
  let shift := (units / d).log2 + 1 - binary64.precision
  roundQuotient units (d * Nat.pow 2 shift) * Nat.pow 2 shift

/-- No magnitude with more places than this is finite in binary64. -/
def maxPlaces : Nat := 400

/-- Whether a magnitude, rounded to binary64, is finite and at most the largest of the format.
A magnitude below one is, and one with too many places is not; these are told by the places alone,
so that no power of a huge exponent is computed. -/
def admits (format : RealFormat) (d : Decimal) : Bool :=
  if d.digits.isEmpty ∨ d.places ≤ 0 then true
  else if maxPlaces < d.places then false
  else roundToUnits d.numerator d.denominator ≤ format.largest * Nat.pow 2 unitExponent

end RealFormat

end AccessorGen
