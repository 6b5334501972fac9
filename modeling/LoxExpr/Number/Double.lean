import LoxExpr.Number.Decimal

/-
  This file relates decimal values and double-precision
  numbers in exact arithmetic.  Every finite double is a
  whole number of units, a unit being the least positive
  double, two to the power -1074.

  A magnitude is the bit pattern of a double without its
  sign.  Magnitudes up to `infinity` are ordered as the
  numbers they stand for.

  Key definitions include:
    * `Double.magnitude`
    * `Double.isNegative`
    * `Double.units`
    * `Double.nearest`
    * `Decimal.toDouble`
-/

namespace LoxExpr

namespace Double

------------------------------------------------------------
-- Bit Patterns
------------------------------------------------------------

/- The number of units in one, as a power of two. -/
def unitsPlace : Nat :=
  1074

/- The number of bits below the exponent field. -/
def fractionBits : Nat :=
  52

/- The bit pattern of infinity. -/
def infinity : Nat :=
  2047 <<< fractionBits

/- The bit pattern of a number without its sign. -/
def magnitude (x : Float) : Nat :=
  x.toBits.toNat % 1 <<< 63

/- The sign bit is set. -/
def isNegative (x : Float) : Bool :=
  1 <<< 63 ≤ x.toBits.toNat

/- The number without sign that has a given bit pattern. -/
def ofMagnitude (bits : Nat) : Float :=
  Float.ofBits (UInt64.ofNat bits)

/-
  The value of a finite magnitude in units.  The steps
  between neighbours double with each exponent above the
  least two.
-/
def units (bits : Nat) : Nat :=
  let shift := bits >>> fractionBits - 1
  (bits - shift <<< fractionBits) <<< shift

------------------------------------------------------------
-- Rounding to Nearest
------------------------------------------------------------

/- Round a fraction to a whole number, a half to even. -/
def roundHalfEven (num den : Nat) : Nat :=
  let quotient := num / den
  let double := 2 * (num % den)
  if double < den then
    quotient
  else if den < double then
    quotient + 1
  else
    quotient + quotient % 2

/-
  The magnitude nearest to a fraction.  Its significand has
  one bit more than the fraction field, so the exponent is
  the least one under which the value fits; a significand
  that rounds up to the next power of two carries into the
  exponent by itself.  What is too large is infinite.
-/
def nearest (num den : Nat) : Nat :=
  let scaled := num <<< unitsPlace
  let shift := Nat.log2 (scaled / den) - fractionBits
  let rounded := roundHalfEven scaled (den <<< shift)
  min (shift <<< fractionBits + rounded) infinity

end Double

------------------------------------------------------------
-- Reading Decimal Values
------------------------------------------------------------

namespace Decimal

/- The magnitude nearest to a decimal value. -/
def nearestMagnitude (d : Decimal) : Nat :=
  Double.nearest d.numerator d.denominator

/- The double nearest to a decimal value. -/
def toDouble (d : Decimal) : Float :=
  Double.ofMagnitude d.nearestMagnitude

end Decimal

end LoxExpr
