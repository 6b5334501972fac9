/-
  This file defines decimal values: a natural number of
  digits together with a power of ten.

  Key definitions include:
    * `Decimal`
    * `Decimal.numerator`
    * `Decimal.denominator`
    * `Decimal.stripZeros`
    * `Decimal.natText`
-/

namespace LoxExpr

------------------------------------------------------------
-- Decimal Values
------------------------------------------------------------

/- The value `digits * 10 ^ exponent`. -/
structure Decimal where
  digits : Nat
  exponent : Int
deriving DecidableEq, Repr

namespace Decimal

/- The numerator of a decimal value as a fraction. -/
def numerator (d : Decimal) : Nat :=
  d.digits * Nat.pow 10 d.exponent.toNat

/- The denominator of a decimal value as a fraction. -/
def denominator (d : Decimal) : Nat :=
  Nat.pow 10 (-d.exponent).toNat

/-
  Move the zeros at the end of the digits into the power of
  ten.  Zero keeps no power.
-/
def stripZeros
    (digits : Nat)
    (exponent : Int) : Decimal :=
  if digits = 0 then
    ⟨0, 0⟩
  else if digits % 10 = 0 then
    stripZeros (digits / 10) (exponent + 1)
  else
    ⟨digits, exponent⟩
termination_by digits
decreasing_by omega

------------------------------------------------------------
-- Natural Numbers
------------------------------------------------------------

/- Decimal digits of a natural number. -/
def digitChars (n : Nat) : List Char :=
  Nat.toDigits 10 n

/- A natural number in decimal digits. -/
def natText (n : Nat) : String :=
  String.ofList (digitChars n)

end Decimal

end LoxExpr
