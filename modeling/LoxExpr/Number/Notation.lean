import LoxExpr.Number.Shortest

/-
  This file writes numbers.  Both notations take the
  shortest decimal value of the number; the plain notation
  is always positional, and the general one turns to a power
  of ten for very large and very small numbers.

  Key definitions include:
    * `Decimal.plain`
    * `Decimal.scientific`
    * `Double.plainText`
    * `Double.isModerate`
    * `Double.text`
-/

namespace LoxExpr

------------------------------------------------------------
-- Layout of Decimal Values
------------------------------------------------------------

namespace Decimal

/- Decimal digits of an integer, with a minus sign only. -/
def intChars : Int → List Char
| .ofNat n => digitChars n
| .negSucc n => '-' :: digitChars (n + 1)

/-
  Positional notation.  At least one digit stands before a
  point, and a value without fraction has no point.
-/
def plain (d : Decimal) : List Char :=
  let digits := digitChars d.digits
  match d.exponent with
  | .ofNat zeros =>
      digits ++ List.replicate zeros '0'
  | .negSucc n =>
      let places := n + 1
      let padding := places + 1 - digits.length
      let padded := List.replicate padding '0' ++ digits
      let point := padded.length - places
      padded.take point ++ '.' :: padded.drop point

/- The digits after the point, with the point if any. -/
def pointed : List Char → List Char
| [] => []
| digits => '.' :: digits

/-
  One digit before the point, and the power of ten behind
  the letter `e`.
-/
def scientific (d : Decimal) : List Char :=
  match digitChars d.digits with
  | [] => []
  | lead :: more =>
      lead :: (pointed more ++
        'e' :: intChars (d.exponent + more.length))

end Decimal

------------------------------------------------------------
-- Text of Numbers
------------------------------------------------------------

namespace Double

/- The minus sign of a number, if its sign bit is set. -/
def signChars (x : Float) : List Char :=
  if isNegative x then ['-'] else []

/-
  The text of a number whose finite magnitude has a given
  layout.  The text for no number carries no sign.
-/
def textWith
    (layout : Decimal → List Char)
    (x : Float) : String :=
  let bits := magnitude x
  if infinity < bits then
    "NaN"
  else if bits = infinity then
    String.ofList (signChars x ++ ['i', 'n', 'f'])
  else
    String.ofList (signChars x ++ layout (shortest bits))

/- Positional notation for every size. -/
def plainText (x : Float) : String :=
  textWith Decimal.plain x

/-
  The sizes that are written without a power of ten: zero,
  and those from a ten-thousandth up to ten to the power 16.
-/
def isModerate (bits : Nat) : Bool :=
  bits = 0 ||
    (nearest 1 (Nat.pow 10 4) ≤ bits &&
      bits < nearest (Nat.pow 10 16) 1)

/- The layout for the size of a finite magnitude. -/
def layout (bits : Nat) : Decimal → List Char :=
  if isModerate bits then Decimal.plain
  else Decimal.scientific

/-
  Positional notation for moderate sizes, and a power of ten
  for the others.
-/
def text (x : Float) : String :=
  textWith (layout (magnitude x)) x

end Double

end LoxExpr
