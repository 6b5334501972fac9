import LoxExpr.Number.Double

/-
  This file reads numerals: digits, optionally followed by a
  point and more digits.

  Key definitions include:
    * `Numeral.toDecimal`
    * `Numeral.value`
    * `Numeral.read?`
-/

namespace LoxExpr

namespace Numeral

------------------------------------------------------------
-- Reading Numerals
------------------------------------------------------------

/- The digits before the point. -/
def whole (numeral : List Char) : List Char :=
  numeral.takeWhile Char.isDigit

/- The digits after the point. -/
def fraction (numeral : List Char) : List Char :=
  (numeral.dropWhile Char.isDigit).drop 1

/- The decimal value of a numeral. -/
def toDecimal (numeral : List Char) : Decimal :=
  let places := (fraction numeral).length
  let digits := whole numeral ++ fraction numeral
  ⟨Nat.ofDigitChars 10 digits 0, -places⟩

/- The double nearest to a numeral. -/
def value (numeral : List Char) : Float :=
  (toDecimal numeral).toDouble

/-
  The text is digits, or has a point with digits before or
  behind it, and nothing else.  Signs, exponents and names of
  numbers are left out, since no numeral has them.
-/
def isValid (text : List Char) : Bool :=
  match text.dropWhile Char.isDigit with
  | [] => !(whole text).isEmpty
  | '.' :: more =>
      more.all Char.isDigit && !(whole text ++ more).isEmpty
  | _ => false

/- Read a number, or refuse a text that is not one. -/
def read? (text : List Char) : Option Float :=
  if isValid text then some (value text) else none

end Numeral

end LoxExpr
