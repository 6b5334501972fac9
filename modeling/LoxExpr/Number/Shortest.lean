import LoxExpr.Number.Double

/-
  This file chooses the decimal value that a double is
  written with: the fewest digits that read back as the
  same double, and among those the value nearest to it.  Of
  two equally near values the upper one is taken.

  Key definitions include:
    * `Double.neighbours`
    * `Double.candidates`
    * `Double.shortest`
-/

namespace LoxExpr

namespace Double

------------------------------------------------------------
-- Candidates
------------------------------------------------------------

/-
  The number of digits before the point: the least place
  whose power of ten exceeds the value.  The least positive
  double is above ten to the power -324.
-/
def leadingPlace (amount : Nat) : Int :=
  let scaled := (amount * Nat.pow 10 324) >>> unitsPlace
  (Nat.toDigits 10 scaled).length - 324

/-
  The two multiples of a power of ten around a value, the
  nearer one first.
-/
def neighbours
    (amount : Nat)
    (place : Int) : List Decimal :=
  let num := amount * Nat.pow 10 (-place).toNat
  let den := Nat.pow 10 place.toNat <<< unitsPlace
  let below := num / den
  let digits :=
    if 2 * (num % den) < den then
      [below, below + 1]
    else
      [below + 1, below]
  digits.map fun n => Decimal.stripZeros n place

/-
  The values with one digit, with two, and so on.  Seventeen
  digits tell any two doubles apart.
-/
def candidates (amount : Nat) : List Decimal :=
  let top := leadingPlace amount
  (List.range 17).flatMap fun (n : Nat) =>
    neighbours amount (top - 1 - n)

/- The whole decimal expansion of a number of units. -/
def exactDecimal (amount : Nat) : Decimal :=
  ⟨amount * Nat.pow 5 unitsPlace, -unitsPlace⟩

------------------------------------------------------------
-- The Shortest Decimal
------------------------------------------------------------

/-
  The decimal value that a finite magnitude is written with:
  the first candidate that reads back.
-/
def shortest (bits : Nat) : Decimal :=
  let amount := units bits
  ((candidates amount).find? fun d =>
    d.nearestMagnitude == bits).getD (exactDecimal amount)

end Double

end LoxExpr
