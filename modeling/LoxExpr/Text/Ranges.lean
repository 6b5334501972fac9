/-
  This file defines sets of characters given by ranges of
  code points.  The tables of Unicode properties have this
  form.

  Key definitions include:
    * `Ranges`
    * `Ranges.has`
-/

namespace LoxExpr

namespace Text

------------------------------------------------------------
-- Ranges of Code Points
------------------------------------------------------------

/- Closed ranges of code points, each given by its ends. -/
abbrev Ranges :=
  List (Nat × Nat)

namespace Ranges

/- A character lies in one of the ranges. -/
def has
    (ranges : Ranges)
    (c : Char) : Bool :=
  ranges.any fun range =>
    range.1 ≤ c.toNat && c.toNat ≤ range.2

end Ranges

end Text

end LoxExpr
