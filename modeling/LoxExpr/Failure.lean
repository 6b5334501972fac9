import LoxExpr.Expr.Eval

/-
  This file defines the ways in which the work on a source
  can fail, their wording, and the exit codes of a program
  that ends with them.

  Key definitions include:
    * `Failure`
    * `Failure.message`
    * `Failure.exitCode`
-/

namespace LoxExpr

------------------------------------------------------------
-- Failures
------------------------------------------------------------

/-
  A failure outside the language, told from the outermost
  cause to the innermost; a number of static errors; or an
  operator that rejects its operands.
-/
inductive Failure where
| internal (causes : List String)
| staticErrors (count : Nat)
| runtime (error : RuntimeError)

namespace Failure

/- The wording of a failure. -/
def message : Failure → String
| .internal causes =>
    "CompilerInternalError: " ++ ": ".intercalate causes
| .staticErrors count =>
    "Generated " ++ Decimal.natText count ++
      " static errors"
| .runtime error => error.text

/- The exit code for a failure. -/
def exitCode : Failure → Nat
| .internal _ => 74
| .staticErrors _ => 65
| .runtime _ => 70

end Failure

end LoxExpr
