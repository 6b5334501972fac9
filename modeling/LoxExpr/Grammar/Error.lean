import LoxExpr.Diagnostic

/-
  This file defines the errors in the order of tokens.

  Key definitions include:
    * `SyntaxFault`
    * `SyntaxFault.message`
    * `SyntaxError`
-/

namespace LoxExpr

------------------------------------------------------------
-- Errors of the Grammar
------------------------------------------------------------

/-
  What can be wrong at a token: it begins no operand, it is a
  binary operator without left operand, or it is not the
  token that is required, as a message says.
-/
inductive SyntaxFault where
| expectedExpression
| missingLeftOperand
| expected : String → SyntaxFault
deriving DecidableEq, Repr

/- The wording of a fault. -/
def SyntaxFault.message : SyntaxFault → String
| .expectedExpression => "Expect expression."
| .missingLeftOperand => "Missing left-hand operand."
| .expected message => message

/-
  A fault, the token where it shows, and the position of the
  token in its list.
-/
structure SyntaxError where
  token : Token
  fault : SyntaxFault
  position : Nat

namespace SyntaxError

/- The wording of an error. -/
def message (e : SyntaxError) : String :=
  e.fault.message

/- An error with the line of its token. -/
def text (e : SyntaxError) : String :=
  "line " ++ Decimal.natText e.token.line ++ ": " ++ e.message

/- The report of an error. -/
def diagnostic (e : SyntaxError) : Diagnostic :=
  Diagnostic.atToken e.token e.message

end SyntaxError

end LoxExpr
