import LoxExpr.Diagnostic
import LoxExpr.Expr

/-
  This file evaluates expressions.  Operands are evaluated
  from left to right before their operator is applied, and
  of the branches of a conditional only one.

  Key definitions include:
    * `RuntimeError`
    * `Rejection`
    * `Token.applyUnary`
    * `Token.applyBinary`
    * `Expr.eval`
    * `Expr.interpret`
-/

namespace LoxExpr

------------------------------------------------------------
-- Runtime Errors
------------------------------------------------------------

/- An operator that failed, and the wording of its failure. -/
structure RuntimeError where
  token : Token
  message : String

/- The report of a runtime error, with the operator's line. -/
def RuntimeError.text (e : RuntimeError) : String :=
  lineTag e.token.line ++ lexemePlace e.token.lexeme ++
    ": " ++ e.message

/- Why an operator rejects its operands. -/
inductive Rejection where
| notNumber
| notAddable
| unknownOperator
deriving DecidableEq, Repr

/- The wording of a rejection by an operator. -/
def Rejection.message (operator : Token) : Rejection → String
| .notNumber => "Operand must be a number."
| .notAddable =>
    "Operands must be two numbers or two strings."
| .unknownOperator =>
    "Unknown operator '" ++ operator.lexeme ++ "'."

------------------------------------------------------------
-- Operators
------------------------------------------------------------

namespace Token

/- The error of an operator that rejects its operands. -/
def reject
    (operator : Token)
    (rejection : Rejection) : RuntimeError :=
  ⟨operator, rejection.message operator⟩

/- An operator's result, or the error of a rejection. -/
def accept
    (operator : Token)
    (rejection : Rejection) :
    Option Value → Except RuntimeError Value
| some value => .ok value
| none => .error (operator.reject rejection)

/- Apply a unary operator.  Its kind decides. -/
def applyUnary
    (operator : Token)
    (right : Value) : Except RuntimeError Value :=
  match operator.kind with
  | .bang => .ok (.bool (!right.isTruthy))
  | .minus =>
      match right with
      | .number x => .ok (.number (-x))
      | _ => .error (operator.reject .notNumber)
  | _ => .error (operator.reject .unknownOperator)

/- Apply an operator on two numbers. -/
def applyNumeric
    (operator : Token)
    (f : Float → Float → Value)
    (left right : Value) : Except RuntimeError Value :=
  operator.accept .notNumber (left.numeric? f right)

/- Apply a binary operator.  Its kind decides. -/
def applyBinary
    (operator : Token)
    (left right : Value) : Except RuntimeError Value :=
  let numeric f := operator.applyNumeric f left right
  match operator.kind with
  | .plus => operator.accept .notAddable (left.plus? right)
  | .minus => numeric fun x y => .number (x - y)
  | .slash => numeric fun x y => .number (x / y)
  | .star => numeric fun x y => .number (x * y)
  | .greater => numeric fun x y => .bool (x > y)
  | .greaterEqual => numeric fun x y => .bool (x ≥ y)
  | .less => numeric fun x y => .bool (x < y)
  | .lessEqual => numeric fun x y => .bool (x ≤ y)
  | .equalEqual => .ok (.bool (left.equals right))
  | .bangEqual => .ok (.bool (!left.equals right))
  | _ => .error (operator.reject .unknownOperator)

end Token

------------------------------------------------------------
-- Evaluation
------------------------------------------------------------

namespace Expr

/- The value of an expression, or its first failure. -/
def eval : Expr → Except RuntimeError Value
| .literal value => .ok value
| .grouping inner => inner.eval
| .unary operator right => do
    operator.applyUnary (← right.eval)
| .binary left operator right => do
    operator.applyBinary (← left.eval) (← right.eval)
| .conditional condition thenBranch elseBranch => do
    if (← condition.eval).isTruthy then
      thenBranch.eval
    else
      elseBranch.eval

/- The text of the value of an expression. -/
def interpret (e : Expr) : Except RuntimeError String :=
  e.eval.map Value.text

end Expr

end LoxExpr
