import LoxExpr.Value

/-
  This file defines expression trees and the text that shows
  their structure.

  Key definitions include:
    * `Expr`
    * `Expr.text`
-/

namespace LoxExpr

------------------------------------------------------------
-- Expression Trees
------------------------------------------------------------

/- Expressions keep the tokens of their operators. -/
inductive Expr where
| literal (value : Value)
| grouping (inner : Expr)
| unary (operator : Token) (right : Expr)
| binary (left : Expr) (operator : Token) (right : Expr)
| conditional (condition thenBranch elseBranch : Expr)

namespace Expr

/-
  The structure of an expression with every node in
  parentheses and its operator in front.
-/
def text : Expr → String
| .literal value => value.text
| .grouping inner => "(group " ++ inner.text ++ ")"
| .unary operator right =>
    "(" ++ operator.lexeme ++ " " ++ right.text ++ ")"
| .binary left operator right =>
    "(" ++ operator.lexeme ++ " " ++ left.text ++
      " " ++ right.text ++ ")"
| .conditional condition thenBranch elseBranch =>
    "(if " ++ condition.text ++
      " then " ++ thenBranch.text ++
      " else " ++ elseBranch.text ++ ")"

end Expr

end LoxExpr
