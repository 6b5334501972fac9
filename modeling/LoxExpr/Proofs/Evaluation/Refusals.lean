import LoxExpr.Expr.Eval

/-
  This file says which operands an operator refuses, and with
  which words, for operators of any kind.

  Key definitions include:
    * `Token.RefusesOne`
    * `Token.RefusesTwo`

  Main statements:
    * `Token.applyUnary_eq_error_iff`
    * `Token.applyBinary_eq_error_iff`
-/

namespace LoxExpr

------------------------------------------------------------
-- Types of Values
------------------------------------------------------------

/- The value is a number. -/
def Value.isNumber : Value → Bool
| .number _ => true
| _ => false

/- The value is a string. -/
def Value.isString : Value → Bool
| .string _ => true
| _ => false

/- A function of numbers is for two numbers only. -/
theorem Value.numeric?_eq_none_iff
    (f : Float → Float → Value)
    (left right : Value) :
    numeric? f left right = none ↔
      ¬(left.isNumber = true ∧ right.isNumber = true) := by
  cases left <;> cases right <;> simp [numeric?, isNumber]

/- Addition is for two numbers or two strings only. -/
theorem Value.plus?_eq_none_iff
    (left right : Value) :
    left.plus? right = none ↔
      ¬(left.isNumber = true ∧ right.isNumber = true) ∧
        ¬(left.isString = true ∧ right.isString = true) := by
  cases left <;> cases right <;>
    simp [plus?, isNumber, isString]

------------------------------------------------------------
-- Refusals
------------------------------------------------------------

/- The kinds of operators before an operand. -/
def unaryKinds : List Kind := [.minus, .bang]

/- Arithmetic without addition, and the orderings. -/
def numericKinds : List Kind :=
  [.minus, .slash, .star,
   .greater, .greaterEqual, .less, .lessEqual]

/- The kinds of operators between operands. -/
def binaryKinds : List Kind :=
  .plus :: .equalEqual :: .bangEqual :: numericKinds

/- How an operator refuses the operand behind it. -/
inductive Token.RefusesOne
    (operator : Token)
    (right : Value) : RuntimeError → Prop
| number :
    operator.kind = .minus →
    right.isNumber = false →
    RefusesOne operator right
      ⟨operator, "Operand must be a number."⟩
| unknown :
    operator.kind ∉ unaryKinds →
    RefusesOne operator right
      ⟨operator,
        "Unknown operator '" ++ operator.lexeme ++ "'."⟩

/- How an operator refuses the operands around it. -/
inductive Token.RefusesTwo
    (operator : Token)
    (left right : Value) : RuntimeError → Prop
| numbers :
    operator.kind ∈ numericKinds →
    ¬(left.isNumber = true ∧ right.isNumber = true) →
    RefusesTwo operator left right
      ⟨operator, "Operand must be a number."⟩
| addable :
    operator.kind = .plus →
    ¬(left.isNumber = true ∧ right.isNumber = true) →
    ¬(left.isString = true ∧ right.isString = true) →
    RefusesTwo operator left right
      ⟨operator,
        "Operands must be two numbers or two strings."⟩
| unknown :
    operator.kind ∉ binaryKinds →
    RefusesTwo operator left right
      ⟨operator,
        "Unknown operator '" ++ operator.lexeme ++ "'."⟩

------------------------------------------------------------
-- Refusals of Operators
------------------------------------------------------------

namespace Token

variable {operator : Token}
variable {err : RuntimeError}

/- Only what gives no value is an error. -/
theorem accept_eq_error_iff
    {rejection : Rejection}
    {value : Option Value} :
    operator.accept rejection value = .error err ↔
      value = none ∧ operator.reject rejection = err := by
  cases value <;> simp [accept]

/- Before an operand, an operator fails if it refuses it. -/
theorem applyUnary_eq_error_iff
    {right : Value} :
    operator.applyUnary right = .error err ↔
      operator.RefusesOne right err := by
  constructor
  · intro hErr
    unfold applyUnary at hErr
    split at hErr
    · exact nomatch hErr
    · rename_i hMinus
      split at hErr
      · exact nomatch hErr
      · rename_i hNumber
        cases hErr
        refine .number hMinus ?_
        cases right with
        | number x => exact absurd rfl (hNumber x)
        | _ => rfl
    · rename_i hBang hMinus
      cases hErr
      refine .unknown ?_
      intro hKind
      simp only [unaryKinds, List.mem_cons,
        List.not_mem_nil, or_false] at hKind
      exact hKind.elim hMinus hBang
  · intro hRefuses
    unfold applyUnary
    cases hRefuses with
    | number hMinus hNumber =>
        rw [hMinus]
        cases right with
        | number x => exact nomatch hNumber
        | _ => rfl
    | unknown hKind =>
        split
        · rename_i hBang
          exact absurd (by simp [unaryKinds, hBang]) hKind
        · rename_i hMinus
          exact absurd (by simp [unaryKinds, hMinus]) hKind
        · rfl

/- Between operands, an operator fails if it refuses them. -/
theorem applyBinary_eq_error_iff
    {left right : Value} :
    operator.applyBinary left right = .error err ↔
      operator.RefusesTwo left right err := by
  constructor
  · intro hErr
    cases hSelf : operator.kind with
    | plus =>
        simp only [applyBinary, hSelf, accept_eq_error_iff,
          Value.plus?_eq_none_iff] at hErr
        rcases hErr with ⟨⟨hNumbers, hStrings⟩, rfl⟩
        exact .addable hSelf hNumbers hStrings
    | minus | slash | star | greater | greaterEqual | less
    | lessEqual =>
        simp only [applyBinary, hSelf, applyNumeric,
          accept_eq_error_iff,
          Value.numeric?_eq_none_iff] at hErr
        rcases hErr with ⟨hNumbers, rfl⟩
        exact .numbers (by simp [numericKinds, hSelf])
          hNumbers
    | equalEqual | bangEqual =>
        simp only [applyBinary, hSelf] at hErr
        exact nomatch hErr
    | _ =>
        simp only [applyBinary, hSelf] at hErr
        cases hErr
        exact .unknown
          (by simp [binaryKinds, numericKinds, hSelf])
  · intro hRefuses
    cases hRefuses with
    | numbers hKind hNumbers =>
        have hNone := fun f =>
          (Value.numeric?_eq_none_iff f left right).mpr
            hNumbers
        simp only [numericKinds, List.mem_cons,
          List.not_mem_nil, or_false] at hKind
        rcases hKind with hSelf | hSelf | hSelf | hSelf |
            hSelf | hSelf | hSelf <;>
          simp only [applyBinary, hSelf, applyNumeric, hNone,
            accept] <;>
          rfl
    | addable hSelf hNumbers hStrings =>
        have hNone :=
          (Value.plus?_eq_none_iff left right).mpr
            ⟨hNumbers, hStrings⟩
        simp only [applyBinary, hSelf, hNone, accept]
        rfl
    | unknown hKind =>
        unfold applyBinary
        cases hSelf : operator.kind with
        | plus | minus | slash | star | greater
        | greaterEqual | less | lessEqual | equalEqual
        | bangEqual =>
            simp [binaryKinds, numericKinds, hSelf] at hKind
        | _ => rfl

end Token

end LoxExpr
