import LoxExpr.Proofs.Evaluation.Refusals
import LoxExpr.Proofs.Grammar.Derivation

/-
  This file says how the evaluation of a tree can fail, if
  every operator of the tree stands where one of its kind may
  stand: at an operator that takes values of some types only,
  with the message for its kind.

  Key definitions include:
    * `checkedOperators`
    * `Expr.OperatorsFit`
    * `RuntimeError.IsOf`

  Main statements:
    * `Derives.operatorsFit`
    * `Expr.OperatorsFit.eval_error`
-/

namespace LoxExpr

------------------------------------------------------------
-- Operators and Their Failures
------------------------------------------------------------

/- The operators that do not take all values. -/
def checkedOperators : List (String × Kind) :=
  [("-", .minus), ("+", .plus), ("/", .slash), ("*", .star),
   (">", .greater), (">=", .greaterEqual),
   ("<", .less), ("<=", .lessEqual)]

/- The kinds of the operators that do not take all values. -/
def checkedKinds : List Kind :=
  checkedOperators.map Prod.snd

/-
  A failure of an operator on operands that it does not take:
  addition takes numbers and strings, the others numbers.
-/
inductive RuntimeError.IsOf (operator : Token) :
    RuntimeError → Prop where
| addition :
    operator.kind = .plus →
    IsOf operator (operator.reject .notAddable)
| numeric :
    operator.kind ∈ checkedKinds →
    operator.kind ≠ .plus →
    IsOf operator (operator.reject .notNumber)

/- The wordings for wrong operands differ. -/
theorem ne_notAddable_notNumber :
    "Operands must be two numbers or two strings." ≠
      "Operand must be a number." := by
  decide

/- The wording for an unknown operator has its own front. -/
theorem Rejection.message_ne_unknown
    {operator : Token}
    {message : String}
    (hFront : message.toList.head? = some 'O') :
    message ≠ Rejection.unknownOperator.message operator := by
  have hUnknown :
      (Rejection.unknownOperator.message operator).toList =
        'U' :: ("nknown operator '".toList ++
          operator.lexeme.toList ++ "'.".toList) := by
    change
      ("Unknown operator '" ++ operator.lexeme ++
        "'.").toList = _
    simp only [String.toList_append]
    rfl
  rintro rfl
  rw [hUnknown] at hFront
  exact absurd hFront (by simp)

namespace RuntimeError.IsOf

variable {operator : Token}
variable {err : RuntimeError}

theorem token_eq
    (h : err.IsOf operator) :
    err.token = operator := by
  cases h <;> rfl

theorem kind_mem
    (h : err.IsOf operator) :
    operator.kind ∈ checkedKinds := by
  cases h with
  | addition hKind =>
      rw [hKind]
      decide
  | numeric hKind _ => exact hKind

/- Only addition speaks of strings. -/
theorem message_plus_iff
    (h : err.IsOf operator) :
    err.message =
        "Operands must be two numbers or two strings." ↔
      operator.kind = .plus := by
  cases h with
  | addition hKind => exact iff_of_true rfl hKind
  | numeric _ hKind =>
      exact iff_of_false (ne_notAddable_notNumber).symm hKind

/- All others speak of a number. -/
theorem message_number_iff
    (h : err.IsOf operator) :
    err.message = "Operand must be a number." ↔
      operator.kind ≠ .plus := by
  cases h with
  | addition hKind =>
      exact iff_of_false ne_notAddable_notNumber
        (not_not_intro hKind)
  | numeric _ hKind => exact iff_of_true rfl hKind

/- The operator was not unknown. -/
theorem ne_unknown
    (h : err.IsOf operator) :
    err ≠ operator.reject .unknownOperator := by
  intro hUnknown
  have hMessage := congrArg message hUnknown
  cases h with
  | addition _ =>
      have hFront :
          ("Operands must be two numbers or two strings."
            ).toList.head? = some 'O' := by
        decide
      exact Rejection.message_ne_unknown hFront hMessage
  | numeric _ _ =>
      have hFront :
          "Operand must be a number.".toList.head? =
            some 'O' := by
        decide
      exact Rejection.message_ne_unknown hFront hMessage

end RuntimeError.IsOf

/- Before its operand, only the minus sign can fail. -/
theorem Token.applyUnary_error
    {operator : Token}
    (hKind : operator.kind ∈ unaryOperators)
    {right : Value}
    {err : RuntimeError}
    (hErr : operator.applyUnary right = .error err) :
    err.IsOf operator := by
  have hKnown : unaryOperators ⊆ unaryKinds := by
    decide
  cases applyUnary_eq_error_iff.mp hErr with
  | number hMinus _ =>
      exact .numeric (by rw [hMinus]; decide)
        (by rw [hMinus]; decide)
  | unknown hUnknown => exact absurd (hKnown hKind) hUnknown

/- Between its operands, an operator fails by their types. -/
theorem Token.applyBinary_error
    {operator : Token}
    {level : Level}
    (hKind : operator.kind ∈ level.operators)
    {left right : Value}
    {err : RuntimeError}
    (hErr : operator.applyBinary left right = .error err) :
    err.IsOf operator := by
  have hKnown : level.operators ⊆ binaryKinds := by
    cases level <;> decide
  cases applyBinary_eq_error_iff.mp hErr with
  | numbers hNumbers _ =>
      have hChecked : ∀ kind ∈ numericKinds,
          kind ∈ checkedKinds ∧ kind ≠ .plus := by
        decide
      exact .numeric (hChecked _ hNumbers).1
        (hChecked _ hNumbers).2
  | addable hPlus _ _ => exact .addition hPlus
  | unknown hUnknown => exact absurd (hKnown hKind) hUnknown

------------------------------------------------------------
-- Trees Whose Operators Fit
------------------------------------------------------------

/-
  The operators before an operand are unary, and those
  between operands are binary.
-/
def Expr.OperatorsFit : Expr → Prop
| .literal _ => True
| .grouping inner => inner.OperatorsFit
| .unary operator right =>
    operator.kind ∈ unaryOperators ∧ right.OperatorsFit
| .binary left operator right =>
    (∃ level : Level, operator.kind ∈ level.operators) ∧
      left.OperatorsFit ∧ right.OperatorsFit
| .conditional condition thenBranch elseBranch =>
    condition.OperatorsFit ∧ thenBranch.OperatorsFit ∧
      elseBranch.OperatorsFit

/- In the tree of a derivation, operators fit. -/
theorem Derives.operatorsFit
    {start : Nonterminal}
    {w : List Token}
    {tree : Expr}
    (h : Derives start w tree) :
    tree.OperatorsFit := by
  induction h with
  | expression _ ih => exact ih
  | condition _ ih => exact ih
  | branches _ _ _ _ _ ih₁ ih₂ ih₃ =>
      exact ⟨ih₁, ih₂, ih₃⟩
  | operand _ ih => exact ih
  | operator _ hOperator _ ihLeft ihRight =>
      exact ⟨⟨_, hOperator⟩, ihLeft, ihRight⟩
  | unary hOperator _ ih => exact ⟨hOperator, ih⟩
  | primary _ ih => exact ih
  | literal _ => trivial
  | grouping _ _ _ ih => exact ih

/- What fails in two steps fails in one of them. -/
theorem error_of_bind
    {ε α β : Type}
    {first : Except ε α}
    {next : α → Except ε β}
    {e : ε}
    (hError : (first >>= next) = .error e) :
    first = .error e ∨
      ∃ a, first = .ok a ∧ next a = .error e := by
  cases first with
  | error e' =>
      rw [Except.error.inj hError]
      exact Or.inl rfl
  | ok a => exact Or.inr ⟨a, rfl, hError⟩

/- Evaluation fails at an operator of the tree. -/
theorem Expr.OperatorsFit.eval_error
    {e : Expr}
    (hFit : e.OperatorsFit)
    {err : RuntimeError}
    (hErr : e.eval = .error err) :
    ∃ operator ∈ e.operators, err.IsOf operator := by
  induction e with
  | literal value => exact nomatch hErr
  | grouping inner ih => exact ih hFit hErr
  | unary operator right ih =>
      rcases hFit with ⟨hKind, hRight⟩
      rcases error_of_bind hErr with hErr | ⟨_, _, hErr⟩
      · rcases ih hRight hErr with ⟨failed, hMem, hOf⟩
        exact ⟨failed, List.mem_cons_of_mem _ hMem, hOf⟩
      · exact ⟨operator, List.mem_cons_self,
          Token.applyUnary_error hKind hErr⟩
  | binary left operator right ihLeft ihRight =>
      rcases hFit with ⟨⟨level, hKind⟩, hLeft, hRight⟩
      rcases error_of_bind hErr with hErr | ⟨_, _, hErr⟩
      · rcases ihLeft hLeft hErr with ⟨failed, hMem, hOf⟩
        exact ⟨failed, List.mem_append_left _ hMem, hOf⟩
      rcases error_of_bind hErr with hErr | ⟨_, _, hErr⟩
      · rcases ihRight hRight hErr with
          ⟨failed, hMem, hOf⟩
        exact ⟨failed,
          List.mem_append_right _
            (List.mem_cons_of_mem _ hMem), hOf⟩
      · exact ⟨operator,
          List.mem_append_right _ List.mem_cons_self,
          Token.applyBinary_error hKind hErr⟩
  | conditional condition thenBranch elseBranch
      ihCondition ihThen ihElse =>
      rcases hFit with ⟨hCondition, hThen, hElse⟩
      rcases error_of_bind hErr with hErr | ⟨_, _, hErr⟩
      · rcases ihCondition hCondition hErr with
          ⟨failed, hMem, hOf⟩
        exact ⟨failed, List.mem_append_left _ hMem, hOf⟩
      split at hErr
      · rcases ihThen hThen hErr with ⟨failed, hMem, hOf⟩
        exact ⟨failed,
          List.mem_append_right _
            (List.mem_append_left _ hMem), hOf⟩
      · rcases ihElse hElse hErr with ⟨failed, hMem, hOf⟩
        exact ⟨failed,
          List.mem_append_right _
            (List.mem_append_right _ hMem), hOf⟩

end LoxExpr
