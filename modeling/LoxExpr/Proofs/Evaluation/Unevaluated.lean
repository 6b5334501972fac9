import LoxExpr.Expr.Eval

/-
  This file compares trees that differ only in parts that are
  not evaluated: the branch of a conditional that the value
  of the condition does not select, and everything behind a
  failure within the same node.  They have the same value, or
  the same failure.

  Key definitions include:
    * `Expr.HasValue`
    * `Expr.Selects`
    * `Expr.Varies`

  Main statements:
    * `Expr.Varies.eval_eq`
    * `Expr.unevaluated_does_not_matter`
-/

namespace LoxExpr

namespace Expr

------------------------------------------------------------
-- Trees with Other Unevaluated Parts
------------------------------------------------------------

/- Evaluation comes to a value. -/
def HasValue (e : Expr) : Prop :=
  ∃ value, e.eval = .ok value

/-
  The condition has a value, and it selects the first branch
  if `branch` is true, and the other one if it is not.
-/
def Selects
    (condition : Expr)
    (branch : Bool) : Prop :=
  ∃ value, condition.eval = .ok value ∧
    value.isTruthy = branch

/-
  A tree with any number of its unevaluated parts replaced by
  any others.  A right operand may be any tree unless the
  left operand has a value, and a branch may be any tree
  unless the condition selects it; so may both branches if
  the condition fails.  What is evaluated may vary inside.
-/
inductive Varies : Expr → Expr → Prop
| literal (value : Value) :
    Varies (.literal value) (.literal value)
| grouping {inner inner' : Expr} :
    Varies inner inner' →
    Varies (.grouping inner) (.grouping inner')
| unary (operator : Token) {right right' : Expr} :
    Varies right right' →
    Varies (.unary operator right) (.unary operator right')
| binary (operator : Token)
    {left left' right right' : Expr} :
    Varies left left' →
    (left.HasValue → Varies right right') →
    Varies (.binary left operator right)
      (.binary left' operator right')
| conditional
    {condition condition' : Expr}
    {thenBranch thenBranch' : Expr}
    {elseBranch elseBranch' : Expr} :
    Varies condition condition' →
    (condition.Selects true →
      Varies thenBranch thenBranch') →
    (condition.Selects false →
      Varies elseBranch elseBranch') →
    Varies (.conditional condition thenBranch elseBranch)
      (.conditional condition' thenBranch' elseBranch')

/- Nothing has to be replaced. -/
theorem Varies.refl (e : Expr) : e.Varies e := by
  induction e with
  | literal value => exact .literal value
  | grouping inner ih => exact .grouping ih
  | unary operator right ih => exact .unary operator ih
  | binary left operator right ihLeft ihRight =>
      exact .binary operator ihLeft fun _ => ihRight
  | conditional condition thenBranch elseBranch
      ihCondition ihThen ihElse =>
      exact .conditional ihCondition (fun _ => ihThen)
        fun _ => ihElse

------------------------------------------------------------
-- What One Node Evaluates
------------------------------------------------------------

/- Operands are evaluated up to the first that fails. -/
theorem eval_binary_congr
    {left left' right right' : Expr}
    (hLeft : left'.eval = left.eval)
    (hRight : left.HasValue → right'.eval = right.eval)
    (operator : Token) :
    (binary left' operator right').eval =
      (binary left operator right).eval := by
  cases hValue : left.eval with
  | error err =>
      rw [eval, eval, hLeft, hValue]
      rfl
  | ok value =>
      rw [eval, eval, hLeft, hRight ⟨value, hValue⟩]

/- Of the branches, the one that is selected is evaluated. -/
theorem eval_conditional_congr
    {condition condition' : Expr}
    {thenBranch thenBranch' : Expr}
    {elseBranch elseBranch' : Expr}
    (hCondition : condition'.eval = condition.eval)
    (hThen :
      condition.Selects true →
        thenBranch'.eval = thenBranch.eval)
    (hElse :
      condition.Selects false →
        elseBranch'.eval = elseBranch.eval) :
    (conditional condition' thenBranch' elseBranch').eval =
      (conditional condition thenBranch
        elseBranch).eval := by
  cases hValue : condition.eval with
  | error err =>
      rw [eval, eval, hCondition, hValue]
      rfl
  | ok value =>
      rw [eval, eval, hCondition, hValue]
      cases hTruthy : value.isTruthy with
      | true =>
          have hSame := hThen ⟨value, hValue, hTruthy⟩
          simpa [bind, Except.bind, hTruthy] using hSame
      | false =>
          have hSame := hElse ⟨value, hValue, hTruthy⟩
          simpa [bind, Except.bind, hTruthy] using hSame

------------------------------------------------------------
-- What a Tree Evaluates
------------------------------------------------------------

/-
  What is not evaluated has no part in the value, nor in the
  failure.  The induction is on what varies: a part that may
  be any tree has no induction hypothesis, and its node needs
  none.
-/
theorem Varies.eval_eq
    {e e' : Expr}
    (h : e.Varies e') :
    e'.eval = e.eval := by
  induction h with
  | literal value => rfl
  | grouping _ ih => exact ih
  | unary operator _ ih => rw [eval, eval, ih]
  | binary operator _ _ ihLeft ihRight =>
      exact eval_binary_congr ihLeft ihRight operator
  | conditional _ _ _ ihCondition ihThen ihElse =>
      exact eval_conditional_congr ihCondition ihThen ihElse

/-
  A tree and one with other unevaluated parts have the same
  value, or fail with the same message at the same token; and
  so they have the same text.
-/
theorem unevaluated_does_not_matter
    {e e' : Expr}
    (h : e.Varies e') :
    e'.eval = e.eval ∧ e'.interpret = e.interpret := by
  have hEval := h.eval_eq
  refine ⟨hEval, ?_⟩
  rw [interpret, interpret, hEval]

/-
  In `false ? nil : -nil + nil` the minus sign fails, and it
  does so with another first branch and another summand.
-/
theorem unevaluated_minus_nil :
    let minus : Token := ⟨.minus, "-", none, 1⟩
    let plus : Token := ⟨.plus, "+", none, 1⟩
    let negated : Expr := .unary minus (.literal .nil)
    let tree : Expr :=
      .conditional (.literal (.bool false)) (.literal .nil)
        (.binary negated plus (.literal .nil))
    let tree' : Expr :=
      .conditional (.literal (.bool false)) negated
        (.binary negated plus
          (.grouping (.literal (.bool true))))
    tree.Varies tree' ∧
      tree'.eval =
        .error ⟨minus, "Operand must be a number."⟩ ∧
      tree'.interpret = tree.interpret := by
  intro minus plus negated tree tree'
  have hVaries : tree.Varies tree' := by
    refine .conditional (.literal _) ?_ ?_
    · rintro ⟨value, hValue, hTruthy⟩
      cases hValue
      exact nomatch hTruthy
    · intro _
      refine .binary plus (.refl negated) ?_
      rintro ⟨value, hValue⟩
      exact nomatch hValue
  rcases unevaluated_does_not_matter hVaries with
    ⟨hEval, hInterpret⟩
  exact ⟨hVaries, hEval.trans rfl, hInterpret⟩

end Expr

end LoxExpr
