import LoxExpr.Grammar.Outcome

/-
  This file defines outcomes that are known to leave at most
  a number of tokens.  A reader that gives them can be called
  again on what is left.

  Key definitions include:
    * `Bounded`
    * `Bounded.andThen`
    * `Bounded.val_andThen`
-/

namespace LoxExpr

------------------------------------------------------------
-- Bounded Outcomes
------------------------------------------------------------

/- An outcome that leaves at most a number of tokens. -/
abbrev Bounded (n : Nat) :=
  { o : Outcome // o.rest.length ≤ n }

namespace Bounded

/- A bound may be raised. -/
def widen
    {m n : Nat}
    (o : Bounded m)
    (h : m ≤ n) : Bounded n :=
  ⟨o.val, Nat.le_trans o.property h⟩

/- Go on with a rest that is known to be within the bound. -/
def andThen
    {n : Nat}
    (o : Bounded n)
    (next :
      Option Expr → (rest : List Token) →
        rest.length ≤ n → Bounded n) : Bounded n :=
  match o.val.result with
  | .error _ => o
  | .ok tree =>
      let o' := next tree o.val.rest o.property
      ⟨⟨o'.val.result, o.val.missing ++ o'.val.missing,
        o'.val.rest⟩, o'.property⟩

/- Reading is done within the bound. -/
def done
    {n : Nat}
    (tree : Option Expr)
    (rest : List Token)
    (h : rest.length ≤ n) : Bounded n :=
  ⟨.done tree rest, h⟩

/- Pass the colon of a conditional within the bound. -/
def passColon
    {n : Nat}
    (ending : Ending)
    (tokens : List Token)
    (h : tokens.length ≤ n) : Bounded n :=
  ⟨LoxExpr.passColon ending tokens,
    Nat.le_trans (length_rest_passKind_le _ _ _ _) h⟩

/- Pass the end of a group within the bound. -/
def passClose
    {n : Nat}
    (ending : Ending)
    (tokens : List Token)
    (h : tokens.length ≤ n) : Bounded n :=
  ⟨LoxExpr.passClose ending tokens,
    Nat.le_trans (length_rest_passKind_le _ _ _ _) h⟩

/- Pass an operator without left operand. -/
def passOperator
    (ending : Ending)
    (operator : Token)
    (more : List Token) : Bounded more.length :=
  ⟨LoxExpr.passOperator ending operator more, Nat.le_refl _⟩

/- A raised bound leaves the outcome as it is. -/
theorem val_widen
    {m n : Nat}
    (o : Bounded m)
    (h : m ≤ n) :
    (o.widen h).val = o.val := rfl

/- Going on within bounds is going on. -/
theorem val_andThen
    {n : Nat}
    (o : Bounded n)
    (next :
      Option Expr → (rest : List Token) →
        rest.length ≤ n → Bounded n)
    (next' : Option Expr → List Token → Outcome)
    (h :
      ∀ tree rest hRest,
        (next tree rest hRest).val = next' tree rest) :
    (o.andThen next).val = o.val.andThen next' := by
  unfold andThen Outcome.andThen
  split <;> simp_all

end Bounded

end LoxExpr
