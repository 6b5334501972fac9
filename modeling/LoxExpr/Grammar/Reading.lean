import LoxExpr.Grammar.Bounded
import LoxExpr.Grammar.Level

/-
  This file reads phrases of the grammar from the front of a
  list of tokens.

  Key definitions include:
    * `readPhrase`
    * `readBranches`
    * `readChain`
    * `readOperand`

  The readers are defined together with a bound on the
  tokens that they leave, by which they end.  What they do
  is stated without it, by one equation for each case.
-/

namespace LoxExpr

------------------------------------------------------------
-- Reading Within Bounds
------------------------------------------------------------

mutual

/- Read a phrase, and know that nothing is put back. -/
def readBounded
    (ending : Ending)
    (phrase : Phrase)
    (tokens : List Token) : Bounded tokens.length :=
  match phrase, tokens with
  | .conditional, tokens =>
      (readBounded ending (.binary .equality) tokens).andThen
        fun condition rest hRest =>
          (branchesBounded ending condition rest).widen hRest
  | .binary level, tokens =>
      (readBounded ending level.operand tokens).andThen
        fun left rest hRest =>
          (chainBounded ending level left rest).widen hRest
  | .unary, [] =>
      ⟨.failed (ending.errorAt .expectedExpression []) [],
        Nat.le_refl _⟩
  | .unary, token :: more =>
      operandBounded ending token more
termination_by (tokens.length, phrase.rank)
decreasing_by
  all_goals grind [Level.rank_operand_lt,
    Level.rank_lt_conditional, Phrase.rank_pos]

/- Read the branches behind a condition, if they follow. -/
def branchesBounded
    (ending : Ending)
    (condition : Option Expr)
    (tokens : List Token) : Bounded tokens.length :=
  match tokens with
  | [] => .done condition [] (Nat.le_refl _)
  | token :: more =>
      if token.kind = .question then
        (readBounded ending .conditional more).andThen
          (fun thenBranch rest hThen =>
            (Bounded.passColon ending rest hThen).andThen
              fun _ rest hColon =>
                ((readBounded ending .conditional rest).widen
                  hColon).andThen
                  fun elseBranch rest hElse =>
                    .done
                      (conditionalTree condition thenBranch
                        elseBranch)
                      rest hElse)
        |>.widen (Nat.le_succ _)
      else
        .done condition (token :: more) (Nat.le_refl _)
termination_by (tokens.length, 0)
decreasing_by
  all_goals grind

/- Read further operands of a level behind its first one. -/
def chainBounded
    (ending : Ending)
    (level : Level)
    (left : Option Expr)
    (tokens : List Token) : Bounded tokens.length :=
  match tokens with
  | [] => .done left [] (Nat.le_refl _)
  | operator :: more =>
      if operator.kind.level? = some level then
        (readBounded ending level.operand more).andThen
          (fun right rest hRest =>
            (chainBounded ending level
              (binaryTree left operator right) rest).widen
              hRest)
        |>.widen (Nat.le_succ _)
      else
        .done left (operator :: more) (Nat.le_refl _)
termination_by (tokens.length, 0)
decreasing_by
  all_goals grind

/- Read an operand that begins with a given token. -/
def operandBounded
    (ending : Ending)
    (token : Token)
    (more : List Token) : Bounded (more.length + 1) :=
  if token.kind.isUnary then
    (readBounded ending .unary more).andThen
      (fun right rest hRest =>
        .done (right.map (.unary token)) rest hRest)
    |>.widen (Nat.le_succ _)
  else if token.kind.isLiteral then
    ⟨readLiteral ending token more,
      by simp [rest_readLiteral]⟩
  else if token.kind = .leftParen then
    (readBounded ending .conditional more).andThen
      (fun inner rest hInner =>
        (Bounded.passClose ending rest hInner).andThen
          fun _ rest hRest =>
            .done (inner.map .grouping) rest hRest)
    |>.widen (Nat.le_succ _)
  else
    match token.kind.level? with
    | some level =>
        (Bounded.passOperator ending token more).andThen
          (fun _ rest hRest =>
            ((readBounded ending level.operand rest).widen
              hRest).andThen
              fun _ rest hRest => .done none rest hRest)
        |>.widen (Nat.le_succ _)
    | none =>
        ⟨.failed
          (ending.errorAt .expectedExpression (token :: more))
          (token :: more), Nat.le_refl _⟩
termination_by (more.length + 1, 0)
decreasing_by
  all_goals grind

end

------------------------------------------------------------
-- Reading
------------------------------------------------------------

/- Read a phrase. -/
def readPhrase
    (ending : Ending)
    (phrase : Phrase)
    (tokens : List Token) : Outcome :=
  (readBounded ending phrase tokens).val

/- Read the branches behind a condition, if they follow. -/
def readBranches
    (ending : Ending)
    (condition : Option Expr)
    (tokens : List Token) : Outcome :=
  (branchesBounded ending condition tokens).val

/- Read further operands of a level behind its first one. -/
def readChain
    (ending : Ending)
    (level : Level)
    (left : Option Expr)
    (tokens : List Token) : Outcome :=
  (chainBounded ending level left tokens).val

/- Read an operand that begins with a given token. -/
def readOperand
    (ending : Ending)
    (token : Token)
    (more : List Token) : Outcome :=
  (operandBounded ending token more).val

------------------------------------------------------------
-- Nothing Is Put Back
------------------------------------------------------------

theorem length_rest_readPhrase_le
    (ending : Ending)
    (phrase : Phrase)
    (tokens : List Token) :
    (readPhrase ending phrase tokens).rest.length ≤
      tokens.length :=
  (readBounded ending phrase tokens).property

------------------------------------------------------------
-- What the Readers Do
------------------------------------------------------------

/- A conditional is an equality and the branches behind it. -/
theorem readPhrase_conditional
    (ending : Ending)
    (tokens : List Token) :
    readPhrase ending .conditional tokens =
      (readPhrase ending (.binary .equality) tokens).andThen
        (readBranches ending) := by
  unfold readPhrase
  rw [readBounded]
  exact Bounded.val_andThen _ _ _ fun _ _ _ => rfl

/- A level is a first operand and the chain behind it. -/
theorem readPhrase_binary
    (ending : Ending)
    (level : Level)
    (tokens : List Token) :
    readPhrase ending (.binary level) tokens =
      (readPhrase ending level.operand tokens).andThen
        (readChain ending level) := by
  unfold readPhrase
  rw [readBounded]
  exact Bounded.val_andThen _ _ _ fun _ _ _ => rfl

/- Nothing is left that an operand could begin with. -/
theorem readPhrase_unary_nil (ending : Ending) :
    readPhrase ending .unary [] =
      .failed (ending.errorAt .expectedExpression []) [] := by
  simp [readPhrase, readBounded]

/- A unary phrase is told by its first token. -/
theorem readPhrase_unary_cons
    (ending : Ending)
    (token : Token)
    (more : List Token) :
    readPhrase ending .unary (token :: more) =
      readOperand ending token more := by
  simp [readPhrase, readOperand, readBounded]

/- No branches follow at the end. -/
theorem readBranches_nil
    (ending : Ending)
    (condition : Option Expr) :
    readBranches ending condition [] =
      .done condition [] := by
  simp [readBranches, branchesBounded, Bounded.done]

/- Branches follow behind a question mark. -/
theorem readBranches_cons
    (ending : Ending)
    (condition : Option Expr)
    (token : Token)
    (more : List Token) :
    readBranches ending condition (token :: more) =
      if token.kind = .question then
        (readPhrase ending .conditional more).andThen
          fun thenBranch rest =>
        (passColon ending rest).andThen fun _ rest =>
        (readPhrase ending .conditional rest).andThen
          fun elseBranch rest =>
        .done
          (conditionalTree condition thenBranch elseBranch)
          rest
      else
        .done condition (token :: more) := by
  unfold readBranches readPhrase
  rw [branchesBounded]
  split
  · rw [Bounded.val_widen]
    refine Bounded.val_andThen _ _ _ fun _ _ _ => ?_
    refine Bounded.val_andThen _ _ _ fun _ _ _ => ?_
    exact Bounded.val_andThen _ _ _ fun _ _ _ => rfl
  · rfl

/- No operator follows at the end. -/
theorem readChain_nil
    (ending : Ending)
    (level : Level)
    (left : Option Expr) :
    readChain ending level left [] = .done left [] := by
  simp [readChain, chainBounded, Bounded.done]

/- Operators of the level are grouped to the left. -/
theorem readChain_cons
    (ending : Ending)
    (level : Level)
    (left : Option Expr)
    (operator : Token)
    (more : List Token) :
    readChain ending level left (operator :: more) =
      if operator.kind.level? = some level then
        (readPhrase ending level.operand more).andThen
          fun right =>
        readChain ending level
          (binaryTree left operator right)
      else
        .done left (operator :: more) := by
  unfold readChain readPhrase
  rw [chainBounded]
  split
  · rw [Bounded.val_widen]
    exact Bounded.val_andThen _ _ _ fun _ _ _ => rfl
  · rfl

/-
  An operand is an operator before an operand, a literal, or
  a group.  A binary operator is passed with the phrase
  behind it.
-/
theorem readOperand_eq
    (ending : Ending)
    (token : Token)
    (more : List Token) :
    readOperand ending token more =
      if token.kind.isUnary then
        (readPhrase ending .unary more).andThen
          fun right => .done (right.map (.unary token))
      else if token.kind.isLiteral then
        readLiteral ending token more
      else if token.kind = .leftParen then
        (readPhrase ending .conditional more).andThen
          fun inner rest =>
        (passClose ending rest).andThen
          fun _ => .done (inner.map .grouping)
      else
        match token.kind.level? with
        | some level =>
            (passOperator ending token more).andThen
              fun _ rest =>
            (readPhrase ending level.operand rest).andThen
              fun _ => .done none
        | none =>
            .failed
              (ending.errorAt .expectedExpression
                (token :: more))
              (token :: more) := by
  unfold readOperand readPhrase
  rw [operandBounded]
  split
  · rw [Bounded.val_widen]
    exact Bounded.val_andThen _ _ _ fun _ _ _ => rfl
  split
  · rfl
  split
  · rw [Bounded.val_widen]
    refine Bounded.val_andThen _ _ _ fun _ _ _ => ?_
    exact Bounded.val_andThen _ _ _ fun _ _ _ => rfl
  split
  · rw [Bounded.val_widen]
    refine Bounded.val_andThen _ _ _ fun _ _ _ => ?_
    exact Bounded.val_andThen _ _ _ fun _ _ _ => rfl
  · rfl

end LoxExpr
