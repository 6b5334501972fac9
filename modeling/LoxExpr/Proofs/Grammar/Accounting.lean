import LoxExpr.Grammar.Cursor
import LoxExpr.Proofs.Grammar.Mending

/-
  This file shows that no tree is lost without a note.  The
  tree of a phrase travels through the readers on its own,
  and what they note in a list beside it; the two agree: a
  phrase that has been read has a tree if and only if
  nothing has been noted.

  Key definitions include:
    * `Outcome.Accounts`

  Main statements:
    * `accounts_readPhrase`
    * `Cursor.isSome_parse`
-/

namespace LoxExpr

------------------------------------------------------------
-- Outcomes That Account for Their Trees
------------------------------------------------------------

namespace Outcome

/-
  A reading that is given a tree, or is not, has a tree at
  its end if it was given one and noted nothing.  All that it
  notes are operators without left operand.
-/
structure Accounts
    (given : Bool)
    (o : Outcome) : Prop where
  tree :
    ∀ tree, o.result = .ok tree →
      tree.isSome = (given && o.missing.isEmpty)
  lacking : ∀ e ∈ o.missing, e.isMissing = true

/- What is given is passed on. -/
theorem accounts_done
    (tree : Option Expr)
    (rest : List Token) :
    Accounts tree.isSome (done tree rest) where
  tree := by
    intro tree' hOk
    simp [← Except.ok.inj hOk]
  lacking := by simp

/- A failure has no tree to account for. -/
theorem accounts_failed
    (given : Bool)
    (e : SyntaxError)
    (rest : List Token) :
    Accounts given (failed e rest) where
  tree := by
    intro tree hOk
    simp at hOk
  lacking := by simp

namespace Accounts

variable {given : Bool}
variable {o : Outcome}

/-
  What goes on uses the tree of the first part, and another
  one that may be there beside it.
-/
theorem andThen
    (h : Accounts given o)
    (beside : Bool)
    {next : Option Expr → List Token → Outcome}
    (hNext :
      ∀ tree, o.result = .ok tree →
        Accounts (beside && tree.isSome)
          (next tree o.rest)) :
    Accounts (beside && given) (o.andThen next) := by
  cases hResult : o.result with
  | error e =>
      rw [andThen_of_error hResult]
      refine ⟨?_, h.lacking⟩
      intro tree hOk
      simp [hResult] at hOk
  | ok first =>
      have hFirst := h.tree first hResult
      have hSecond := hNext first hResult
      rw [andThen_of_ok hResult]
      constructor
      · intro tree hOk
        rw [hSecond.tree tree hOk, hFirst]
        cases o.missing <;> simp
      · intro e hMem
        rcases List.mem_append.mp hMem with hMem | hMem
        · exact h.lacking e hMem
        · exact hSecond.lacking e hMem

/- What goes on uses the tree of the first part only. -/
theorem andThen_tree
    (h : Accounts given o)
    {next : Option Expr → List Token → Outcome}
    (hNext :
      ∀ tree, o.result = .ok tree →
        Accounts tree.isSome (next tree o.rest)) :
    Accounts given (o.andThen next) :=
  h.andThen true hNext

end Accounts

/- A token that is passed has no part in the tree. -/
theorem accounts_passKind
    {given : Bool}
    (ending : Ending)
    (kind : Kind)
    (message : String)
    (tokens : List Token)
    {next : Option Expr → List Token → Outcome}
    (hNext :
      ∀ token more, tokens = token :: more →
        Accounts given (next none more)) :
    Accounts given
      ((passKind ending kind message tokens).andThen
        next) := by
  cases tokens with
  | nil => exact accounts_failed _ _ _
  | cons token more =>
      by_cases hKind : token.kind = kind
      · rw [passKind_cons ending message hKind,
          andThen_done]
        exact hNext token more rfl
      · simp only [passKind, if_neg hKind, andThen_failed]
        exact accounts_failed _ _ _

end Outcome

------------------------------------------------------------
-- Operands
------------------------------------------------------------

open Outcome

/- A literal has a tree. -/
theorem accounts_readLiteral
    (ending : Ending)
    (token : Token)
    (more : List Token) :
    Accounts true (readLiteral ending token more) := by
  unfold readLiteral
  split
  · exact accounts_done (some _) more
  · exact accounts_failed _ _ _

/- An operator without left operand is noted, not read. -/
theorem accounts_passOperator
    {ending : Ending}
    {operator : Token}
    {more : List Token}
    {next : Option Expr → List Token → Outcome}
    (hNext : Accounts false (next none more)) :
    Accounts true
      ((passOperator ending operator more).andThen
        next) := by
  have hPassed :
      (passOperator ending operator more).result =
        .ok none := rfl
  rw [andThen_of_ok hPassed]
  constructor
  · intro tree hOk
    simpa [passOperator] using hNext.tree tree hOk
  · intro e hMem
    rcases List.mem_append.mp hMem with hMem | hMem
    · rw [List.mem_singleton.mp hMem]
      rfl
    · exact hNext.lacking e hMem

/- Every operand accounts for its tree. -/
theorem accounts_readOperand
    {ending : Ending}
    {token : Token}
    {more : List Token}
    (ih :
      ∀ phrase rest, rest.length < (token :: more).length →
        Accounts true (readPhrase ending phrase rest)) :
    Accounts true (readOperand ending token more) := by
  by_cases hUnary : token.kind.isUnary = true
  · rw [readOperand_of_isUnary ending hUnary]
    apply (ih _ _ (Nat.lt_succ_self _)).andThen_tree
    intro right _
    simpa using
      accounts_done (right.map (.unary token)) _
  by_cases hLiteral : token.kind.isLiteral = true
  · rw [readOperand_of_isLiteral ending hLiteral]
    exact accounts_readLiteral ending token more
  by_cases hOpening : token.kind = .leftParen
  · rw [readOperand_of_leftParen ending hOpening]
    apply (ih _ _ (Nat.lt_succ_self _)).andThen_tree
    intro inner _
    apply accounts_passKind
    intro _ rest _
    simpa using accounts_done (inner.map .grouping) rest
  cases hLevel : token.kind.level? with
  | some level =>
      rw [readOperand_of_level? ending hUnary hLevel]
      apply accounts_passOperator
      -- The operand behind the operator is dropped.
      apply (ih _ _ (Nat.lt_succ_self _)).andThen false
      intro _ _
      exact accounts_done none _
  | none =>
      rw [readOperand_of_none ending hUnary hLiteral
        hOpening hLevel]
      exact accounts_failed _ _ _

------------------------------------------------------------
-- All Readers
------------------------------------------------------------

/-
  A phrase is given nothing but its tokens; a chain and the
  branches are given the tree before them.
-/
theorem accounts_reading (ending : Ending) :
    (∀ phrase tokens,
      Accounts true (readPhrase ending phrase tokens)) ∧
    (∀ level left tokens,
      Accounts left.isSome
        (readChain ending level left tokens)) ∧
    ∀ condition tokens,
      Accounts condition.isSome
        (readBranches ending condition tokens) := by
  apply reading_induction
  case conditional =>
    intro tokens hEquality hBranches
    rw [readPhrase_conditional]
    apply hEquality.andThen_tree
    intro condition _
    exact hBranches condition _
      (length_rest_readPhrase_le _ _ _)
  case binary =>
    intro level tokens hOperand hChain
    rw [readPhrase_binary]
    apply hOperand.andThen_tree
    intro left _
    exact hChain left _ (length_rest_readPhrase_le _ _ _)
  case unary =>
    intro tokens ih
    cases tokens with
    | nil =>
        rw [readPhrase_unary_nil]
        exact accounts_failed _ _ _
    | cons token more =>
        rw [readPhrase_unary_cons]
        exact accounts_readOperand ih
  case chain =>
    intro level left tokens hPhrase hChain
    cases tokens with
    | nil =>
        rw [readChain_nil]
        exact accounts_done left []
    | cons operator more =>
        rw [readChain_cons]
        split
        · have hRight :=
            hPhrase level.operand more (Nat.lt_succ_self _)
          rw [← Bool.and_true left.isSome]
          apply hRight.andThen left.isSome
          intro right _
          rw [← isSome_binaryTree left operator right]
          exact hChain _ _
            (Nat.lt_succ_of_le
              (length_rest_readPhrase_le _ _ _))
        · exact accounts_done left _
  case branches =>
    intro condition tokens hPhrase
    cases tokens with
    | nil =>
        rw [readBranches_nil]
        exact accounts_done condition []
    | cons token more =>
        rw [readBranches_cons]
        split
        · have hThen :=
            hPhrase .conditional more (Nat.lt_succ_self _)
          rw [← Bool.and_true condition.isSome]
          apply hThen.andThen condition.isSome
          intro thenBranch _
          apply accounts_passKind
          intro _ rest hRest
          have hBound :=
            length_rest_readPhrase_le ending .conditional
              more
          rw [hRest, List.length_cons] at hBound
          have hElse := hPhrase .conditional rest (by
            rw [List.length_cons]
            omega)
          rw [← Bool.and_true
            (condition.isSome && thenBranch.isSome)]
          apply hElse.andThen
          intro elseBranch _
          rw [Bool.and_assoc, ← isSome_conditionalTree]
          exact accounts_done _ _
        · exact accounts_done condition _

/- A phrase has a tree if and only if nothing is noted. -/
theorem accounts_readPhrase
    (ending : Ending)
    (phrase : Phrase)
    (tokens : List Token) :
    Accounts true (readPhrase ending phrase tokens) :=
  (accounts_reading ending).1 phrase tokens

------------------------------------------------------------
-- Readings at a Cursor
------------------------------------------------------------

/- A reading without errors has a tree. -/
theorem Outcome.Accounts.isSome_tree?
    {o : Outcome}
    (h : Accounts true o)
    (hErrors : o.errors = []) :
    o.tree?.isSome = true := by
  unfold errors at hErrors
  unfold tree?
  split at hErrors
  · simp at hErrors
  · rename_i tree hResult
    simpa [hErrors] using h.tree tree hResult

/- A cursor gives a tree if and only if it has no errors. -/
theorem Cursor.isSome_parse (c : Cursor) :
    c.parse.1.isSome = c.parse.2.errors.isEmpty := by
  have hAccounts :=
    accounts_readPhrase c.ending .conditional c.live
  rw [errors_parse]
  simp only [parse]
  split
  · rename_i hNone
    rw [hNone]
    apply hAccounts.isSome_tree?
    simp only [List.isEmpty_iff, List.append_eq_nil_iff]
      at hNone
    exact hNone.2
  · rename_i hSome
    simpa using hSome

end LoxExpr
