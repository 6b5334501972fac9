import LoxExpr.Grammar.Cursor
import LoxExpr.Proofs.Grammar.Start

/-
  This file says where a reading is when it finds an error:
  the tokens that it has not passed are the last ones of what
  it was given, and the error stands at the first of them.
  So every error is at a token of the list, or at its end.

  Key definitions include:
    * `Outcome.StaysWithin`

  Main statements:
    * `staysWithin_readPhrase`
    * `Cursor.token_mem_of_mem_errors`
-/

namespace LoxExpr

------------------------------------------------------------
-- Outcomes within Their Tokens
------------------------------------------------------------

namespace Outcome

/-
  What is left are the last of the tokens, and every error
  stands at the first of some last ones, or at the end.
-/
structure StaysWithin
    (ending : Ending)
    (tokens : List Token)
    (o : Outcome) : Prop where
  rest : o.rest <:+ tokens
  errors :
    ∀ e ∈ o.errors, ∃ behind, behind <:+ tokens ∧
      e = ending.errorAt e.fault behind

variable {ending : Ending}
variable {tokens : List Token}

theorem staysWithin_done (tree : Option Expr) :
    StaysWithin ending tokens (done tree tokens) where
  rest := List.suffix_refl _
  errors := by simp [Outcome.errors]

/- A failure stands where the reading is, or was. -/
theorem staysWithin_failed
    (fault : SyntaxFault)
    {behind rest : List Token}
    (hBehind : behind <:+ tokens)
    (hRest : rest <:+ tokens) :
    StaysWithin ending tokens
      (failed (ending.errorAt fault behind) rest) where
  rest := hRest
  errors := by
    intro e hMem
    have hSame : e = ending.errorAt fault behind := by
      simpa [Outcome.errors] using hMem
    subst hSame
    exact ⟨behind, hBehind, rfl⟩

/- The errors of two readings are those of both in order. -/
theorem errors_andThen
    {o : Outcome}
    {tree : Option Expr}
    (hOk : o.result = .ok tree)
    (next : Option Expr → List Token → Outcome) :
    (o.andThen next).errors =
      o.errors ++ (next tree o.rest).errors := by
  rw [andThen_of_ok hOk]
  unfold Outcome.errors
  rw [hOk]
  cases (next tree o.rest).result with
  | error e => exact List.append_assoc _ _ _
  | ok tree' => rfl

namespace StaysWithin

variable {o : Outcome}

/- Earlier tokens do not change what the last ones are. -/
theorem cons
    (h : StaysWithin ending tokens o)
    (token : Token) :
    StaysWithin ending (token :: tokens) o where
  rest := h.rest.trans (List.suffix_cons _ _)
  errors := by
    intro e hMem
    rcases h.errors e hMem with ⟨behind, hBehind, hError⟩
    exact ⟨behind, hBehind.trans (List.suffix_cons _ _),
      hError⟩

/- What goes on is given the last tokens. -/
theorem andThen
    (h : StaysWithin ending tokens o)
    {next : Option Expr → List Token → Outcome}
    (hNext :
      ∀ tree,
        StaysWithin ending o.rest (next tree o.rest)) :
    StaysWithin ending tokens (o.andThen next) := by
  cases hResult : o.result with
  | error e =>
      rw [andThen_of_error hResult]
      exact h
  | ok tree =>
      constructor
      · rw [andThen_of_ok hResult]
        exact (hNext tree).rest.trans h.rest
      · intro e hMem
        rw [errors_andThen hResult] at hMem
        rcases List.mem_append.mp hMem with hMem | hMem
        · exact h.errors e hMem
        · rcases (hNext tree).errors e hMem with
            ⟨behind, hBehind, hError⟩
          exact ⟨behind, hBehind.trans h.rest, hError⟩

end StaysWithin

theorem staysWithin_passKind
    (kind : Kind)
    (message : String) :
    StaysWithin ending tokens
      (passKind ending kind message tokens) := by
  cases tokens with
  | nil =>
      exact staysWithin_failed _ (List.suffix_refl _)
        (List.suffix_refl _)
  | cons token more =>
      simp only [passKind]
      split
      · exact (staysWithin_done none).cons token
      · exact staysWithin_failed _ (List.suffix_refl _)
          (List.suffix_refl _)

end Outcome

------------------------------------------------------------
-- All Readers
------------------------------------------------------------

open Outcome

/- A literal without a value fails where it stands. -/
theorem staysWithin_readLiteral
    (ending : Ending)
    (token : Token)
    (more : List Token) :
    StaysWithin ending (token :: more)
      (readLiteral ending token more) := by
  unfold readLiteral
  split
  · exact (staysWithin_done _).cons token
  · exact staysWithin_failed _ (List.suffix_refl _)
      (List.suffix_cons _ _)

/- An operator is noted where it stands. -/
theorem staysWithin_passOperator
    (ending : Ending)
    (operator : Token)
    (more : List Token) :
    StaysWithin ending (operator :: more)
      (passOperator ending operator more) where
  rest := List.suffix_cons _ _
  errors := by
    intro e hMem
    have hSame :
        e = ending.errorAt .missingLeftOperand
          (operator :: more) := by
      simpa [Outcome.errors, passOperator] using hMem
    subst hSame
    exact ⟨_, List.suffix_refl _, rfl⟩

/- An operand stays within the tokens from its first on. -/
theorem staysWithin_readOperand
    {ending : Ending}
    {token : Token}
    {more : List Token}
    (ih :
      ∀ phrase rest, rest.length < (token :: more).length →
        StaysWithin ending rest
          (readPhrase ending phrase rest)) :
    StaysWithin ending (token :: more)
      (readOperand ending token more) := by
  have hMore : ∀ phrase,
      StaysWithin ending more
        (readPhrase ending phrase more) :=
    fun phrase => ih phrase more (Nat.lt_succ_self _)
  rw [readOperand_eq]
  split
  · apply ((hMore _).andThen _).cons
    intro right
    exact staysWithin_done _
  split
  · exact staysWithin_readLiteral ending token more
  split
  · apply ((hMore _).andThen _).cons
    intro inner
    apply (staysWithin_passKind _ _).andThen
    intro _
    exact staysWithin_done _
  split
  · apply (staysWithin_passOperator _ _ _).andThen
    intro _
    apply (hMore _).andThen
    intro _
    exact staysWithin_done _
  · exact staysWithin_failed _ (List.suffix_refl _)
      (List.suffix_refl _)

/- Every reader stays within its tokens. -/
theorem staysWithin_reading (ending : Ending) :
    (∀ phrase tokens,
      StaysWithin ending tokens
        (readPhrase ending phrase tokens)) ∧
    (∀ level left tokens,
      StaysWithin ending tokens
        (readChain ending level left tokens)) ∧
    ∀ condition tokens,
      StaysWithin ending tokens
        (readBranches ending condition tokens) := by
  apply reading_induction
  case conditional =>
    intro tokens hEquality hBranches
    rw [readPhrase_conditional]
    apply hEquality.andThen
    intro condition
    exact hBranches condition _
      (length_rest_readPhrase_le _ _ _)
  case binary =>
    intro level tokens hOperand hChain
    rw [readPhrase_binary]
    apply hOperand.andThen
    intro left
    exact hChain left _ (length_rest_readPhrase_le _ _ _)
  case unary =>
    intro tokens ih
    cases tokens with
    | nil =>
        rw [readPhrase_unary_nil]
        exact staysWithin_failed _ (List.suffix_refl _)
          (List.suffix_refl _)
    | cons token more =>
        rw [readPhrase_unary_cons]
        exact staysWithin_readOperand ih
  case chain =>
    intro level left tokens hPhrase hChain
    cases tokens with
    | nil =>
        rw [readChain_nil]
        exact staysWithin_done left
    | cons operator more =>
        rw [readChain_cons]
        split
        · apply ((hPhrase level.operand more
            (Nat.lt_succ_self _)).andThen _).cons
          intro right
          exact hChain _ _ (Nat.lt_succ_of_le
            (length_rest_readPhrase_le _ _ _))
        · exact staysWithin_done left
  case branches =>
    intro condition tokens hPhrase
    cases tokens with
    | nil =>
        rw [readBranches_nil]
        exact staysWithin_done condition
    | cons token more =>
        rw [readBranches_cons]
        split
        · apply ((hPhrase .conditional more
            (Nat.lt_succ_self _)).andThen _).cons
          intro thenBranch
          apply (staysWithin_passKind _ _).andThen
          intro _
          have hBound := Nat.le_trans
            (length_rest_passColon_le ending _)
            (length_rest_readPhrase_le ending .conditional
              more)
          apply (hPhrase .conditional _
            (Nat.lt_succ_of_le hBound)).andThen
          intro elseBranch
          exact staysWithin_done _
        · exact staysWithin_done condition

theorem staysWithin_readPhrase
    (ending : Ending)
    (phrase : Phrase)
    (tokens : List Token) :
    StaysWithin ending tokens
      (readPhrase ending phrase tokens) :=
  (staysWithin_reading ending).1 phrase tokens

------------------------------------------------------------
-- Errors of the First Reading
------------------------------------------------------------

/- An error stands at one of the tokens, or at the end. -/
theorem Ending.token_errorAt_mem
    (ending : Ending)
    (fault : SyntaxFault)
    (behind : List Token) :
    (ending.errorAt fault behind).token ∈
      behind ++ [ending.token] := by
  cases behind with
  | nil => exact List.mem_singleton_self _
  | cons token more => exact List.mem_cons_self

/- The errors of the first reading are at its tokens. -/
theorem Cursor.token_mem_of_mem_errors
    {tokens : List Token}
    {e : SyntaxError}
    (hMem : e ∈ (ofTokens tokens).parse.2.errors) :
    e.token ∈ closeTokens tokens := by
  rcases closeTokens_eq_append tokens with
    ⟨closing, unread, _, hSplit⟩
  rw [parse_ofTokens] at hMem
  rcases (staysWithin_readPhrase _ _ _).errors e hMem with
    ⟨behind, hBehind, hError⟩
  have hToken :=
    (ofTokens tokens).ending.token_errorAt_mem e.fault behind
  rw [← hError, token_ending_ofTokens hSplit] at hToken
  rw [hSplit]
  rcases List.mem_append.mp hToken with hLive | hClosing
  · exact List.mem_append_left _ (hBehind.subset hLive)
  · rw [List.mem_singleton.mp hClosing]
    exact List.mem_append_right _ List.mem_cons_self

end LoxExpr
