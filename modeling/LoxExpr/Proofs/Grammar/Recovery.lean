import LoxExpr.Proofs.Grammar.Mending

/-
  This file shows that every reading mends: behind a phrase,
  with the missing operands put in, the levels that wait for
  the phrase are where they would be without them.

  Main statements:
    * `mends_reading`
    * `mends_readPhrase`
-/

namespace LoxExpr

/- The tree that stands for any tree. -/
def anyTree : Option Expr :=
  some (.literal .nil)

/- Failures with the same error have the same shape. -/
theorem Outcome.shape_failed
    {e e' : SyntaxError}
    (hKind : e.kindAt = e'.kindAt)
    (rest : List Token) :
    (failed e rest).shape = (failed e' rest).shape := by
  simp [shape, hKind]

/- A conditional begins with the operand at its front. -/
theorem readPhrase_conditional_cons
    (ending : Ending)
    (token : Token)
    (more : List Token) :
    readPhrase ending .conditional (token :: more) =
      (readOperand ending token more).andThen
        (Phrase.climb ending .unary) := by
  rw [readPhrase_conditional_eq_climb ending .unary,
    readPhrase_unary_cons]

section Recovery

variable {ending ending' : Ending}
variable {filler : Token → Token}

------------------------------------------------------------
-- Single Tokens
------------------------------------------------------------

/-
  Where a token is required, both readings find it, or both
  fail.
-/
theorem mends_passKind
    (hEnding : ending'.token = ending.token)
    (kind : Kind)
    (message : String)
    (tokens : List Token)
    {next next' : Option Expr → List Token → Outcome}
    {behind : List Token → Outcome}
    (hNext :
      ∀ token more, tokens = token :: more →
        ∃ passed, Mends ending filler passed more
          (next none more) (next' none) behind) :
    ∃ passed, HeadKept passed ∧
      Mends ending filler passed tokens
        ((passKind ending kind message tokens).andThen next)
        (fun tokens =>
          (passKind ending' kind message tokens).andThen
            next')
        behind := by
  cases tokens with
  | nil =>
      refine ⟨[], by simp [HeadKept], ?_⟩
      apply mends_failed _ rfl
      apply Outcome.shape_failed
      simp [SyntaxError.kindAt, Ending.errorAt, hEnding]
  | cons token more =>
      by_cases hKind : token.kind = kind
      · rcases hNext token more rfl with ⟨passed, h⟩
        refine ⟨⟨token, false⟩ :: passed,
          by simp [HeadKept], ?_⟩
        rw [passKind_cons ending message hKind,
          Outcome.andThen_done]
        apply h.cons
        intro rest
        rw [passKind_cons ending' message hKind,
          Outcome.andThen_done]
      · refine ⟨[], by simp [HeadKept], ?_⟩
        simp only [passKind, if_neg hKind,
          Outcome.andThen_failed]
        apply mends_failed _ rfl
        simp only [if_neg hKind, Outcome.andThen_failed]
        apply Outcome.shape_failed
        rfl

/- The operand that is put in is read at once. -/
theorem shape_filler
    (hFiller : ∀ operator, (filler operator).kind = .kwNil)
    {operator : Token}
    {level : Level}
    (hLevel : operator.kind.level? = some level)
    (more : List Token) :
    (readPhrase ending' .conditional
        (filler operator :: operator :: more)).shape =
      (readPhrase ending' .conditional more).shape := by
  have hNil := hFiller operator
  have hValue :
      Value.ofToken? (filler operator) = some .nil := by
    simp [Value.ofToken?, hNil]
  have hOperand :
      readOperand ending' (filler operator)
          (operator :: more) =
        .done anyTree (operator :: more) := by
    rw [readOperand_of_isLiteral ending'
        (isLiteral_of_ofToken? hValue),
      readLiteral_of_some ending' hValue]
    rfl
  rw [readPhrase_conditional_cons, hOperand,
    Outcome.andThen_done,
    Phrase.climb_unary_of_stopsAt ending' _
      (Phrase.operand_stopsAt_operator hLevel more)]
  exact shape_climb_operator ending' hLevel rfl more

------------------------------------------------------------
-- Operands
------------------------------------------------------------

/- An operator before its operand mends with the operand. -/
theorem mends_unary
    {token : Token}
    {more : List Token}
    {passed : List Passed}
    (hUnary : token.kind.isUnary = true)
    (h :
      Mends ending filler passed more
        (readPhrase ending .unary more)
        (readPhrase ending' .conditional)
        (Phrase.climb ending' .unary anyTree)) :
    ∃ passed, Mends ending filler passed (token :: more)
      (readOperand ending token more)
      (readPhrase ending' .conditional)
      (Phrase.climb ending' .unary anyTree) := by
  rcases h.andThen_done (Option.map (.unary token)) with
    ⟨passed', h'⟩
  rw [readOperand_of_isUnary ending hUnary]
  refine ⟨_, h'.cons fun rest => ?_⟩
  rw [readPhrase_conditional_cons,
    readOperand_of_isUnary ending' hUnary,
    Outcome.andThen_assoc,
    readPhrase_conditional_eq_climb ending' .unary]
  apply Outcome.shape_andThen_next
  intro right _
  rw [Outcome.andThen_done]
  apply Phrase.blind_climb
  exact Option.isSome_map

/- A literal is read by both, or both fail behind it. -/
theorem mends_literal
    {token : Token}
    (hLiteral : token.kind.isLiteral = true)
    (more : List Token) :
    ∃ passed, Mends ending filler passed (token :: more)
      (readOperand ending token more)
      (readPhrase ending' .conditional)
      (Phrase.climb ending' .unary anyTree) := by
  have hWhole : ∀ rest,
      readPhrase ending' .conditional (token :: rest) =
        (readLiteral ending' token rest).andThen
          (Phrase.climb ending' .unary) := by
    intro rest
    rw [readPhrase_conditional_cons,
      readOperand_of_isLiteral ending' hLiteral]
  rw [readOperand_of_isLiteral ending hLiteral]
  cases hValue : Value.ofToken? token with
  | some value =>
      rw [readLiteral_of_some ending hValue]
      refine ⟨_, (mends_done _ fun rest _ => ?_).cons
        fun rest => congrArg _ (hWhole rest)⟩
      rw [readLiteral_of_some ending' hValue,
        Outcome.andThen_done]
      apply Phrase.blind_climb
      rfl
  | none =>
      simp only [readLiteral, hValue] at hWhole ⊢
      refine ⟨_, (mends_failed _ rfl ?_).cons
        fun rest => congrArg _ (hWhole rest)⟩
      rw [Outcome.andThen_failed]
      apply Outcome.shape_failed
      rfl

/- A group mends with the expression inside. -/
theorem mends_group
    (hEnding : ending'.token = ending.token)
    {token : Token}
    {more : List Token}
    {passed : List Passed}
    (hOpening : token.kind = .leftParen)
    (h :
      Mends ending filler passed more
        (readPhrase ending .conditional more)
        (readPhrase ending' .conditional)
        (.done anyTree)) :
    ∃ passed, Mends ending filler passed (token :: more)
      (readOperand ending token more)
      (readPhrase ending' .conditional)
      (Phrase.climb ending' .unary anyTree) := by
  have hBlind : Outcome.Blind fun inner rest =>
      (passClose ending' rest).andThen fun _ =>
        Phrase.climb ending' .unary
          (Option.map Expr.grouping inner) := by
    intro inner inner' rest hInner
    apply Outcome.shape_andThen_next
    intro _ _
    apply Phrase.blind_climb
    rw [Option.isSome_map, Option.isSome_map, hInner]
  have hClose : ∀ inner tokens,
      ∃ passed, HeadKept passed ∧
        Mends ending filler passed tokens
          ((passClose ending tokens).andThen fun _ =>
            .done (Option.map Expr.grouping inner))
          (fun rest =>
            (passClose ending' rest).andThen fun _ =>
              Phrase.climb ending' .unary
                (Option.map Expr.grouping anyTree))
          (Phrase.climb ending' .unary anyTree) := by
    intro inner tokens
    apply mends_passKind hEnding
    intro _ more' _
    refine ⟨[], mends_done _ fun rest _ => ?_⟩
    apply Phrase.blind_climb
    rfl
  rcases (h.whole_andThen hBlind).andThen
      (fun inner rest =>
        (passClose ending rest).andThen fun _ =>
          .done (inner.map .grouping))
      (fun inner _ => hClose inner _) with ⟨passed', h'⟩
  rw [readOperand_of_leftParen ending hOpening]
  refine ⟨_, h'.cons fun rest => ?_⟩
  rw [readPhrase_conditional_cons,
    readOperand_of_leftParen ending' hOpening]
  simp only [Outcome.andThen_assoc, Outcome.andThen_done]

/-
  An operator without left operand mends with the operand
  behind it.  Where that operand ends, no stronger level can
  go on, so nothing is lost by the levels that are skipped.
-/
theorem mends_operator
    (hFiller : ∀ operator, (filler operator).kind = .kwNil)
    {token : Token}
    {more : List Token}
    {passed : List Passed}
    {level : Level}
    (hUnary : ¬ token.kind.isUnary = true)
    (hLevel : token.kind.level? = some level)
    (h :
      Mends ending filler passed more
        (readPhrase ending level.operand more)
        (readPhrase ending' .conditional)
        (level.operand.climb ending' anyTree)) :
    ∃ passed, Mends ending filler passed (token :: more)
      (readOperand ending token more)
      (readPhrase ending' .conditional)
      (Phrase.climb ending' .unary anyTree) := by
  have hBehind :
      Mends ending filler passed more
        (readPhrase ending level.operand more)
        (readPhrase ending' .conditional)
        (Phrase.climb ending' .unary anyTree) := by
    apply h.behind_congr
    intro tree hOk rest hHead
    have hStops :=
      (stopsAt_readPhrase hOk).of_head?_eq hHead
    rw [Phrase.climb_unary_of_stopsAt ending' _ hStops]
  rcases hBehind.andThen_done fun _ => none with
    ⟨passed', h'⟩
  rw [readOperand_of_level? ending hUnary hLevel]
  exact ⟨_, h'.cons_lacking
    (shape_filler hFiller hLevel)⟩

/- An operand mends if all phrases on fewer tokens do. -/
theorem mends_readOperand
    (hEnding : ending'.token = ending.token)
    (hFiller : ∀ operator, (filler operator).kind = .kwNil)
    {token : Token}
    {more : List Token}
    (ih :
      ∀ phrase : Phrase, ∃ passed,
        Mends ending filler passed more
          (readPhrase ending phrase more)
          (readPhrase ending' .conditional)
          (phrase.climb ending' anyTree)) :
    ∃ passed, Mends ending filler passed (token :: more)
      (readOperand ending token more)
      (readPhrase ending' .conditional)
      (Phrase.climb ending' .unary anyTree) := by
  by_cases hUnary : token.kind.isUnary = true
  · rcases ih .unary with ⟨passed, h⟩
    exact mends_unary hUnary h
  by_cases hLiteral : token.kind.isLiteral = true
  · exact mends_literal hLiteral more
  by_cases hOpening : token.kind = .leftParen
  · rcases ih .conditional with ⟨passed, h⟩
    exact mends_group hEnding hOpening h
  cases hLevel : token.kind.level? with
  | some level =>
      rcases ih level.operand with ⟨passed, h⟩
      exact mends_operator hFiller hUnary hLevel h
  | none =>
      rw [readOperand_of_none ending hUnary hLiteral
        hOpening hLevel]
      refine ⟨[], mends_failed _ rfl ?_⟩
      rw [readPhrase_conditional_cons,
        readOperand_of_none ending' hUnary hLiteral
          hOpening hLevel,
        Outcome.andThen_failed]
      apply Outcome.shape_failed
      rfl

------------------------------------------------------------
-- Branches
------------------------------------------------------------

/- Branches mend if the conditionals in them do. -/
theorem mends_branches
    (hEnding : ending'.token = ending.token)
    {question : Token}
    (hQuestion : question.kind = .question)
    (condition : Option Expr)
    {more : List Token}
    (ih :
      ∀ rest, rest.length < (question :: more).length →
        ∃ passed, Mends ending filler passed rest
          (readPhrase ending .conditional rest)
          (readPhrase ending' .conditional)
          (.done anyTree)) :
    ∃ passed, HeadKept passed ∧
      Mends ending filler passed (question :: more)
        (readBranches ending condition (question :: more))
        (readBranches ending' anyTree) (.done anyTree) := by
  have hElse : ∀ thenBranch rest,
      rest.length < (question :: more).length →
      ∃ passed, Mends ending filler passed rest
        ((readPhrase ending .conditional rest).andThen
          fun elseBranch =>
            .done (conditionalTree condition thenBranch
              elseBranch))
        (fun rest =>
          (readPhrase ending' .conditional rest).andThen
            fun elseBranch =>
              .done (conditionalTree anyTree anyTree
                elseBranch))
        (.done anyTree) := by
    intro thenBranch rest hRest
    have hBlind : Outcome.Blind fun elseBranch =>
        .done (conditionalTree anyTree anyTree
          elseBranch) := by
      intro elseBranch elseBranch' rest hTree
      apply Outcome.shape_done
      rw [isSome_conditionalTree, isSome_conditionalTree,
        hTree]
    rcases ih rest hRest with ⟨passed, h⟩
    rcases (h.whole_andThen hBlind).andThen_done
        fun elseBranch =>
          conditionalTree condition thenBranch elseBranch
        with ⟨passed', h'⟩
    refine ⟨passed', h'.behind_congr ?_⟩
    intro _ _ rest _
    exact Outcome.shape_done rfl rest
  have hColon : ∀ thenBranch rest,
      rest.length < (question :: more).length →
      ∃ passed, HeadKept passed ∧
        Mends ending filler passed rest
          ((passColon ending rest).andThen fun _ rest =>
            (readPhrase ending .conditional rest).andThen
              fun elseBranch =>
                .done (conditionalTree condition thenBranch
                  elseBranch))
          (fun rest =>
            (passColon ending' rest).andThen fun _ rest =>
              (readPhrase ending' .conditional rest).andThen
                fun elseBranch =>
                  .done (conditionalTree anyTree anyTree
                    elseBranch))
          (.done anyTree) := by
    intro thenBranch rest hRest
    apply mends_passKind hEnding
    intro colon behind hSplit
    apply hElse thenBranch behind
    rw [hSplit, List.length_cons] at hRest
    omega
  have hBlind : Outcome.Blind fun thenBranch rest =>
      (passColon ending' rest).andThen fun _ rest =>
        (readPhrase ending' .conditional rest).andThen
          fun elseBranch =>
            .done (conditionalTree anyTree thenBranch
              elseBranch) := by
    intro thenBranch thenBranch' rest hTree
    apply Outcome.shape_andThen_next
    intro _ _
    apply Outcome.shape_andThen_next
    intro elseBranch _
    apply Outcome.shape_done
    rw [isSome_conditionalTree, isSome_conditionalTree,
      hTree]
  rcases ih more (Nat.lt_succ_self _) with ⟨passed, h⟩
  rcases (h.whole_andThen hBlind).andThen
      (fun thenBranch rest =>
        (passColon ending rest).andThen fun _ rest =>
          (readPhrase ending .conditional rest).andThen
            fun elseBranch =>
              .done (conditionalTree condition thenBranch
                elseBranch))
      (fun thenBranch _ => hColon thenBranch _
        (Nat.lt_succ_of_le
          (length_rest_readPhrase_le _ _ _))) with
    ⟨passed', h'⟩
  rw [readBranches_cons, if_pos hQuestion]
  refine ⟨⟨question, false⟩ :: passed',
    by simp [HeadKept], h'.cons fun rest => ?_⟩
  rw [readBranches_cons, if_pos hQuestion]

------------------------------------------------------------
-- All Readings
------------------------------------------------------------

/-
  Every reading mends.  A phrase as the front of a whole
  conditional; a chain as what goes on behind an operand of
  its level; branches as what goes on behind a condition.
-/
theorem mends_reading
    (hEnding : ending'.token = ending.token)
    (hFiller : ∀ operator, (filler operator).kind = .kwNil) :
    (∀ phrase tokens, ∃ passed,
      Mends ending filler passed tokens
        (readPhrase ending phrase tokens)
        (readPhrase ending' .conditional)
        (phrase.climb ending' anyTree)) ∧
    (∀ level left tokens, ∃ passed, HeadKept passed ∧
      Mends ending filler passed tokens
        (readChain ending level left tokens)
        (level.operand.climb ending' anyTree)
        (Phrase.climb ending' (.binary level) anyTree)) ∧
    ∀ condition tokens, ∃ passed, HeadKept passed ∧
      Mends ending filler passed tokens
        (readBranches ending condition tokens)
        (readBranches ending' anyTree)
        (.done anyTree) := by
  apply reading_induction
  case conditional =>
    intro tokens hEquality hBranches
    rw [readPhrase_conditional]
    rcases hEquality with ⟨passed, h⟩
    apply h.andThen
    intro condition _
    exact hBranches condition _
      (length_rest_readPhrase_le _ _ _)
  case binary =>
    intro level tokens hOperand hChain
    rw [readPhrase_binary]
    rcases hOperand with ⟨passed, h⟩
    apply h.andThen
    intro left _
    exact hChain left _ (length_rest_readPhrase_le _ _ _)
  case unary =>
    intro tokens ih
    cases tokens with
    | nil =>
        rw [readPhrase_unary_nil]
        refine ⟨[], mends_failed _ rfl ?_⟩
        rw [readPhrase_conditional_eq_climb ending' .unary,
          readPhrase_unary_nil, Outcome.andThen_failed]
        apply Outcome.shape_failed
        simp [SyntaxError.kindAt, Ending.errorAt, hEnding]
    | cons token more =>
        rw [readPhrase_unary_cons]
        exact mends_readOperand hEnding hFiller
          fun phrase => ih phrase more (Nat.lt_succ_self _)
  case chain =>
    intro level left tokens hPhrase hChain
    cases tokens with
    | nil =>
        rw [readChain_nil]
        refine ⟨[], by simp [HeadKept],
          mends_done _ fun rest hRest => ?_⟩
        rw [Phrase.climb_operand, readChain_of_head?,
          Outcome.andThen_done]
        simp [hRest]
    | cons operator more =>
        by_cases hLevel : operator.kind.level? = some level
        · rw [readChain_cons, if_pos hLevel]
          rcases hPhrase level.operand more
              (Nat.lt_succ_self _) with ⟨passed, h⟩
          rcases h.andThen
              (fun right =>
                readChain ending level
                  (binaryTree left operator right))
              (fun right _ => hChain _ _
                (Nat.lt_succ_of_le
                  (length_rest_readPhrase_le _ _ _))) with
            ⟨passed', h'⟩
          exact ⟨⟨operator, false⟩ :: passed',
            by simp [HeadKept],
            h'.cons (shape_climb_operator ending' hLevel
              rfl)⟩
        · rw [readChain_cons, if_neg hLevel]
          refine ⟨[], by simp [HeadKept],
            mends_done _ fun rest hRest => ?_⟩
          rw [Phrase.climb_operand, readChain_of_head?,
            Outcome.andThen_done]
          simpa [hRest] using hLevel
  case branches =>
    intro condition tokens hPhrase
    cases tokens with
    | nil =>
        rw [readBranches_nil]
        refine ⟨[], by simp [HeadKept],
          mends_done _ fun rest hRest => ?_⟩
        rw [readBranches_of_head?]
        simp [hRest]
    | cons question more =>
        by_cases hQuestion : question.kind = .question
        · exact mends_branches hEnding hQuestion condition
            fun rest hRest => hPhrase .conditional rest hRest
        · rw [readBranches_cons, if_neg hQuestion]
          refine ⟨[], by simp [HeadKept],
            mends_done _ fun rest hRest => ?_⟩
          rw [readBranches_of_head?]
          simpa [hRest] using hQuestion

/-
  A conditional mends: the mended tokens are a conditional
  up to the same place, or fail there in the same way.
-/
theorem mends_readPhrase
    (hEnding : ending'.token = ending.token)
    (hFiller : ∀ operator, (filler operator).kind = .kwNil)
    (tokens : List Token) :
    ∃ passed, Mends ending filler passed tokens
      (readPhrase ending .conditional tokens)
      (readPhrase ending' .conditional)
      (.done anyTree) :=
  (mends_reading hEnding hFiller).1 .conditional tokens

end Recovery

end LoxExpr
