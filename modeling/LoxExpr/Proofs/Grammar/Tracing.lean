import LoxExpr.Proofs.Grammar.Language
import LoxExpr.Proofs.Grammar.Traces

/-
  This file shows that every reader has a fair trace: what it
  does is told by the tokens that it passes and the one
  behind them, it notes operators that begin no operand, and
  it fails for a reason that the token behind gives.

  Key definitions include:
    * `readClose`
    * `readElse`

  The main statement is `isTraced_readPhrase`.
-/

namespace LoxExpr

------------------------------------------------------------
-- Kinds of Tokens
------------------------------------------------------------

/- A kind of which no operand can be read begins none. -/
theorem Kind.not_mem_operandKinds
    {kind : Kind}
    (hUnary : ¬kind.isUnary = true)
    (hLiteral : ¬kind.isLiteral = true)
    (hOpening : ¬kind = .leftParen) :
    kind ∉ operandKinds := by
  cases kind <;>
    simp_all [operandKinds, isUnary, isLiteral]

/- A binary operator that is not unary begins no operand. -/
theorem Kind.mem_lackingKinds
    {kind : Kind}
    {level : Level}
    (hUnary : ¬kind.isUnary = true)
    (hLevel : kind.level? = some level) :
    kind ∈ lackingKinds := by
  cases kind <;>
    simp_all [lackingKinds, isUnary, level?]

/- Of the literals, numbers and strings can lack a value. -/
theorem Value.kind_of_ofToken?_eq_none
    {token : Token}
    (hLiteral : token.kind.isLiteral = true)
    (hValue : ofToken? token = none) :
    token.kind ∈ [Kind.number, .string] := by
  cases hKind : token.kind <;>
    simp_all [Kind.isLiteral, ofToken?]

------------------------------------------------------------
-- What Is Read behind a Phrase
------------------------------------------------------------

/- What closes a group, behind the phrase in it. -/
def readClose
    (ending : Ending)
    (inner : Option Expr)
    (tokens : List Token) : Outcome :=
  (passClose ending tokens).andThen
    fun _ => .done (inner.map .grouping)

/- A colon and the other branch, behind the first one. -/
def readElse
    (ending : Ending)
    (condition thenBranch : Option Expr)
    (tokens : List Token) : Outcome :=
  (passColon ending tokens).andThen fun _ rest =>
    (readPhrase ending .conditional rest).andThen
      fun elseBranch => .done
        (conditionalTree condition thenBranch elseBranch)

/- A group is a conditional and what closes it. -/
theorem readPhrase_unary_group
    (ending : Ending)
    {token : Token}
    (hOpening : token.kind = .leftParen)
    (more : List Token) :
    readPhrase ending .unary (token :: more) =
      (readPhrase ending .conditional more).andThen
        (readClose ending) := by
  rw [readPhrase_unary_cons,
    readOperand_of_leftParen ending hOpening]
  rfl

/- Branches are a conditional and what is behind it. -/
theorem readBranches_question
    (ending : Ending)
    (condition : Option Expr)
    {token : Token}
    (hQuestion : token.kind = .question)
    (more : List Token) :
    readBranches ending condition (token :: more) =
      (readPhrase ending .conditional more).andThen
        (readElse ending condition) := by
  rw [readBranches_cons, if_pos hQuestion]
  rfl

------------------------------------------------------------
-- Traces of Operands
------------------------------------------------------------

section Readers

variable {ending : Ending}
variable {token : Token}
variable {tokens more : List Token}

/-
  A required token is passed, or missed.  What has been read
  before it does not go on with the token that is there.
-/
theorem isTraced_passKind
    {kind : Kind}
    {message : String}
    (hRequired : (kind, message) ∈ requirements)
    (hStops : Phrase.conditional.StopsAt tokens) :
    IsTraced ending tokens fun ending' =>
      passKind ending' kind message := by
  rcases exists_cons_or_head? (·.kind = kind) tokens with
    ⟨token, more, rfl, hKind⟩ | hHead
  · refine IsTraced.cons (.done none fun _ _ _ => rfl) ?_
    intro ending' rest'
    exact passKind_cons ending' message hKind rest'
  · have hFails :
        FailsBefore (.expected message) [] tokens := by
      refine .required hRequired fun token hToken => ?_
      refine ⟨hHead token hToken, ?_⟩
      rw [goesOn_iff]
      exact hStops token hToken
    refine .failed hFails fun ending' rest' hSame => ?_
    exact passKind_of_head? ending' message (hSame ▸ hHead)

/- An operator before its operand. -/
theorem isTraced_unary
    (hUnary : token.kind.isUnary = true)
    (h :
      IsTraced ending more fun ending' =>
        readPhrase ending' .unary) :
    IsTraced ending (token :: more) fun ending' =>
      readPhrase ending' .unary := by
  have hRight :=
    h.andThen_done (Option.map (Expr.unary token))
  refine hRight.cons fun ending' rest' => ?_
  rw [readPhrase_unary_cons,
    readOperand_of_isUnary ending' hUnary]

/- A literal is read, or refused if it has no value. -/
theorem isTraced_literal
    (hLiteral : token.kind.isLiteral = true) :
    IsTraced ending (token :: more) fun ending' =>
      readPhrase ending' .unary := by
  have hRead : ∀ ending' rest',
      readPhrase ending' .unary (token :: rest') =
        readLiteral ending' token rest' := by
    intro ending' rest'
    rw [readPhrase_unary_cons,
      readOperand_of_isLiteral ending' hLiteral]
  cases hValue : Value.ofToken? token with
  | some value =>
      refine IsTraced.cons
        (.done (some (.literal value)) fun _ _ _ => rfl) ?_
      intro ending' rest'
      rw [hRead, readLiteral_of_some ending' hValue]
  | none =>
      have hKind :=
        Value.kind_of_ofToken?_eq_none hLiteral hValue
      refine .refused (.noValue hKind hValue) ?_
      intro ending' rest'
      rw [hRead, readLiteral, hValue]

/- A group, with what closes it. -/
theorem isTraced_group
    (hOpening : token.kind = .leftParen)
    (h :
      IsTraced ending more fun ending' =>
        readPhrase ending' .conditional) :
    IsTraced ending (token :: more) fun ending' =>
      readPhrase ending' .unary := by
  have hBoth := h.andThen readClose fun inner hInner =>
    (isTraced_passKind (by decide)
      (stopsAt_readPhrase hInner)).andThen_done
      fun _ => inner.map .grouping
  exact hBoth.cons fun ending' rest' =>
    readPhrase_unary_group ending' hOpening rest'

/- An operator without left operand is noted. -/
theorem isTraced_operator
    {level : Level}
    (hUnary : ¬token.kind.isUnary = true)
    (hLevel : token.kind.level? = some level)
    (h :
      IsTraced ending more fun ending' =>
        readPhrase ending' level.operand) :
    IsTraced ending (token :: more) fun ending' =>
      readPhrase ending' .unary := by
  have hDropped := h.andThen_done fun _ => none
  refine hDropped.cons_lacking
    (Kind.mem_lackingKinds hUnary hLevel)
    fun ending' rest' => ?_
  rw [readPhrase_unary_cons,
    readOperand_of_level? ending' hUnary hLevel]
  rfl

/- Nothing that an operand could begin with. -/
theorem isTraced_noOperand
    (hUnary : ¬token.kind.isUnary = true)
    (hLiteral : ¬token.kind.isLiteral = true)
    (hOpening : ¬token.kind = .leftParen)
    (hLevel : token.kind.level? = none) :
    IsTraced ending (token :: more) fun ending' =>
      readPhrase ending' .unary := by
  refine .failed (.noOperand fun next hNext => ?_) ?_
  · have hSelf : token = next := Option.some.inj hNext
    subst hSelf
    refine ⟨Kind.not_mem_operandKinds hUnary hLiteral
      hOpening, ?_⟩
    intro level hMem
    rw [level.mem_operators_iff, hLevel] at hMem
    exact nomatch hMem
  · intro ending' rest' hHead
    rcases List.head?_eq_some_iff.mp hHead with
      ⟨more', rfl⟩
    rw [readPhrase_unary_cons,
      readOperand_of_none ending' hUnary hLiteral hOpening
        hLevel]

/- An operand is traced if all phrases behind it are. -/
theorem isTraced_operand
    (ih :
      ∀ phrase, IsTraced ending more fun ending' =>
        readPhrase ending' phrase) :
    IsTraced ending (token :: more) fun ending' =>
      readPhrase ending' .unary := by
  by_cases hUnary : token.kind.isUnary = true
  · exact isTraced_unary hUnary (ih .unary)
  by_cases hLiteral : token.kind.isLiteral = true
  · exact isTraced_literal hLiteral
  by_cases hOpening : token.kind = .leftParen
  · exact isTraced_group hOpening (ih .conditional)
  cases hLevel : token.kind.level? with
  | some level =>
      exact isTraced_operator hUnary hLevel
        (ih level.operand)
  | none =>
      exact isTraced_noOperand hUnary hLiteral hOpening
        hLevel

------------------------------------------------------------
-- Traces of Branches
------------------------------------------------------------

/- Branches are traced if the conditionals in them are. -/
theorem isTraced_branches
    (hQuestion : token.kind = .question)
    (condition : Option Expr)
    (ih :
      ∀ rest : List Token, rest.length ≤ more.length →
        IsTraced ending rest fun ending' =>
          readPhrase ending' .conditional) :
    IsTraced ending (token :: more) fun ending' =>
      readBranches ending' condition := by
  have hElse : ∀ thenBranch (rest : List Token),
      rest.length ≤ more.length →
      Phrase.conditional.StopsAt rest →
      IsTraced ending rest fun ending' =>
        readElse ending' condition thenBranch := by
    intro thenBranch rest hRest hStops
    refine IsTraced.andThen
      (isTraced_passKind (by decide) hStops) _
      fun _ _ => (ih _ ?_).andThen_done _
    exact Nat.le_trans (length_rest_passKind_le _ _ _ _)
      hRest
  have hBoth := (ih more (Nat.le_refl _)).andThen
    (fun ending' => readElse ending' condition)
    fun thenBranch hThen => hElse thenBranch _
      (length_rest_readPhrase_le _ _ _)
      (stopsAt_readPhrase hThen)
  exact hBoth.cons fun ending' rest' =>
    readBranches_question ending' condition hQuestion rest'

end Readers

------------------------------------------------------------
-- All Readers
------------------------------------------------------------

/- Every reader has a fair trace. -/
theorem isTraced_reading (ending : Ending) :
    (∀ phrase tokens,
      IsTraced ending tokens fun ending' =>
        readPhrase ending' phrase) ∧
    (∀ level left tokens,
      IsTraced ending tokens fun ending' =>
        readChain ending' level left) ∧
    ∀ condition tokens,
      IsTraced ending tokens fun ending' =>
        readBranches ending' condition := by
  apply reading_induction
  case conditional =>
    intro tokens hEquality hBranches
    have hBoth := hEquality.andThen readBranches
      fun condition _ => hBranches condition _
        (length_rest_readPhrase_le _ _ _)
    exact hBoth.congr readPhrase_conditional
  case binary =>
    intro level tokens hOperand hChain
    have hBoth := hOperand.andThen
      (fun ending' => readChain ending' level)
      fun left _ => hChain left _
        (length_rest_readPhrase_le _ _ _)
    exact hBoth.congr fun ending' =>
      readPhrase_binary ending' level
  case unary =>
    intro tokens ih
    cases tokens with
    | nil =>
        refine .failed (.noOperand (by simp)) ?_
        intro ending' rest' hHead
        rw [List.head?_eq_none_iff.mp hHead,
          readPhrase_unary_nil]
    | cons token more =>
        exact isTraced_operand fun phrase =>
          ih phrase more (Nat.lt_succ_self _)
  case chain =>
    intro level left tokens hPhrase hChain
    rcases exists_cons_or_head?
        (·.kind.level? = some level) tokens with
      ⟨operator, more, rfl, hLevel⟩ | hHead
    · have hBoth :=
        (hPhrase level.operand more
          (Nat.lt_succ_self _)).andThen
          (fun ending' right =>
            readChain ending' level
              (binaryTree left operator right))
          fun right _ => hChain _ _
            (Nat.lt_succ_of_le
              (length_rest_readPhrase_le _ _ _))
      refine hBoth.cons fun ending' rest' => ?_
      rw [readChain_cons, if_pos hLevel]
    · refine .done left fun ending' rest' hSame => ?_
      exact readChain_of_head? ending' left (hSame ▸ hHead)
  case branches =>
    intro condition tokens hPhrase
    rcases exists_cons_or_head?
        (·.kind = .question) tokens with
      ⟨question, more, rfl, hQuestion⟩ | hHead
    · exact isTraced_branches hQuestion condition
        fun rest hRest => hPhrase .conditional rest
          (Nat.lt_succ_of_le hRest)
    · refine .done condition fun ending' rest' hSame => ?_
      exact readBranches_of_head? ending' condition
        (hSame ▸ hHead)

theorem isTraced_readPhrase
    (ending : Ending)
    (phrase : Phrase)
    (tokens : List Token) :
    IsTraced ending tokens fun ending' =>
      readPhrase ending' phrase :=
  (isTraced_reading ending).1 phrase tokens

end LoxExpr
