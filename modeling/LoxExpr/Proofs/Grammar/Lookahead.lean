import LoxExpr.Proofs.Grammar.Induction

/-
  This file says where a phrase ends.  A phrase that has been
  read is followed by no token that could go on with it, and
  before such a token the readers of the phrase are done.

  Key definitions include:
    * `Phrase.GoesOnAt`
    * `Phrase.StopsAt`

  The main statement is `stopsAt_readPhrase`.
-/

namespace LoxExpr

------------------------------------------------------------
-- Where a Phrase Goes On
------------------------------------------------------------

namespace Phrase

/-
  The kinds that go on with a phrase behind it: its own
  operators and those of stronger levels, and the question
  mark for a conditional.
-/
def GoesOnAt (phrase : Phrase) (kind : Kind) : Prop :=
  (phrase = .conditional ∧ kind = .question) ∨
    ∃ level, kind.level? = some level ∧
      (Phrase.binary level).rank ≤ phrase.rank

/- The phrase does not go on with the tokens behind it. -/
def StopsAt (phrase : Phrase) (rest : List Token) : Prop :=
  ∀ token, rest.head? = some token →
    ¬ phrase.GoesOnAt token.kind

/- Every phrase stops at the end. -/
theorem stopsAt_nil (phrase : Phrase) :
    phrase.StopsAt [] := by
  intro token hToken
  simp at hToken

/- Whether a phrase stops depends on the next token only. -/
theorem stopsAt_cons_iff
    {phrase : Phrase}
    {token : Token}
    {more : List Token} :
    phrase.StopsAt (token :: more) ↔
      ¬ phrase.GoesOnAt token.kind := by
  simp [StopsAt]

/- Two lists with the same head stop the same phrases. -/
theorem StopsAt.of_head?_eq
    {phrase : Phrase}
    {rest rest' : List Token}
    (hStops : phrase.StopsAt rest)
    (hHead : rest'.head? = rest.head?) :
    phrase.StopsAt rest' := by
  intro token hToken
  exact hStops token (hHead ▸ hToken)

/- No operator goes on with a unary phrase. -/
theorem stopsAt_unary (rest : List Token) :
    Phrase.unary.StopsAt rest := by
  intro token _ hGoesOn
  rcases hGoesOn with ⟨hPhrase, _⟩ | ⟨level, _, hRank⟩
  · exact absurd hPhrase (by simp)
  · cases level <;> simp [rank] at hRank

/- What stops a phrase stops all stronger ones. -/
theorem StopsAt.stronger
    {phrase stronger : Phrase}
    {rest : List Token}
    (hStops : phrase.StopsAt rest)
    (hRank : stronger.rank < phrase.rank) :
    stronger.StopsAt rest := by
  intro token hToken hGoesOn
  apply hStops token hToken
  rcases hGoesOn with ⟨rfl, _⟩ | ⟨level, hLevel, hLe⟩
  · cases phrase with
    | binary level =>
        cases level <;> simp [rank] at hRank
    | _ => simp [rank] at hRank
  · exact Or.inr ⟨level, hLevel, by omega⟩

/- What stops a level stops its operands. -/
theorem StopsAt.operand
    {level : Level}
    {rest : List Token}
    (hStops : (Phrase.binary level).StopsAt rest) :
    level.operand.StopsAt rest :=
  hStops.stronger level.rank_operand_lt

/- What stops a conditional stops its condition. -/
theorem StopsAt.equality
    {rest : List Token}
    (hStops : Phrase.conditional.StopsAt rest) :
    (Phrase.binary .equality).StopsAt rest :=
  hStops.stronger (Level.rank_lt_conditional _)

/- An operator of a level stops the operands of the level. -/
theorem operand_stopsAt_operator
    {level : Level}
    {operator : Token}
    (hLevel : operator.kind.level? = some level)
    (more : List Token) :
    level.operand.StopsAt (operator :: more) := by
  have hOperand := level.rank_operand_lt
  rw [stopsAt_cons_iff]
  rintro (⟨hPhrase, _⟩ | ⟨level', hLevel', hRank⟩)
  · cases level <;> simp [Level.operand] at hPhrase
  · have hSame : level = level' :=
      Option.some.inj (hLevel.symm.trans hLevel')
    subst hSame
    omega

/- A token that is no operator stops every level. -/
theorem binary_stopsAt_of_level?
    {token : Token}
    (hLevel : token.kind.level? = none)
    (level : Level)
    (more : List Token) :
    (Phrase.binary level).StopsAt (token :: more) := by
  rw [stopsAt_cons_iff]
  rintro (⟨hPhrase, _⟩ | ⟨level', hLevel', _⟩)
  · exact absurd hPhrase (by simp)
  · simp [hLevel] at hLevel'

/- Beyond its operands, only its own operators continue a level. -/
theorem StopsAt.binary
    {level : Level}
    {rest : List Token}
    (hOperand : level.operand.StopsAt rest)
    (hHead :
      ∀ token, rest.head? = some token →
        token.kind.level? ≠ some level) :
    (Phrase.binary level).StopsAt rest := by
  intro token hToken hGoesOn
  rcases hGoesOn with
    ⟨hPhrase, _⟩ | ⟨level', hLevel', hRank⟩
  · exact absurd hPhrase (by simp)
  · have hNot := hHead token hToken
    apply hOperand token hToken
    refine Or.inr ⟨level', hLevel', ?_⟩
    cases level <;> cases level' <;>
      simp_all [rank, Level.operand]

/- Beyond the condition, only a question mark continues. -/
theorem StopsAt.conditional
    {rest : List Token}
    (hEquality : (Phrase.binary .equality).StopsAt rest)
    (hHead :
      ∀ token, rest.head? = some token →
        token.kind ≠ .question) :
    Phrase.conditional.StopsAt rest := by
  intro token hToken hGoesOn
  rcases hGoesOn with ⟨_, hKind⟩ | ⟨level, hLevel, _⟩
  · exact hHead token hToken hKind
  · apply hEquality token hToken
    refine Or.inr ⟨level, hLevel, ?_⟩
    cases level <;> decide

/- A conditional goes on at question marks and operators. -/
theorem conditional_stopsAt_cons_iff
    {token : Token}
    {more : List Token} :
    Phrase.conditional.StopsAt (token :: more) ↔
      token.kind ≠ .question ∧ token.kind.level? = none := by
  rw [stopsAt_cons_iff]
  constructor
  · intro hNot
    constructor
    · exact fun hKind => hNot (Or.inl ⟨rfl, hKind⟩)
    · cases hLevel : token.kind.level? with
      | none => rfl
      | some level =>
          exact absurd
            (Or.inr ⟨level, hLevel,
              Nat.le_of_lt level.rank_lt_conditional⟩)
            hNot
  · rintro ⟨hKind, hLevel⟩
      (⟨_, hQuestion⟩ | ⟨level, hSome, _⟩)
    · exact hKind hQuestion
    · simp [hLevel] at hSome

end Phrase

------------------------------------------------------------
-- Readers That Are Done
------------------------------------------------------------

/- A chain is done where no operator of its level is next. -/
theorem readChain_of_head?
    (ending : Ending)
    {level : Level}
    (left : Option Expr)
    {rest : List Token}
    (hHead :
      ∀ token, rest.head? = some token →
        token.kind.level? ≠ some level) :
    readChain ending level left rest = .done left rest := by
  cases rest with
  | nil => exact readChain_nil ending level left
  | cons token more =>
      rw [readChain_cons, if_neg (hHead token rfl)]

/- There are no branches where no question mark is next. -/
theorem readBranches_of_head?
    (ending : Ending)
    (condition : Option Expr)
    {rest : List Token}
    (hHead :
      ∀ token, rest.head? = some token →
        token.kind ≠ .question) :
    readBranches ending condition rest =
      .done condition rest := by
  cases rest with
  | nil => exact readBranches_nil ending condition
  | cons token more =>
      rw [readBranches_cons, if_neg (hHead token rfl)]

/- A chain is done where its level stops. -/
theorem readChain_of_stopsAt
    (ending : Ending)
    {level : Level}
    (left : Option Expr)
    {rest : List Token}
    (hStops : (Phrase.binary level).StopsAt rest) :
    readChain ending level left rest = .done left rest := by
  apply readChain_of_head?
  intro token hToken hLevel
  exact hStops token hToken
    (Or.inr ⟨level, hLevel, Nat.le_refl _⟩)

/- There are no branches where a conditional stops. -/
theorem readBranches_of_stopsAt
    (ending : Ending)
    (condition : Option Expr)
    {rest : List Token}
    (hStops : Phrase.conditional.StopsAt rest) :
    readBranches ending condition rest =
      .done condition rest := by
  apply readBranches_of_head?
  intro token hToken hQuestion
  exact hStops token hToken (Or.inl ⟨rfl, hQuestion⟩)

------------------------------------------------------------
-- Where Reading Ends
------------------------------------------------------------

/-
  A phrase that has been read ends where it does not go on,
  with or without a tree.
-/
theorem stopsAt_reading (ending : Ending) :
    (∀ phrase tokens tree,
      (readPhrase ending phrase tokens).result = .ok tree →
        phrase.StopsAt
          (readPhrase ending phrase tokens).rest) ∧
    (∀ level left tokens, level.operand.StopsAt tokens →
      ∀ tree,
        (readChain ending level left tokens).result =
          .ok tree →
        (Phrase.binary level).StopsAt
          (readChain ending level left tokens).rest) ∧
    ∀ condition tokens,
      (Phrase.binary .equality).StopsAt tokens →
      ∀ tree,
        (readBranches ending condition tokens).result =
          .ok tree →
        Phrase.conditional.StopsAt
          (readBranches ending condition tokens).rest := by
  apply reading_induction
  case conditional =>
    intro tokens hEquality hBranches tree hOk
    rw [readPhrase_conditional] at hOk ⊢
    rcases Outcome.exists_of_andThen_ok hOk with
      ⟨condition, hCondition, hRest⟩
    rw [Outcome.andThen_of_ok hCondition]
    exact hBranches condition _
      (length_rest_readPhrase_le _ _ _)
      (hEquality condition hCondition) tree hRest
  case binary =>
    intro level tokens hOperand hChain tree hOk
    rw [readPhrase_binary] at hOk ⊢
    rcases Outcome.exists_of_andThen_ok hOk with
      ⟨left, hLeft, hRest⟩
    rw [Outcome.andThen_of_ok hLeft]
    exact hChain left _ (length_rest_readPhrase_le _ _ _)
      (hOperand left hLeft) tree hRest
  case unary =>
    intro tokens _ tree _
    exact Phrase.stopsAt_unary _
  case chain =>
    intro level left tokens hPhrase hChain hStops tree hOk
    cases tokens with
    | nil =>
        rw [readChain_nil]
        exact Phrase.stopsAt_nil _
    | cons operator more =>
        by_cases hLevel :
            operator.kind.level? = some level
        · rw [readChain_cons, if_pos hLevel] at hOk ⊢
          rcases Outcome.exists_of_andThen_ok hOk with
            ⟨right, hRight, hRest⟩
          rw [Outcome.andThen_of_ok hRight]
          apply hChain _ _ ?_ (hPhrase _ _ ?_ _ hRight)
            tree hRest
          · exact Nat.lt_succ_of_le
              (length_rest_readPhrase_le _ _ _)
          · simp
        · rw [readChain_cons, if_neg hLevel]
          apply hStops.binary
          intro token hToken
          rw [List.head?_cons] at hToken
          exact Option.some.inj hToken ▸ hLevel
  case branches =>
    intro condition tokens hPhrase hStops tree hOk
    cases tokens with
    | nil =>
        rw [readBranches_nil]
        exact Phrase.stopsAt_nil _
    | cons token more =>
        by_cases hQuestion : token.kind = .question
        · rw [readBranches_cons, if_pos hQuestion] at hOk ⊢
          rcases Outcome.exists_of_andThen_ok hOk with
            ⟨thenBranch, hThen, hColonOk⟩
          rcases Outcome.exists_of_andThen_ok hColonOk with
            ⟨_, hColon, hElseOk⟩
          rcases Outcome.exists_of_andThen_ok hElseOk with
            ⟨elseBranch, hElse, _⟩
          rw [Outcome.andThen_of_ok hThen,
            Outcome.andThen_of_ok hColon,
            Outcome.andThen_of_ok hElse]
          apply hPhrase _ _ ?_ _ hElse
          have hThenLength :=
            length_rest_readPhrase_le ending .conditional
              more
          have hColonLength :=
            length_rest_passColon_le ending
              (readPhrase ending .conditional more).rest
          simp only [List.length_cons]
          omega
        · rw [readBranches_cons, if_neg hQuestion]
          apply hStops.conditional
          intro first hFirst
          rw [List.head?_cons] at hFirst
          exact Option.some.inj hFirst ▸ hQuestion

theorem stopsAt_readPhrase
    {ending : Ending}
    {phrase : Phrase}
    {tokens : List Token}
    {tree : Option Expr}
    (hOk :
      (readPhrase ending phrase tokens).result = .ok tree) :
    phrase.StopsAt
      (readPhrase ending phrase tokens).rest :=
  (stopsAt_reading ending).1 phrase tokens tree hOk

end LoxExpr
