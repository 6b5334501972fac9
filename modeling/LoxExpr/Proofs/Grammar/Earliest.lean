import LoxExpr.Proofs.Grammar.ErrorOrder
import LoxExpr.Proofs.Grammar.Viable

/-
  This file shows that the first error is found as early as
  it could be.  The tokens before it begin an expression, and
  no list that goes on from it is read without that error.

  Main statements:
    * `isEarliest_readPhrase`
    * `Cursor.first_error_is_earliest`
-/

namespace LoxExpr

------------------------------------------------------------
-- Words to Go On with
------------------------------------------------------------

/- A word for an operand that is still to come. -/
def nilToken : Token :=
  ⟨.kwNil, "nil", none, 1⟩

/- A token that closes a group. -/
def closingToken : Token :=
  ⟨.rightParen, ")", none, 1⟩

/- A token between the branches of a conditional. -/
def colonToken : Token :=
  ⟨.colon, ":", none, 1⟩

theorem derives_nilToken :
    Derives .unary [nilToken] (.literal .nil) :=
  .primary (.literal rfl)

/- An operand is a conditional on its own. -/
theorem conditional_nilToken :
    Derives .conditional [nilToken] (.literal .nil) :=
  .condition
    (.operand (.operand (.operand (.operand
      derives_nilToken))))

------------------------------------------------------------
-- Operands
------------------------------------------------------------

section Readers

variable {ending : Ending}
variable {token : Token}
variable {more : List Token}

/- An operand can always be completed. -/
theorem isViable_unary :
    IsViable Phrase.unary.Derivable [] :=
  ⟨[nilToken], _, derives_nilToken⟩

/- An operator before its operand. -/
theorem isEarliest_unary
    (hUnary : token.kind.isUnary = true)
    (h :
      IsEarliest ending Phrase.unary.Derivable more
        fun ending' => readPhrase ending' .unary) :
    IsEarliest ending Phrase.unary.Derivable (token :: more)
      fun ending' => readPhrase ending' .unary := by
  have hOperator :=
    (mem_unaryOperators_iff token.kind).mpr hUnary
  have hRight :
      IsEarliest ending
        (fun w => Phrase.unary.Derivable (token :: w)) more
        fun ending' tokens' =>
          (readPhrase ending' .unary tokens').andThen
            fun right => .done (right.map (.unary token)) := by
    refine h.phrase_andThen
      (fun _ right =>
        .done (right.map (.unary token))) ?_ ?_
    · rintro w ⟨tree, hDerives⟩
      exact .of_derivable ⟨_, .unary hOperator hDerives⟩
    · intro _ _ _ _ _
      exact .of_errors_eq_nil rfl
  refine hRight.cons fun ending' rest' => ?_
  rw [readPhrase_unary_cons,
    readOperand_of_isUnary ending' hUnary]

/- A literal. -/
theorem isEarliest_literal
    (hLiteral : token.kind.isLiteral = true) :
    IsEarliest ending Phrase.unary.Derivable (token :: more)
      fun ending' => readPhrase ending' .unary := by
  have hRead : ∀ ending' rest',
      readPhrase ending' .unary (token :: rest') =
        readLiteral ending' token rest' := by
    intro ending' rest'
    rw [readPhrase_unary_cons,
      readOperand_of_isLiteral ending' hLiteral]
  cases hValue : Value.ofToken? token with
  | some value =>
      apply IsEarliest.of_errors_eq_nil
      rw [hRead, readLiteral_of_some ending hValue]
      rfl
  | none =>
      refine .here .expectedExpression isViable_unary ?_
      intro ending' tokens' hSame
      rcases hSame.exists_cons with ⟨more', rfl⟩
      rw [hRead, readLiteral, hValue]
      rfl

/- A group. -/
theorem isEarliest_group
    (hOpening : token.kind = .leftParen)
    (h :
      IsEarliest ending Phrase.conditional.Derivable more
        fun ending' => readPhrase ending' .conditional) :
    IsEarliest ending Phrase.unary.Derivable (token :: more)
      fun ending' => readPhrase ending' .unary := by
  have hGroup : ∀ {w closing tree},
      Derives .conditional w tree →
      closing.kind = .rightParen →
      Phrase.unary.Derivable
        (token :: (w ++ [closing])) := by
    intro w closing tree hDerives hClosing
    exact ⟨_, .primary (.grouping hOpening
      (.expression hDerives) hClosing)⟩
  have hInner :
      IsEarliest ending
        (fun w => Phrase.unary.Derivable (token :: w)) more
        fun ending' tokens' =>
          (readPhrase ending' .conditional tokens').andThen
            (readClose ending') := by
    refine h.phrase_andThen readClose ?_ ?_
    · rintro w ⟨tree, hDerives⟩
      exact ⟨[closingToken], hGroup hDerives rfl⟩
    · intro w rest tree _ hDerives
      refine .passKind_andThen _
        ⟨[closingToken], hGroup hDerives rfl⟩ ?_
      intro _ _ _ _
      exact .of_errors_eq_nil rfl
  exact hInner.cons fun ending' rest' =>
    readPhrase_unary_group ending' hOpening rest'

/- A binary operator, where an operand should begin. -/
theorem isEarliest_operator
    {level : Level}
    (hUnary : ¬token.kind.isUnary = true)
    (hLevel : token.kind.level? = some level) :
    IsEarliest ending Phrase.unary.Derivable (token :: more)
      fun ending' => readPhrase ending' .unary := by
  refine .here .missingLeftOperand isViable_unary ?_
  intro ending' tokens' hSame
  rcases hSame.exists_cons with ⟨more', rfl⟩
  rw [readPhrase_unary_cons,
    readOperand_of_level? ending' hUnary hLevel]
  exact Outcome.head?_errors_andThen rfl _

/- Nothing that an operand could begin with. -/
theorem isEarliest_noOperand
    (hUnary : ¬token.kind.isUnary = true)
    (hLiteral : ¬token.kind.isLiteral = true)
    (hOpening : ¬token.kind = .leftParen)
    (hLevel : token.kind.level? = none) :
    IsEarliest ending Phrase.unary.Derivable (token :: more)
      fun ending' => readPhrase ending' .unary := by
  refine .here .expectedExpression isViable_unary ?_
  intro ending' tokens' hSame
  rcases hSame.exists_cons with ⟨more', rfl⟩
  rw [readPhrase_unary_cons,
    readOperand_of_none ending' hUnary hLiteral hOpening
      hLevel]
  rfl

/- Errors of an operand, if all phrases behind are known. -/
theorem isEarliest_operand
    (ih :
      ∀ phrase, IsEarliest ending phrase.Derivable more
        fun ending' => readPhrase ending' phrase) :
    IsEarliest ending Phrase.unary.Derivable (token :: more)
      fun ending' => readPhrase ending' .unary := by
  by_cases hUnary : token.kind.isUnary = true
  · exact isEarliest_unary hUnary (ih .unary)
  by_cases hLiteral : token.kind.isLiteral = true
  · exact isEarliest_literal hLiteral
  by_cases hOpening : token.kind = .leftParen
  · exact isEarliest_group hOpening (ih .conditional)
  cases hLevel : token.kind.level? with
  | some level => exact isEarliest_operator hUnary hLevel
  | none =>
      exact isEarliest_noOperand hUnary hLiteral hOpening
        hLevel

------------------------------------------------------------
-- Further Operands and Branches
------------------------------------------------------------

/- An operator behind a first operand, and what follows it. -/
theorem isEarliest_chain
    {level : Level}
    {w₀ : List Token}
    {first : Expr}
    (hFirst : Derives (.level level) w₀ first)
    (hLevel : token.kind.level? = some level)
    (hPhrase :
      IsEarliest ending level.operand.Derivable more
        fun ending' => readPhrase ending' level.operand)
    (hChain :
      ∀ w rest right, more = w ++ rest →
        Derives (.level level) (w₀ ++ token :: w)
          (.binary first token right) →
        IsEarliest ending
          (fun w' => (Phrase.binary level).Derivable
            (w₀ ++ token :: w ++ w'))
          rest fun ending' => readChain ending' level
            (some (.binary first token right))) :
    IsEarliest ending
      (fun w => (Phrase.binary level).Derivable (w₀ ++ w))
      (token :: more)
      fun ending' => readChain ending' level (some first) := by
  have hOperator :=
    (level.mem_operators_iff token.kind).mpr hLevel
  have hRight :
      IsEarliest ending
        (fun w => (Phrase.binary level).Derivable
          (w₀ ++ token :: w)) more
        fun ending' rest =>
          (readPhrase ending' level.operand rest).andThen
            fun right => readChain ending' level
              (binaryTree (some first) token right) := by
    refine hPhrase.phrase_andThen
      (fun ending' right => readChain ending' level
        (binaryTree (some first) token right)) ?_ ?_
    · rintro w ⟨right, hRight⟩
      rw [Level.nonterminal_operand] at hRight
      exact .of_derivable
        ⟨_, .operator hFirst hOperator hRight⟩
    · intro w rest right hSplit hRight
      rw [Level.nonterminal_operand] at hRight
      have hMore := hChain w rest right hSplit
        (.operator hFirst hOperator hRight)
      simp only [List.append_assoc, List.cons_append]
        at hMore
      exact hMore
  refine hRight.cons fun ending' rest' => ?_
  rw [readChain_cons, if_pos hLevel]

/-
  The branches behind a condition: the first one, a colon,
  and the other one.
-/
theorem isEarliest_branches
    {w₀ : List Token}
    {condition : Expr}
    (hCondition : Derives (.level .equality) w₀ condition)
    (hQuestion : token.kind = .question)
    (ih :
      ∀ rest : List Token, rest.length ≤ more.length →
        IsEarliest ending Phrase.conditional.Derivable rest
          fun ending' => readPhrase ending' .conditional) :
    IsEarliest ending
      (fun w => Phrase.conditional.Derivable (w₀ ++ w))
      (token :: more)
      fun ending' => readBranches ending' (some condition) := by
  have hBranches : ∀ {w₁ w₂ colon thenBranch elseBranch},
      Derives .conditional w₁ thenBranch →
      colon.kind = .colon →
      Derives .conditional w₂ elseBranch →
      Phrase.conditional.Derivable
        (w₀ ++ token :: (w₁ ++ colon :: w₂)) := by
    intro w₁ w₂ colon _ _ hThen hColon hElse
    exact ⟨_, .branches hCondition hQuestion
      (.expression hThen) hColon hElse⟩
  have hElse : ∀ {w₁ thenBranch} (rest : List Token),
      rest.length ≤ more.length →
      Derives .conditional w₁ thenBranch →
      IsEarliest ending
        (fun w => Phrase.conditional.Derivable
          (w₀ ++ token :: (w₁ ++ w))) rest
        fun ending' =>
          readElse ending' (some condition)
            (some thenBranch) := by
    intro w₁ thenBranch rest hRest hThen
    refine .passKind_andThen _
      ⟨[colonToken, nilToken],
        hBranches hThen rfl conditional_nilToken⟩ ?_
    rintro colon rest rfl hColon
    have hLess : rest.length ≤ more.length :=
      Nat.le_trans (Nat.le_succ _) hRest
    refine (ih rest hLess).phrase_andThen _ ?_ ?_
    · rintro w ⟨elseBranch, hElse⟩
      exact .of_derivable (hBranches hThen hColon hElse)
    · intro _ _ _ _ _
      exact .of_errors_eq_nil rfl
  have hThen :
      IsEarliest ending
        (fun w =>
          Phrase.conditional.Derivable (w₀ ++ token :: w))
        more fun ending' tokens' =>
          (readPhrase ending' .conditional tokens').andThen
            (readElse ending' (some condition)) := by
    refine (ih more (Nat.le_refl _)).phrase_andThen
      (fun ending' => readElse ending' (some condition))
      ?_ ?_
    · rintro w ⟨thenBranch, hThen⟩
      exact ⟨[colonToken, nilToken], by
        simpa using
          hBranches hThen rfl conditional_nilToken⟩
    · rintro w rest thenBranch rfl hThen
      refine hElse rest ?_ hThen
      rw [List.length_append]
      omega
  exact hThen.cons fun ending' rest' =>
    readBranches_question ending' _ hQuestion rest'

end Readers

------------------------------------------------------------
-- All Readers
------------------------------------------------------------

/-
  Every phrase finds its first error as early as it could.
  So do a chain and the branches, behind the word of the tree
  that they are given.
-/
theorem isEarliest_reading (ending : Ending) :
    (∀ phrase tokens,
      IsEarliest ending phrase.Derivable tokens
        fun ending' => readPhrase ending' phrase) ∧
    (∀ level left tokens, ∀ w₀ first, left = some first →
      Derives (.level level) w₀ first →
        IsEarliest ending
          (fun w =>
            (Phrase.binary level).Derivable (w₀ ++ w))
          tokens
          fun ending' => readChain ending' level left) ∧
    ∀ condition tokens, ∀ w₀ first, condition = some first →
      Derives (.level .equality) w₀ first →
        IsEarliest ending
          (fun w =>
            Phrase.conditional.Derivable (w₀ ++ w))
          tokens
          fun ending' => readBranches ending' condition := by
  apply reading_induction
  case conditional =>
    intro tokens hEquality hBranches
    refine (hEquality.phrase_andThen readBranches
      ?_ ?_).congr readPhrase_conditional
    · rintro w ⟨tree, hDerives⟩
      exact .of_derivable ⟨_, .condition hDerives⟩
    · rintro w rest tree rfl hDerives
      exact hBranches (some tree) rest (by simp) w tree rfl
        hDerives
  case binary =>
    intro level tokens hOperand hChain
    refine (hOperand.phrase_andThen
      (fun ending' => readChain ending' level)
      ?_ ?_).congr fun ending' =>
        readPhrase_binary ending' level
    · rintro w ⟨tree, hDerives⟩
      rw [Level.nonterminal_operand] at hDerives
      exact .of_derivable ⟨_, .operand hDerives⟩
    · rintro w rest tree rfl hDerives
      rw [Level.nonterminal_operand] at hDerives
      exact hChain (some tree) rest (by simp) w tree rfl
        (.operand hDerives)
  case unary =>
    intro tokens ih
    cases tokens with
    | nil =>
        refine .here .expectedExpression isViable_unary ?_
        intro ending' tokens' hSame
        rw [hSame.eq_nil, readPhrase_unary_nil]
        rfl
    | cons token more =>
        exact isEarliest_operand fun phrase =>
          ih phrase more (Nat.lt_succ_self _)
  case chain =>
    rintro level left tokens hPhrase hChain w₀ first rfl
      hFirst
    rcases exists_cons_or_head?
        (·.kind.level? = some level) tokens with
      ⟨operator, more, rfl, hLevel⟩ | hHead
    · refine isEarliest_chain hFirst hLevel
        (hPhrase level.operand more (Nat.lt_succ_self _)) ?_
      rintro w rest right rfl hDerives
      refine hChain _ rest ?_ _ _ rfl hDerives
      rw [List.length_cons, List.length_append]
      omega
    · apply IsEarliest.of_errors_eq_nil
      rw [readChain_of_head? ending _ hHead]
      rfl
  case branches =>
    rintro condition tokens hPhrase w₀ first rfl hFirst
    rcases exists_cons_or_head?
        (·.kind = .question) tokens with
      ⟨question, more, rfl, hQuestion⟩ | hHead
    · exact isEarliest_branches hFirst hQuestion
        fun rest hRest => hPhrase .conditional rest
          (Nat.lt_succ_of_le hRest)
    · apply IsEarliest.of_errors_eq_nil
      rw [readBranches_of_head? ending _ hHead]
      rfl

theorem isEarliest_readPhrase
    (ending : Ending)
    (phrase : Phrase)
    (tokens : List Token) :
    IsEarliest ending phrase.Derivable tokens
      fun ending' => readPhrase ending' phrase :=
  (isEarliest_reading ending).1 phrase tokens

------------------------------------------------------------
-- The First Reading
------------------------------------------------------------

/- Closing tokens leaves them in front. -/
theorem prefix_closeTokens (tokens : List Token) :
    tokens <+: closeTokens tokens := by
  unfold closeTokens
  split
  · rename_i hNone
    rw [List.getLast?_eq_none_iff.mp hNone]
    exact List.nil_prefix
  · split
    · exact List.prefix_refl _
    · exact List.prefix_append _ _

namespace Cursor

/-
  The first error of a cursor at the first token: the tokens
  before it are viable, and all cursors that agree with this
  one up to its token find it first.
-/
theorem exists_front_of_head?_errors
    {tokens : List Token}
    {e : SyntaxError}
    (hFirst :
      (ofTokens tokens).outcome.errors.head? = some e) :
    ∃ front behind,
      (ofTokens tokens).live = front ++ behind ∧
      e.position = front.length ∧
      IsViable Phrase.conditional.Derivable front ∧
      ∀ tokens',
        AgreesFor front.length (ofTokens tokens)
          (ofTokens tokens') →
        (ofTokens tokens').outcome.errors.head? = some e := by
  have hErrors : (ofTokens tokens).outcome.errors ≠ [] := by
    intro hNone
    rw [hNone] at hFirst
    exact nomatch hFirst
  rcases isEarliest_readPhrase _ .conditional _ hErrors with
    ⟨fault, front, behind, hLive, hViable, hAgain⟩
  have hPlace : ∀ {tokens' behind'},
      (ofTokens tokens').live = front ++ behind' →
      ((ofTokens tokens').ending.errorAt fault
        behind').position = front.length := by
    intro tokens' behind' hLive'
    rw [position_errorAt hLive' fault]
    exact Nat.zero_add _
  have hError :
      (ofTokens tokens).ending.errorAt fault behind = e := by
    have hSelf := hAgain _ _ (SameNext.refl _ behind)
    rw [← hLive] at hSelf
    exact Option.some.inj (hSelf.symm.trans hFirst)
  refine ⟨front, behind, hLive, ?_, hViable, ?_⟩
  · rw [← hError]
    exact hPlace hLive
  · intro tokens' hAgree
    rcases hAgree.exists_live hLive with
      ⟨behind', hLive', hSame⟩
    have hRead := hAgain _ _ hSame
    rw [← hLive'] at hRead
    rw [← hError]
    refine hRead.trans (congrArg some ?_)
    apply hSame.errorAt_eq fault
    rw [hPlace hLive, hPlace hLive']

/-
  Lists that begin with what another one shows up to a
  position agree with it up to there.
-/
theorem agreesFor_of_take_prefix
    {tokens tokens' : List Token}
    {n : Nat}
    (hLess : n < (ofTokens tokens).tokens.length)
    (hPrefix :
      (ofTokens tokens).tokens.take (n + 1) <+: tokens') :
    AgreesFor n (ofTokens tokens) (ofTokens tokens') := by
  intro i hBound
  have hFront := List.prefix_iff_getElem?.mp
    (hPrefix.trans (prefix_closeTokens tokens')) i
    (by rw [List.length_take]; omega)
  rw [← List.getElem?_eq_getElem,
    List.getElem?_take_of_lt (by omega)] at hFront
  have hStart : ∀ tokens, (ofTokens tokens).position = 0 :=
    fun _ => rfl
  rw [hStart, hStart, Nat.zero_add]
  exact hFront

/- The first error of a cursor stands in its list. -/
theorem getElem?_of_head?_errors
    {tokens : List Token}
    {e : SyntaxError}
    (hFirst :
      (ofTokens tokens).parse.2.errors.head? = some e) :
    (ofTokens tokens).tokens[e.position]? = some e.token := by
  have hAdds := (isOver_ofTokens tokens).addsInOrder
  have hMem := List.mem_of_mem_head? hFirst
  rw [hAdds.added] at hMem
  exact (hAdds.standing e hMem).2

/-
  The first error is found at the earliest token.  Those
  before it can be completed, and are then read to their end
  without errors and with a tree.  No list that begins with
  them and the token of the error has a tree: its first error
  is the same one.
-/
theorem first_error_is_earliest
    {tokens : List Token}
    {e : SyntaxError}
    (hFirst :
      (ofTokens tokens).parse.2.errors.head? = some e) :
    let seen := (ofTokens tokens).tokens
    seen[e.position]? = some e.token ∧
    (∃ suffix tree, ∀ line,
      let completed :=
        seen.take e.position ++ suffix ++
          [Token.endOfInput line]
      (ofTokens completed).parse =
        (some tree,
          ⟨completed, e.position + suffix.length, []⟩)) ∧
    ∀ tokens', seen.take (e.position + 1) <+: tokens' →
      (ofTokens tokens').parse.1 = none ∧
      (ofTokens tokens').parse.2.errors.head? = some e := by
  intro seen
  have hToken := getElem?_of_head?_errors hFirst
  have hLess : e.position < seen.length :=
    (List.getElem?_eq_some_iff.mp hToken).1
  rcases exists_front_of_head?_errors hFirst with
    ⟨front, behind, hLive, hPosition, ⟨suffix, tree, hWord⟩,
      hAgain⟩
  have hSeen : seen.take e.position = front := by
    have hPrefix : (ofTokens tokens).live <+: seen :=
      List.takeWhile_prefix _
    rw [hLive] at hPrefix
    have hFront := (List.prefix_append _ _).trans hPrefix
    rw [hPosition]
    exact (List.prefix_iff_eq_take.mp hFront).symm
  refine ⟨hToken, ⟨suffix, tree, fun line => ?_⟩, ?_⟩
  · rw [hSeen, hPosition, ← List.length_append]
    exact parse_of_derives (.expression hWord) line
  · intro tokens' hPrefix
    have hError :
        (ofTokens tokens').parse.2.errors.head? = some e := by
      apply hAgain
      rw [← hPosition]
      exact agreesFor_of_take_prefix hLess hPrefix
    refine ⟨?_, hError⟩
    have hSome := (ofTokens tokens').isSome_parse
    rw [List.isEmpty_eq_false_iff.mpr] at hSome
    · simpa using hSome
    · intro hNone
      rw [hNone] at hError
      exact nomatch hError

/-
  In `true ? true )` the colon is missed at the parenthesis,
  whatever is behind it, and not before.
-/
theorem first_error_is_earliest_colon :
    let literal : Token := ⟨.kwTrue, "true", none, 1⟩
    let question : Token := ⟨.question, "?", none, 1⟩
    let paren : Token := ⟨.rightParen, ")", none, 1⟩
    let tokens := [literal, question, literal, paren]
    let e : SyntaxError :=
      ⟨paren, .expected
        "Expect ':' after then branch of conditional expression.",
        3⟩
    (ofTokens tokens).parse.2.errors.head? = some e ∧
      (∃ suffix tree,
        (ofTokens ([literal, question, literal] ++ suffix ++
          [Token.endOfInput 1])).parse.1 = some tree) ∧
      ∀ more,
        (ofTokens (tokens ++ more)).parse.1 = none ∧
        (ofTokens (tokens ++ more)).parse.2.errors.head? =
          some e := by
  intro literal question paren tokens e
  have hFirst :
      (ofTokens tokens).parse.2.errors.head? = some e := by
    rw [parse_ofTokens]
    simp [literal, question, paren, tokens, e, firstOutcome,
      position_ending_ofTokens, tokensBeforeEnd, Token.isEnd,
      readPhrase_conditional, readPhrase_binary,
      Level.operand, readPhrase_unary_cons, readOperand_eq,
      readChain_cons, readBranches_cons, readLiteral,
      Value.ofToken?, Kind.isUnary, Kind.isLiteral,
      Kind.level?, passColon, passKind, Outcome.andThen,
      Outcome.done, Outcome.failed, Outcome.errors,
      Ending.errorAt]
  rcases first_error_is_earliest hFirst with
    ⟨_, ⟨suffix, tree, hCompleted⟩, hRefused⟩
  refine ⟨hFirst, ⟨suffix, tree, ?_⟩, fun more => ?_⟩
  · exact congrArg Prod.fst (hCompleted 1)
  · exact hRefused (tokens ++ more) ⟨more, rfl⟩

end Cursor

end LoxExpr
