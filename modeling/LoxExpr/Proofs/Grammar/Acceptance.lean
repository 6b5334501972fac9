import LoxExpr.Proofs.Grammar.Derivation
import LoxExpr.Proofs.Grammar.Lookahead

/-
  This file shows that the readers read what the grammar
  derives: a word that stands before a token where its phrase
  stops is read with the tree of its derivation, and a tree
  that has been read is that of a derivation.

  Key definitions include:
    * `Phrase.resume`
    * `Outcome.IsTreeOf`
    * `Outcome.GoesOn`

  Main statements:
    * `readPhrase_of_derives`
    * `derives_of_readPhrase`
-/

namespace LoxExpr

------------------------------------------------------------
-- Nonterminals and Phrases
------------------------------------------------------------

/- The phrase that reads what a nonterminal derives. -/
def Nonterminal.phrase : Nonterminal → Phrase
| .expression | .conditional => .conditional
| .level l => .binary l
| .unary | .primary => .unary

/- The nonterminal of a phrase. -/
def Phrase.nonterminal : Phrase → Nonterminal
| .conditional => .conditional
| .binary level => .level level
| .unary => .unary

@[simp] theorem Level.phrase_operandNonterminal
    (level : Level) :
    level.operandNonterminal.phrase = level.operand := by
  cases level <;> rfl

@[simp] theorem Level.nonterminal_operand
    (level : Level) :
    level.operand.nonterminal =
      level.operandNonterminal := by
  cases level <;> rfl

------------------------------------------------------------
-- Derived Words Are Read
------------------------------------------------------------

/-
  What is left to do for a phrase whose first part has been
  read: a level goes on with its operators.
-/
def Phrase.resume
    (ending : Ending)
    (phrase : Phrase)
    (tree : Option Expr)
    (rest : List Token) : Outcome :=
  match phrase with
  | .binary level => readChain ending level tree rest
  | _ => .done tree rest

/- The part of a phrase behind which it is resumed. -/
def Phrase.inner : Phrase → Phrase
| .binary level => level.operand
| phrase => phrase

theorem Phrase.StopsAt.inner
    {phrase : Phrase}
    {rest : List Token}
    (hStops : phrase.StopsAt rest) :
    phrase.inner.StopsAt rest := by
  cases phrase with
  | binary level => exact hStops.operand
  | _ => exact hStops

theorem Phrase.resume_of_stopsAt
    (ending : Ending)
    {phrase : Phrase}
    (tree : Option Expr)
    {rest : List Token}
    (hStops : phrase.StopsAt rest) :
    phrase.resume ending tree rest = .done tree rest := by
  cases phrase with
  | binary level =>
      exact readChain_of_stopsAt ending tree hStops
  | _ => rfl

/- Where its phrase stops, nothing is left to do. -/
theorem readPhrase_of_resume
    {ending : Ending}
    {phrase : Phrase}
    {w : List Token}
    {tree : Expr}
    (h :
      ∀ rest, phrase.inner.StopsAt rest →
        readPhrase ending phrase (w ++ rest) =
          phrase.resume ending (some tree) rest)
    {rest : List Token}
    (hStops : phrase.StopsAt rest) :
    readPhrase ending phrase (w ++ rest) =
      .done (some tree) rest := by
  rw [h rest hStops.inner,
    Phrase.resume_of_stopsAt ending _ hStops]

------------------------------------------------------------
-- Phrases from Their Parts
------------------------------------------------------------

section Parts

variable (ending : Ending)
variable {tokens more rest : List Token}

/- A condition is read with its branches, if all parts are. -/
theorem readPhrase_of_branches
    {question colon : Token}
    (hQuestion : question.kind = .question)
    (hColon : colon.kind = .colon)
    {condition thenBranch elseBranch : Expr}
    (hCondition :
      readPhrase ending (.binary .equality) tokens =
        .done (some condition) (question :: more))
    {behind : List Token}
    (hThen :
      readPhrase ending .conditional more =
        .done (some thenBranch) (colon :: behind))
    (hElse :
      readPhrase ending .conditional behind =
        .done (some elseBranch) rest) :
    readPhrase ending .conditional tokens =
      .done
        (some
          (.conditional condition thenBranch elseBranch))
        rest := by
  rw [readPhrase_conditional, hCondition,
    Outcome.andThen_done, readBranches_cons,
    if_pos hQuestion, hThen, Outcome.andThen_done,
    passColon, passKind_cons ending _ hColon,
    Outcome.andThen_done, hElse, Outcome.andThen_done]
  rfl

/- A level goes on behind the right operand. -/
theorem readChain_of_operator
    {level : Level}
    {operator : Token}
    (hLevel : operator.kind.level? = some level)
    (left : Expr)
    {right : Expr}
    (hRight :
      readPhrase ending level.operand more =
        .done (some right) rest) :
    readChain ending level (some left) (operator :: more) =
      readChain ending level
        (some (.binary left operator right)) rest := by
  rw [readChain_cons, if_pos hLevel, hRight,
    Outcome.andThen_done]
  rfl

/- An operator before its operand is read, if that is. -/
theorem readPhrase_of_unary
    {operator : Token}
    (hUnary : operator.kind.isUnary = true)
    {right : Expr}
    (hRight :
      readPhrase ending .unary more =
        .done (some right) rest) :
    readPhrase ending .unary (operator :: more) =
      .done (some (.unary operator right)) rest := by
  rw [readPhrase_unary_cons,
    readOperand_of_isUnary ending hUnary, hRight,
    Outcome.andThen_done]
  rfl

/- A token with a value is read. -/
theorem readPhrase_of_literal
    {token : Token}
    {value : Value}
    (hValue : Value.ofToken? token = some value) :
    readPhrase ending .unary (token :: rest) =
      .done (some (.literal value)) rest := by
  rw [readPhrase_unary_cons,
    readOperand_of_isLiteral ending
      (isLiteral_of_ofToken? hValue),
    readLiteral_of_some ending hValue]

/- A group is read, if what is in it is. -/
theorem readPhrase_of_grouping
    {opening closing : Token}
    (hOpening : opening.kind = .leftParen)
    (hClosing : closing.kind = .rightParen)
    {inner : Expr}
    (hInner :
      readPhrase ending .conditional more =
        .done (some inner) (closing :: rest)) :
    readPhrase ending .unary (opening :: more) =
      .done (some (.grouping inner)) rest := by
  rw [readPhrase_unary_cons,
    readOperand_of_leftParen ending hOpening, hInner,
    Outcome.andThen_done, passClose,
    passKind_cons ending _ hClosing, Outcome.andThen_done]
  rfl

end Parts

------------------------------------------------------------
-- Words of All Nonterminals
------------------------------------------------------------

/-
  A derived word is read up to its end, and then its phrase
  is resumed.  The level of an operator is resumed at the
  operator, so the statement reaches beyond words where the
  phrase stops.
-/
theorem readPhrase_resume_of_derives
    (ending : Ending)
    {start : Nonterminal}
    {w : List Token}
    {tree : Expr}
    (h : Derives start w tree)
    (rest : List Token)
    (hStops : start.phrase.inner.StopsAt rest) :
    readPhrase ending start.phrase (w ++ rest) =
      start.phrase.resume ending (some tree) rest := by
  induction h generalizing rest with
  | expression _ ih => exact ih rest hStops
  | @condition w tree _ ih =>
      have hRead :
          readPhrase ending (.binary .equality)
              (w ++ rest) = .done (some tree) rest :=
        readPhrase_of_resume ih hStops.equality
      simp only [Nonterminal.phrase, Phrase.resume]
      rw [readPhrase_conditional, hRead,
        Outcome.andThen_done]
      exact readBranches_of_stopsAt ending _ hStops
  | @branches w₁ w₂ w₃ condition thenBranch elseBranch
      question colon _ hQuestion _ hColon _
      ihCondition ihThen ihElse =>
      have hQuestionStops :
          (Phrase.binary .equality).StopsAt
            (question :: (w₂ ++ colon :: (w₃ ++ rest))) :=
        Phrase.binary_stopsAt_of_level?
          (by simp [hQuestion, Kind.level?]) _ _
      have hColonStops :
          Phrase.conditional.StopsAt
            (colon :: (w₃ ++ rest)) :=
        Phrase.conditional_stopsAt_cons_iff.mpr
          (by simp [hColon, Kind.level?])
      rw [List.append_assoc, List.cons_append,
        List.append_assoc, List.cons_append]
      exact readPhrase_of_branches ending hQuestion hColon
        (readPhrase_of_resume ihCondition hQuestionStops)
        (ihThen _ hColonStops) (ihElse rest hStops)
  | @operand level w tree _ ih =>
      have hOperand : level.operand.StopsAt rest := hStops
      rw [Level.phrase_operandNonterminal] at ih
      simp only [Nonterminal.phrase, Phrase.resume]
      rw [readPhrase_binary,
        readPhrase_of_resume ih hOperand,
        Outcome.andThen_done]
  | @operator level w₁ w₂ left right operator _ hOperator _
      ihLeft ihRight =>
      have hLevel :=
        (level.mem_operators_iff operator.kind).mp hOperator
      have hLeft := ihLeft (operator :: (w₂ ++ rest))
        (Phrase.operand_stopsAt_operator hLevel _)
      have hOperand : level.operand.StopsAt rest := hStops
      rw [Level.phrase_operandNonterminal] at ihRight
      rw [List.append_assoc, List.cons_append, hLeft]
      exact readChain_of_operator ending hLevel left
        (readPhrase_of_resume ihRight hOperand)
  | unary hOperator _ ih =>
      have hUnary := (mem_unaryOperators_iff _).mp hOperator
      exact readPhrase_of_unary ending hUnary
        (ih rest (Phrase.stopsAt_unary rest))
  | primary _ ih => exact ih rest hStops
  | literal hValue =>
      exact readPhrase_of_literal ending hValue
  | @grouping w inner opening closing hOpening _ hClosing
      ih =>
      have hClosingStops :
          Phrase.conditional.StopsAt (closing :: rest) :=
        Phrase.conditional_stopsAt_cons_iff.mpr
          (by simp [hClosing, Kind.level?])
      rw [List.cons_append, List.append_assoc]
      exact readPhrase_of_grouping ending hOpening hClosing
        (ih _ hClosingStops)

/-
  A derived word before a place where its phrase stops is
  read to its end, without errors.
-/
theorem readPhrase_of_derives
    (ending : Ending)
    {start : Nonterminal}
    {w : List Token}
    {tree : Expr}
    (h : Derives start w tree)
    {rest : List Token}
    (hStops : start.phrase.StopsAt rest) :
    readPhrase ending start.phrase (w ++ rest) =
      .done (some tree) rest :=
  readPhrase_of_resume
    (readPhrase_resume_of_derives ending h) hStops

------------------------------------------------------------
-- Trees Come from Derivations
------------------------------------------------------------

/-
  The outcome is a tree for the front of the tokens, and
  nothing has been noted.
-/
def Outcome.IsTreeOf
    (o : Outcome)
    (derivable : List Token → Expr → Prop)
    (tokens : List Token)
    (tree : Expr) : Prop :=
  ∃ w rest, tokens = w ++ rest ∧
    o = .done (some tree) rest ∧ derivable w tree

/-
  The outcome goes on behind a word with the given tree, if
  there is one: whatever word of the start has that tree, a
  word of the goal begins with it and has the tree of the
  outcome.
-/
def Outcome.GoesOn
    (o : Outcome)
    (start goal : Nonterminal)
    (left : Option Expr)
    (tokens : List Token)
    (tree : Expr) : Prop :=
  ∃ first, left = some first ∧
    ∀ w₀, Derives start w₀ first →
      o.IsTreeOf (fun w => Derives goal (w₀ ++ w)) tokens tree

/- Behind a word there may be nothing more to read. -/
theorem Outcome.goesOn_done
    {start goal : Nonterminal}
    (hGoal :
      ∀ w tree, Derives start w tree → Derives goal w tree)
    {left : Option Expr}
    {tokens : List Token}
    {tree : Expr}
    (hOk : (done left tokens).result = .ok (some tree)) :
    (done left tokens).GoesOn start goal left tokens
      tree := by
  have hTree : left = some tree := Except.ok.inj hOk
  subst hTree
  refine ⟨tree, rfl, fun w₀ hDerives => ?_⟩
  refine ⟨[], tokens, rfl, rfl, hGoal _ _ ?_⟩
  rwa [List.append_nil]

/- A word is read, and then the reading goes on behind it. -/
theorem Outcome.isTreeOf_andThen
    {o : Outcome}
    {next : Option Expr → List Token → Outcome}
    {start goal : Nonterminal}
    {tokens : List Token}
    {tree : Expr}
    (hFirst :
      ∀ first, o.result = .ok (some first) →
        o.IsTreeOf (Derives start) tokens first)
    (hNext :
      ∀ left, (next left o.rest).result = .ok (some tree) →
        (next left o.rest).GoesOn start goal left o.rest
          tree)
    (hOk : (o.andThen next).result = .ok (some tree)) :
    (o.andThen next).IsTreeOf (Derives goal) tokens
      tree := by
  rcases exists_of_andThen_ok hOk with ⟨left, hLeft, hTree⟩
  rcases hNext left hTree with ⟨first, rfl, hFrom⟩
  rcases hFirst first hLeft with
    ⟨w₀, rest₀, rfl, hDone₀, hDerives₀⟩
  rw [hDone₀, rest_done] at hFrom
  rcases hFrom w₀ hDerives₀ with
    ⟨w, rest, rfl, hDone, hDerives⟩
  refine ⟨w₀ ++ w, rest, by simp, ?_, hDerives⟩
  rw [hDone₀, andThen_done]
  exact hDone

------------------------------------------------------------
-- Trees of Parts
------------------------------------------------------------

section Readers

variable {ending : Ending}
variable {token : Token}
variable {more : List Token}
variable {tree : Expr}

/- An operator before its operand is derived. -/
theorem derives_of_unary
    (hUnary : token.kind.isUnary = true)
    (ih :
      ∀ right,
        (readPhrase ending .unary more).result =
            .ok (some right) →
          (readPhrase ending .unary more).IsTreeOf
            (Derives .unary) more right)
    (hOk :
      (readOperand ending token more).result =
        .ok (some tree)) :
    (readOperand ending token more).IsTreeOf
      (Derives .unary) (token :: more) tree := by
  rw [readOperand_of_isUnary ending hUnary] at hOk ⊢
  rcases Outcome.exists_of_andThen_ok hOk with
    ⟨right?, hRight, hTree⟩
  rcases Option.map_eq_some_iff.mp
      (Except.ok.inj hTree) with ⟨right, rfl, rfl⟩
  rcases ih _ hRight with ⟨w, rest, rfl, hDone, hDerives⟩
  refine ⟨token :: w, rest, rfl, ?_,
    .unary ((mem_unaryOperators_iff _).mpr hUnary)
      hDerives⟩
  rw [hDone, Outcome.andThen_done]
  rfl

/- A literal is derived. -/
theorem derives_of_literal
    (hLiteral : token.kind.isLiteral = true)
    (hOk :
      (readOperand ending token more).result =
        .ok (some tree)) :
    (readOperand ending token more).IsTreeOf
      (Derives .unary) (token :: more) tree := by
  rw [readOperand_of_isLiteral ending hLiteral] at hOk ⊢
  rcases readLiteral_ok hOk with ⟨value, hValue, hDone⟩
  rw [hDone] at hOk ⊢
  have hTree : Expr.literal value = tree :=
    Option.some.inj (Except.ok.inj hOk)
  subst hTree
  exact ⟨[token], more, rfl, rfl,
    .primary (.literal hValue)⟩

/- A group is derived, with what closes it. -/
theorem derives_of_group
    (hOpening : token.kind = .leftParen)
    (ih :
      ∀ inner,
        (readPhrase ending .conditional more).result =
            .ok (some inner) →
          (readPhrase ending .conditional more).IsTreeOf
            (Derives .conditional) more inner)
    (hOk :
      (readOperand ending token more).result =
        .ok (some tree)) :
    (readOperand ending token more).IsTreeOf
      (Derives .unary) (token :: more) tree := by
  rw [readOperand_of_leftParen ending hOpening] at hOk ⊢
  rcases Outcome.exists_of_andThen_ok hOk with
    ⟨inner?, hInner, hCloseOk⟩
  rcases Outcome.exists_of_andThen_ok hCloseOk with
    ⟨_, hClose, hTree⟩
  rcases Option.map_eq_some_iff.mp
      (Except.ok.inj hTree) with ⟨inner, rfl, rfl⟩
  rcases ih _ hInner with ⟨w, rest, rfl, hDone, hDerives⟩
  rw [hDone, Outcome.rest_done] at hClose
  rw [hDone, Outcome.andThen_done]
  rcases passKind_ok hClose with
    ⟨closing, rest', rfl, hClosing, hPassed⟩
  refine ⟨token :: (w ++ [closing]), rest', by simp, ?_,
    .primary (.grouping hOpening (.expression hDerives)
      hClosing)⟩
  rw [passClose, hPassed, Outcome.andThen_done]
  rfl

/- An operator without left operand has no tree. -/
theorem result_operator_ne_some
    {level : Level}
    (hUnary : ¬token.kind.isUnary = true)
    (hLevel : token.kind.level? = some level) :
    (readOperand ending token more).result ≠
      .ok (some tree) := by
  intro hOk
  rw [readOperand_of_level? ending hUnary hLevel] at hOk
  rcases Outcome.exists_of_andThen_ok hOk with
    ⟨_, _, hOperand⟩
  rcases Outcome.exists_of_andThen_ok hOperand with
    ⟨_, _, hTree⟩
  exact absurd (Except.ok.inj hTree) (by simp)

/-
  An operand that has a tree begins with a unary operator, is
  a literal, or is a group.
-/
theorem derives_of_readOperand
    (ih :
      ∀ phrase tree,
        (readPhrase ending phrase more).result =
            .ok (some tree) →
          (readPhrase ending phrase more).IsTreeOf
            (Derives phrase.nonterminal) more tree)
    (hOk :
      (readOperand ending token more).result =
        .ok (some tree)) :
    (readOperand ending token more).IsTreeOf
      (Derives .unary) (token :: more) tree := by
  by_cases hUnary : token.kind.isUnary = true
  · exact derives_of_unary hUnary (ih .unary) hOk
  by_cases hLiteral : token.kind.isLiteral = true
  · exact derives_of_literal hLiteral hOk
  by_cases hOpening : token.kind = .leftParen
  · exact derives_of_group hOpening (ih .conditional) hOk
  cases hLevel : token.kind.level? with
  | some level =>
      exact absurd hOk (result_operator_ne_some hUnary hLevel)
  | none =>
      rw [readOperand_of_none ending hUnary hLiteral
        hOpening hLevel] at hOk
      simp [Outcome.failed] at hOk

/-
  An operator of a level goes on behind its left operand, and
  the level behind its right one.
-/
theorem derives_of_chain
    {level : Level}
    (hLevel : token.kind.level? = some level)
    (left : Option Expr)
    (ihRight :
      ∀ right,
        (readPhrase ending level.operand more).result =
            .ok (some right) →
          (readPhrase ending level.operand more).IsTreeOf
            (Derives level.operand.nonterminal) more right)
    (ihChain :
      ∀ left rest, rest.length ≤ more.length →
        (readChain ending level left rest).result =
            .ok (some tree) →
          (readChain ending level left rest).GoesOn
            (.level level) (.level level) left rest tree)
    (hOk :
      (readChain ending level left (token :: more)).result =
        .ok (some tree)) :
    (readChain ending level left (token :: more)).GoesOn
      (.level level) (.level level) left (token :: more)
      tree := by
  rw [readChain_cons, if_pos hLevel] at hOk ⊢
  rcases Outcome.exists_of_andThen_ok hOk with
    ⟨right?, hRight, hTree⟩
  rcases ihChain _ _ (length_rest_readPhrase_le _ _ _)
      hTree with ⟨first, hFirst, hFrom⟩
  rcases binaryTree_eq_some_iff.mp hFirst with
    ⟨leftTree, right, rfl, rfl, rfl⟩
  refine ⟨leftTree, rfl, fun w₀ hDerives₀ => ?_⟩
  rcases ihRight _ hRight with
    ⟨w₁, rest₁, rfl, hDone₁, hDerives₁⟩
  rw [Level.nonterminal_operand] at hDerives₁
  rw [hDone₁, Outcome.rest_done] at hFrom
  have hBoth := Derives.operator hDerives₀
    ((level.mem_operators_iff _).mpr hLevel) hDerives₁
  rcases hFrom _ hBoth with ⟨w, rest, rfl, hDone, hDerives⟩
  refine ⟨token :: (w₁ ++ w), rest, by simp, ?_,
    by simpa using hDerives⟩
  rw [hDone₁, Outcome.andThen_done]
  exact hDone

/- A question mark goes on behind a condition. -/
theorem derives_of_branches
    (hQuestion : token.kind = .question)
    (condition : Option Expr)
    (ih :
      ∀ rest : List Token, rest.length ≤ more.length →
        ∀ branch,
          (readPhrase ending .conditional rest).result =
              .ok (some branch) →
            (readPhrase ending .conditional rest).IsTreeOf
              (Derives .conditional) rest branch)
    (hOk :
      (readBranches ending condition
        (token :: more)).result = .ok (some tree)) :
    (readBranches ending condition (token :: more)).GoesOn
      (.level .equality) .conditional condition
      (token :: more) tree := by
  rw [readBranches_cons, if_pos hQuestion] at hOk ⊢
  rcases Outcome.exists_of_andThen_ok hOk with
    ⟨then?, hThen, hColonOk⟩
  rcases Outcome.exists_of_andThen_ok hColonOk with
    ⟨_, hColon, hElseOk⟩
  rcases Outcome.exists_of_andThen_ok hElseOk with
    ⟨else?, hElse, hTree⟩
  rcases conditionalTree_eq_some_iff.mp
      (Except.ok.inj hTree) with
    ⟨first, thenBranch, elseBranch, rfl, rfl, rfl, rfl⟩
  refine ⟨first, rfl, fun w₀ hDerives₀ => ?_⟩
  rcases ih _ (Nat.le_refl _) _ hThen with
    ⟨w₁, rest₁, rfl, hDone₁, hDerives₁⟩
  rw [hDone₁, Outcome.rest_done] at hColon hElse
  rcases passKind_ok hColon with
    ⟨colon, rest₂, rfl, hColonKind, hPassed⟩
  rw [passColon, hPassed, Outcome.rest_done] at hElse
  rcases ih _ (by simp; omega) _ hElse with
    ⟨w₂, rest, rfl, hDone₂, hDerives₂⟩
  refine ⟨token :: (w₁ ++ colon :: w₂), rest, by simp, ?_,
    .branches hDerives₀ hQuestion (.expression hDerives₁)
      hColonKind hDerives₂⟩
  rw [hDone₁, Outcome.andThen_done, passColon, hPassed,
    Outcome.andThen_done, hDone₂, Outcome.andThen_done]
  rfl

end Readers

------------------------------------------------------------
-- Trees of All Readers
------------------------------------------------------------

/- Every tree that is read is that of a derivation. -/
theorem derives_of_reading (ending : Ending) :
    (∀ phrase tokens tree,
      (readPhrase ending phrase tokens).result =
          .ok (some tree) →
        (readPhrase ending phrase tokens).IsTreeOf
          (Derives phrase.nonterminal) tokens tree) ∧
    (∀ level left tokens tree,
      (readChain ending level left tokens).result =
          .ok (some tree) →
        (readChain ending level left tokens).GoesOn
          (.level level) (.level level) left tokens tree) ∧
    ∀ condition tokens tree,
      (readBranches ending condition tokens).result =
          .ok (some tree) →
        (readBranches ending condition tokens).GoesOn
          (.level .equality) .conditional condition tokens
          tree := by
  apply reading_induction
  case conditional =>
    intro tokens hEquality hBranches tree hOk
    rw [readPhrase_conditional] at hOk ⊢
    refine Outcome.isTreeOf_andThen hEquality ?_ hOk
    intro condition
    exact hBranches condition _
      (length_rest_readPhrase_le _ _ _) tree
  case binary =>
    intro level tokens hOperand hChain tree hOk
    rw [readPhrase_binary] at hOk ⊢
    have hFirst : ∀ first,
        (readPhrase ending level.operand tokens).result =
            .ok (some first) →
          (readPhrase ending level.operand tokens).IsTreeOf
            (Derives (.level level)) tokens first := by
      intro first hLeft
      rcases hOperand first hLeft with
        ⟨w, rest, hSplit, hDone, hDerives⟩
      rw [Level.nonterminal_operand] at hDerives
      exact ⟨w, rest, hSplit, hDone, .operand hDerives⟩
    refine Outcome.isTreeOf_andThen hFirst ?_ hOk
    intro left
    exact hChain left _ (length_rest_readPhrase_le _ _ _)
      tree
  case unary =>
    intro tokens ih tree hOk
    cases tokens with
    | nil =>
        rw [readPhrase_unary_nil] at hOk
        simp [Outcome.failed] at hOk
    | cons token more =>
        rw [readPhrase_unary_cons] at hOk ⊢
        exact derives_of_readOperand
          (fun phrase => ih phrase more (Nat.lt_succ_self _))
          hOk
  case chain =>
    intro level left tokens hPhrase hChain tree hOk
    cases tokens with
    | nil =>
        rw [readChain_nil] at hOk ⊢
        exact Outcome.goesOn_done (fun _ _ h => h) hOk
    | cons token more =>
        by_cases hLevel : token.kind.level? = some level
        · exact derives_of_chain hLevel left
            (hPhrase _ more (Nat.lt_succ_self _))
            (fun left rest hRest =>
              hChain left rest (Nat.lt_succ_of_le hRest) tree)
            hOk
        · rw [readChain_cons, if_neg hLevel] at hOk ⊢
          exact Outcome.goesOn_done (fun _ _ h => h) hOk
  case branches =>
    intro condition tokens hPhrase tree hOk
    cases tokens with
    | nil =>
        rw [readBranches_nil] at hOk ⊢
        exact Outcome.goesOn_done
          (fun _ _ h => .condition h) hOk
    | cons token more =>
        by_cases hQuestion : token.kind = .question
        · exact derives_of_branches hQuestion condition
            (fun rest hRest =>
              hPhrase .conditional rest
                (Nat.lt_succ_of_le hRest))
            hOk
        · rw [readBranches_cons, if_neg hQuestion] at hOk ⊢
          exact Outcome.goesOn_done
            (fun _ _ h => .condition h) hOk

theorem derives_of_readPhrase
    {ending : Ending}
    {phrase : Phrase}
    {tokens : List Token}
    {tree : Expr}
    (hOk :
      (readPhrase ending phrase tokens).result =
        .ok (some tree)) :
    (readPhrase ending phrase tokens).IsTreeOf
      (Derives phrase.nonterminal) tokens tree :=
  (derives_of_reading ending).1 phrase tokens tree hOk

end LoxExpr
