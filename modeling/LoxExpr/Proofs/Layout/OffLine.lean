import LoxExpr.Grammar.Cursor
import LoxExpr.Proofs.Grammar.Induction
import LoxExpr.Proofs.RoundTrip.Rendering

/-
  This file shows that reading does not see the lines of
  tokens.  Tokens that differ in their lines are read to
  trees that differ in the lines of their operators, with
  the same errors on other lines and the same tokens left.

  Key definitions include:
    * `Expr.offLine`
    * `Outcome.offLine`
    * `Cursor.offLine`

  Main statements:
    * `readPhrase_offLine`
    * `Cursor.parse_of_offLine_eq`
-/

namespace LoxExpr

------------------------------------------------------------
-- Off the Lines
------------------------------------------------------------

/- A tree with its operators on no particular line. -/
def Expr.offLine : Expr → Expr
| .literal value => .literal value
| .grouping inner => .grouping inner.offLine
| .unary operator right =>
    .unary operator.offLine right.offLine
| .binary left operator right =>
    .binary left.offLine operator.offLine right.offLine
| .conditional condition thenBranch elseBranch =>
    .conditional condition.offLine thenBranch.offLine
      elseBranch.offLine

/- An error at a token on no particular line. -/
def SyntaxError.offLine (e : SyntaxError) : SyntaxError :=
  { e with token := e.token.offLine }

/- The end of the tokens, on no particular line. -/
def Ending.offLine (ending : Ending) : Ending :=
  { ending with token := ending.token.offLine }

/- What reading comes to, on no particular lines. -/
def Outcome.offLine (o : Outcome) : Outcome where
  result :=
    match o.result with
    | .error e => .error e.offLine
    | .ok tree => .ok (tree.map Expr.offLine)
  missing := o.missing.map SyntaxError.offLine
  rest := o.rest.map Token.offLine

/- A cursor in tokens on no particular lines. -/
def Cursor.offLine (c : Cursor) : Cursor where
  tokens := c.tokens.map Token.offLine
  position := c.position
  errors := c.errors.map SyntaxError.offLine

/- Trees without groupings have no lines either. -/
theorem Expr.bare_offLine (e : Expr) :
    e.offLine.bare = e.bare := by
  induction e with
  | literal value => rfl
  | grouping inner ih => exact ih
  | unary operator right ih =>
      rw [offLine, bare, bare, ih]
      rfl
  | binary left operator right ihLeft ihRight =>
      rw [offLine, bare, bare, ihLeft, ihRight]
      rfl
  | conditional condition thenBranch elseBranch
      ihCondition ihThen ihElse =>
      rw [offLine, bare, bare, ihCondition, ihThen, ihElse]

@[simp] theorem Token.kind_offLine (token : Token) :
    token.offLine.kind = token.kind := rfl

@[simp] theorem Token.isEnd_offLine (token : Token) :
    token.offLine.isEnd = token.isEnd := rfl

/- The value of a literal is on no line. -/
theorem Value.ofToken?_offLine (token : Token) :
    Value.ofToken? token.offLine =
      Value.ofToken? token := rfl

------------------------------------------------------------
-- Outcomes
------------------------------------------------------------

theorem Ending.errorAt_offLine
    (ending : Ending)
    (fault : SyntaxFault)
    (tokens : List Token) :
    (ending.errorAt fault tokens).offLine =
      ending.offLine.errorAt fault
        (tokens.map Token.offLine) := by
  unfold errorAt
  rw [List.length_map]
  cases tokens <;> rfl

theorem binaryTree_offLine
    (left : Option Expr)
    (operator : Token)
    (right : Option Expr) :
    (binaryTree left operator right).map Expr.offLine =
      binaryTree (left.map Expr.offLine) operator.offLine
        (right.map Expr.offLine) := by
  cases left <;> cases right <;> rfl

theorem conditionalTree_offLine
    (condition thenBranch elseBranch : Option Expr) :
    (conditionalTree condition thenBranch elseBranch).map
        Expr.offLine =
      conditionalTree (condition.map Expr.offLine)
        (thenBranch.map Expr.offLine)
        (elseBranch.map Expr.offLine) := by
  cases condition <;> cases thenBranch <;>
    cases elseBranch <;> rfl

namespace Outcome

theorem offLine_done
    (tree : Option Expr)
    (rest : List Token) :
    (done tree rest).offLine =
      done (tree.map Expr.offLine)
        (rest.map Token.offLine) := rfl

/- A failure is that at the token off its line. -/
theorem offLine_failed
    (ending : Ending)
    (fault : SyntaxFault)
    (tokens rest : List Token) :
    (failed (ending.errorAt fault tokens) rest).offLine =
      failed
        (ending.offLine.errorAt fault
          (tokens.map Token.offLine))
        (rest.map Token.offLine) := by
  rw [← Ending.errorAt_offLine]
  rfl

/- Lines are dropped from each of the parts. -/
theorem offLine_andThen
    {o : Outcome}
    {next next' : Option Expr → List Token → Outcome}
    (hNext :
      ∀ tree, o.result = .ok tree →
        (next tree o.rest).offLine =
          next' (tree.map Expr.offLine)
            (o.rest.map Token.offLine)) :
    (o.andThen next).offLine = o.offLine.andThen next' := by
  cases hResult : o.result with
  | error e =>
      have hOffLine : o.offLine.result = .error e.offLine := by
        simp only [offLine, hResult]
      rw [andThen_of_error hResult,
        andThen_of_error hOffLine]
  | ok tree =>
      have hOffLine :
          o.offLine.result =
            .ok (tree.map Expr.offLine) := by
        simp only [offLine, hResult]
      have hSecond :
          (next tree o.rest).offLine =
            next' (tree.map Expr.offLine) o.offLine.rest :=
        hNext tree hResult
      rw [andThen_of_ok hResult, andThen_of_ok hOffLine,
        ← hSecond]
      simp only [offLine, List.map_append]

theorem errors_offLine (o : Outcome) :
    o.offLine.errors =
      o.errors.map SyntaxError.offLine := by
  rcases o with ⟨_ | tree, missing, rest⟩
  · simp [offLine, errors]
  · rfl

theorem tree?_offLine (o : Outcome) :
    o.offLine.tree? = o.tree?.map Expr.offLine := by
  rcases o with ⟨_ | tree, missing, rest⟩ <;> rfl

end Outcome

open Outcome

theorem passKind_offLine
    (ending : Ending)
    (kind : Kind)
    (message : String)
    (tokens : List Token) :
    (passKind ending kind message tokens).offLine =
      passKind ending.offLine kind message
        (tokens.map Token.offLine) := by
  cases tokens with
  | nil => rfl
  | cons token more =>
      rw [List.map_cons]
      simp only [passKind]
      rw [Token.kind_offLine]
      split
      · rfl
      · exact offLine_failed _ _ _ _

theorem passColon_offLine
    (ending : Ending)
    (tokens : List Token) :
    (passColon ending tokens).offLine =
      passColon ending.offLine
        (tokens.map Token.offLine) :=
  passKind_offLine _ _ _ _

theorem passClose_offLine
    (ending : Ending)
    (tokens : List Token) :
    (passClose ending tokens).offLine =
      passClose ending.offLine
        (tokens.map Token.offLine) :=
  passKind_offLine _ _ _ _

theorem readLiteral_offLine
    (ending : Ending)
    (token : Token)
    (more : List Token) :
    (readLiteral ending token more).offLine =
      readLiteral ending.offLine token.offLine
        (more.map Token.offLine) := by
  simp only [readLiteral, Value.ofToken?_offLine]
  split
  · rfl
  · exact offLine_failed _ _ _ _

theorem passOperator_offLine
    (ending : Ending)
    (operator : Token)
    (more : List Token) :
    (passOperator ending operator more).offLine =
      passOperator ending.offLine operator.offLine
        (more.map Token.offLine) := by
  have hError := ending.errorAt_offLine .missingLeftOperand
    (operator :: more)
  rw [List.map_cons] at hError
  simp only [passOperator, ← hError]
  rfl

------------------------------------------------------------
-- Readers
------------------------------------------------------------

/- Operands are told by their kinds, not by their lines. -/
theorem readOperand_offLine
    {ending : Ending}
    {token : Token}
    {more : List Token}
    (ih :
      ∀ phrase rest, rest.length < (token :: more).length →
        (readPhrase ending phrase rest).offLine =
          readPhrase ending.offLine phrase
            (rest.map Token.offLine)) :
    (readOperand ending token more).offLine =
      readOperand ending.offLine token.offLine
        (more.map Token.offLine) := by
  have ihMore := fun phrase =>
    ih phrase more (Nat.lt_succ_self _)
  rw [readOperand_eq, readOperand_eq, Token.kind_offLine]
  split
  · rw [← ihMore]
    apply offLine_andThen
    intro right _
    cases right <;> rfl
  split
  · exact readLiteral_offLine ending token more
  split
  · rw [← ihMore]
    apply offLine_andThen
    intro inner _
    rw [← passClose_offLine]
    apply offLine_andThen
    intro _ _
    cases inner <;> rfl
  cases token.kind.level? with
  | some level =>
      simp only [← passOperator_offLine]
      apply offLine_andThen
      intro _ _
      change ((readPhrase _ _ more).andThen _).offLine =
        (readPhrase _ _ (more.map Token.offLine)).andThen _
      rw [← ihMore]
      apply offLine_andThen
      intro _ _
      rfl
  | none => exact offLine_failed _ _ _ _

/- Off the lines, the readers read what they read on them. -/
theorem reading_offLine (ending : Ending) :
    (∀ phrase tokens,
      (readPhrase ending phrase tokens).offLine =
        readPhrase ending.offLine phrase
          (tokens.map Token.offLine)) ∧
    (∀ level left tokens,
      (readChain ending level left tokens).offLine =
        readChain ending.offLine level
          (left.map Expr.offLine)
          (tokens.map Token.offLine)) ∧
    ∀ condition tokens,
      (readBranches ending condition tokens).offLine =
        readBranches ending.offLine
          (condition.map Expr.offLine)
          (tokens.map Token.offLine) := by
  apply reading_induction
  case conditional =>
    intro tokens hEquality hBranches
    rw [readPhrase_conditional, readPhrase_conditional,
      ← hEquality]
    apply offLine_andThen
    intro condition _
    exact hBranches condition _
      (length_rest_readPhrase_le _ _ _)
  case binary =>
    intro level tokens hOperand hChain
    rw [readPhrase_binary, readPhrase_binary, ← hOperand]
    apply offLine_andThen
    intro left _
    exact hChain left _ (length_rest_readPhrase_le _ _ _)
  case unary =>
    intro tokens ih
    cases tokens with
    | nil =>
        rw [List.map_nil, readPhrase_unary_nil,
          readPhrase_unary_nil]
        exact offLine_failed _ _ _ _
    | cons token more =>
        rw [List.map_cons, readPhrase_unary_cons,
          readPhrase_unary_cons]
        exact readOperand_offLine ih
  case chain =>
    intro level left tokens hPhrase hChain
    cases tokens with
    | nil =>
        rw [List.map_nil, readChain_nil, readChain_nil]
        rfl
    | cons operator more =>
        rw [List.map_cons, readChain_cons, readChain_cons,
          Token.kind_offLine]
        split
        · rw [← hPhrase _ more (Nat.lt_succ_self _)]
          apply offLine_andThen
          intro right _
          rw [← binaryTree_offLine]
          exact hChain _ _
            (Nat.lt_succ_of_le
              (length_rest_readPhrase_le _ _ _))
        · rfl
  case branches =>
    intro condition tokens hPhrase
    cases tokens with
    | nil =>
        rw [List.map_nil, readBranches_nil,
          readBranches_nil]
        rfl
    | cons token more =>
        rw [List.map_cons, readBranches_cons,
          readBranches_cons, Token.kind_offLine]
        split
        · rw [← hPhrase _ more (Nat.lt_succ_self _)]
          apply offLine_andThen
          intro thenBranch _
          rw [← passColon_offLine]
          apply offLine_andThen
          intro _ _
          have hRest :=
            Nat.le_trans
              (length_rest_passColon_le ending
                (readPhrase ending .conditional more).rest)
              (length_rest_readPhrase_le _ _ _)
          rw [← hPhrase _ _ (Nat.lt_succ_of_le hRest)]
          apply offLine_andThen
          intro elseBranch _
          rw [offLine_done, conditionalTree_offLine]
        · rfl

/- A phrase is read off the lines as on them. -/
theorem readPhrase_offLine
    (ending : Ending)
    (phrase : Phrase)
    (tokens : List Token) :
    (readPhrase ending phrase tokens).offLine =
      readPhrase ending.offLine phrase
        (tokens.map Token.offLine) :=
  (reading_offLine ending).1 phrase tokens

------------------------------------------------------------
-- Cursors
------------------------------------------------------------

namespace Cursor

/- The live tokens are told by their kinds. -/
theorem live_offLine (c : Cursor) :
    c.offLine.live = c.live.map Token.offLine := by
  simp only [live, offLine, ← List.map_drop,
    List.takeWhile_map]
  rfl

/- Where the tokens end does not depend on their lines. -/
theorem ending_offLine (c : Cursor) :
    c.offLine.ending.offLine = c.ending.offLine := by
  have hToken (n : Nat) :
      ((c.tokens.map Token.offLine).getD n
          (Token.endOfInput 1)).offLine =
        (c.tokens.getD n (Token.endOfInput 1)).offLine := by
    rw [List.getD_eq_getElem?_getD,
      List.getD_eq_getElem?_getD, List.getElem?_map]
    cases c.tokens[n]? <;> rfl
  simp only [ending, live_offLine, List.length_map,
    Ending.offLine, Ending.mk.injEq]
  exact ⟨hToken _, rfl⟩

/- Cursors that differ in lines end at the same place. -/
theorem ending_of_offLine_eq
    {c c' : Cursor}
    (h : c'.offLine = c.offLine) :
    c'.ending.offLine = c.ending.offLine := by
  rw [← c'.ending_offLine, h, c.ending_offLine]

/- Cursors that differ in lines read what differs in lines. -/
theorem outcome_of_offLine_eq
    {c c' : Cursor}
    (h : c'.offLine = c.offLine) :
    c'.outcome.offLine = c.outcome.offLine := by
  have hEnding := ending_of_offLine_eq h
  have hLive :
      c'.live.map Token.offLine =
        c.live.map Token.offLine := by
    rw [← c'.live_offLine, h, c.live_offLine]
  rw [outcome, outcome, readPhrase_offLine,
    readPhrase_offLine, hEnding, hLive]

/-
  Cursors that differ in lines give trees that differ in
  lines, and so do the cursors behind the trees.
-/
theorem parse_of_offLine_eq
    {c c' : Cursor}
    (h : c'.offLine = c.offLine) :
    c'.parse.1.map Expr.offLine =
        c.parse.1.map Expr.offLine ∧
      c'.parse.2.offLine = c.parse.2.offLine := by
  have hOutcome := outcome_of_offLine_eq h
  have hErrors :
      (c'.errors ++ c'.outcome.errors).map
          SyntaxError.offLine =
        (c.errors ++ c.outcome.errors).map
          SyntaxError.offLine := by
    have hEarlier : c'.errors.map SyntaxError.offLine =
        c.errors.map SyntaxError.offLine :=
      congrArg Cursor.errors h
    rw [List.map_append, List.map_append, hEarlier,
      ← errors_offLine, ← errors_offLine, hOutcome]
  have hNone :
      (c'.errors ++ c'.outcome.errors).isEmpty =
        (c.errors ++ c.outcome.errors).isEmpty := by
    rw [← List.isEmpty_map, hErrors, List.isEmpty_map]
  constructor
  · simp only [parse, hNone]
    split
    · rw [← tree?_offLine, hOutcome, tree?_offLine]
    · rfl
  · have hEnding :=
      congrArg Ending.position (ending_of_offLine_eq h)
    change c'.ending.position = c.ending.position at hEnding
    have hRest :
        c'.outcome.rest.length = c.outcome.rest.length := by
      have hLength := congrArg
        (fun o => o.rest.length) hOutcome
      simpa [Outcome.offLine] using hLength
    have hTokens : c'.tokens.map Token.offLine =
        c.tokens.map Token.offLine :=
      congrArg Cursor.tokens h
    simp only [parse, moveTo, offLine, hErrors, hEnding,
      hRest, hTokens]

end Cursor

/- Closing tokens does not depend on their lines. -/
theorem map_offLine_closeTokens (tokens : List Token) :
    (closeTokens (tokens.map Token.offLine)).map
        Token.offLine =
      (closeTokens tokens).map Token.offLine := by
  unfold closeTokens
  rw [List.getLast?_map]
  cases tokens.getLast? with
  | none => rfl
  | some last =>
      simp only [Option.map_some]
      rw [Token.isEnd_offLine]
      split
      · rw [List.map_map]
        rfl
      · rw [List.map_append, List.map_append, List.map_map]
        rfl

end LoxExpr
