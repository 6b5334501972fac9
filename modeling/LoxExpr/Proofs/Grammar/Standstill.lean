import LoxExpr.Proofs.Grammar.Climb
import LoxExpr.Proofs.Grammar.Runs
import LoxExpr.Proofs.Grammar.Suffixes
import LoxExpr.Proofs.Grammar.Tracing

/-
  This file says when a reading stays where it is: exactly at
  a token that begins no operand and is no binary operator.

  Key definitions include:
    * `Cursor.IsClosed`
    * `Cursor.IsAtEnd`
    * `Kind.BeginsNothing`

  Main statements:
    * `Cursor.IsClosed.live_eq_nil_iff`
    * `Cursor.IsClosed.parse_of_beginsNothing`
    * `Cursor.IsClosed.position_parse_eq_iff`
-/

namespace LoxExpr

------------------------------------------------------------
-- Cursors before an End
------------------------------------------------------------

/- What is known of a list that goes on behind a token. -/
theorem getElem?_of_drop_eq_cons
    {tokens more : List Token}
    {passed : Token}
    {place : Nat}
    (hDrop : tokens.drop place = passed :: more) :
    tokens[place]? = some passed ∧
      tokens[place + 1]? = more.head? ∧
      tokens.drop (place + 1) = more := by
  have hMore : tokens.drop (place + 1) = more := by
    rw [← List.drop_drop, hDrop]
    rfl
  refine ⟨?_, ?_, hMore⟩
  · rw [← List.head?_drop, hDrop]
    rfl
  · rw [← List.head?_drop, hMore]

namespace Cursor

/- The list ends with an end, and the position is in it. -/
structure IsClosed (c : Cursor) : Prop where
  closed :
    ∃ last, c.tokens.getLast? = some last ∧
      last.isEnd = true
  within : c.position < c.tokens.length

/- The token at the position is an end. -/
def IsAtEnd (c : Cursor) : Prop :=
  ∃ token, c.tokens[c.position]? = some token ∧
    token.isEnd = true

section Closed

variable {c : Cursor}

/- The live tokens stand before an end. -/
theorem IsClosed.exists_drop
    (h : c.IsClosed) :
    ∃ closing behind, closing.isEnd = true ∧
      c.tokens.drop c.position =
        c.live ++ closing :: behind := by
  rcases h.closed with ⟨last, hLast, hEnd⟩
  apply exists_end_of_mem
  refine ⟨last, List.mem_of_getLast? ?_, hEnd⟩
  rw [List.getLast?_drop,
    if_neg (Nat.not_le_of_lt h.within), hLast]

/- The next token is the first live one, or the end. -/
theorem IsClosed.getElem?_position
    (h : c.IsClosed) :
    ∃ token, c.tokens[c.position]? = some token ∧
      (token.isEnd = true ∧ c.live = [] ∨
        ∃ more, c.live = token :: more) := by
  rcases h.exists_drop with
    ⟨closing, behind, hClosing, hDrop⟩
  cases hLive : c.live with
  | nil =>
      rw [hLive] at hDrop
      exact ⟨closing, (getElem?_of_drop_eq_cons hDrop).1,
        Or.inl ⟨hClosing, rfl⟩⟩
  | cons token more =>
      rw [hLive] at hDrop
      exact ⟨token, (getElem?_of_drop_eq_cons hDrop).1,
        Or.inr ⟨more, rfl⟩⟩

/- At an end there is nothing live. -/
theorem IsClosed.live_eq_nil_iff
    (h : c.IsClosed) :
    c.live = [] ↔ c.IsAtEnd := by
  rcases h.getElem?_position with
    ⟨token, hToken, ⟨hEnd, hNone⟩ | ⟨more, hLive⟩⟩
  · exact iff_of_true hNone ⟨token, hToken, hEnd⟩
  · refine iff_of_false (by simp [hLive]) ?_
    rintro ⟨other, hOther, hEnd⟩
    have hFirst : token.isEnd = false :=
      isEnd_of_mem_live (c := c) (by simp [hLive])
    rw [hToken] at hOther
    rw [Option.some.inj hOther, hEnd] at hFirst
    exact nomatch hFirst

end Closed

end Cursor

------------------------------------------------------------
-- Readings That Stay
------------------------------------------------------------

/-
  A kind at which no expression can be read: it begins no
  operand, and it is no binary operator.
-/
def Kind.BeginsNothing (kind : Kind) : Prop :=
  kind ∉ operandKinds ∧
    ∀ level : Level, kind ∉ level.operators

theorem Kind.beginsNothing_iff (kind : Kind) :
    kind.BeginsNothing ↔
      ¬kind.isUnary = true ∧ ¬kind.isLiteral = true ∧
        ¬kind = .leftParen ∧ kind.level? = none := by
  simp only [BeginsNothing, Level.mem_operators_iff,
    ← Option.eq_none_iff_forall_ne_some]
  cases kind <;> decide

/- What goes on puts nothing back. -/
theorem Outcome.length_rest_andThen_le
    {o : Outcome}
    {next : Option Expr → List Token → Outcome}
    (hNext :
      ∀ tree rest, (next tree rest).rest.length ≤ rest.length) :
    (o.andThen next).rest.length ≤ o.rest.length := by
  cases hResult : o.result with
  | error e =>
      exact Nat.le_of_eq (by rw [andThen_of_error hResult])
  | ok tree =>
      rw [andThen_of_ok hResult]
      exact hNext tree o.rest

/- Nor does what goes on behind a phrase. -/
theorem Phrase.length_rest_climb_le
    (ending : Ending)
    (phrase : Phrase)
    (tree : Option Expr)
    (rest : List Token) :
    (phrase.climb ending tree rest).rest.length ≤
      rest.length := by
  rcases staysWithin_reading ending with
    ⟨_, hChain, hBranches⟩
  have hLevels : ∀ levels tree rest,
      (climbLevels ending levels tree rest).rest.length ≤
        rest.length := by
    intro levels
    induction levels with
    | nil =>
        intro tree rest
        exact (hBranches tree rest).rest.length_le
    | cons level levels ih =>
        intro tree rest
        exact Nat.le_trans (Outcome.length_rest_andThen_le ih)
          (hChain level tree rest).rest.length_le
  cases phrase with
  | conditional => exact Nat.le_refl _
  | binary level => exact hLevels _ tree rest
  | unary => exact hLevels _ tree rest

/- A token that begins nothing is refused as an operand. -/
theorem readOperand_of_beginsNothing
    (ending : Ending)
    {token : Token}
    (hNothing : token.kind.BeginsNothing)
    (more : List Token) :
    readOperand ending token more =
      .failed
        (ending.errorAt .expectedExpression (token :: more))
        (token :: more) := by
  rcases (Kind.beginsNothing_iff _).mp hNothing with
    ⟨hUnary, hLiteral, hOpening, hLevel⟩
  rw [readOperand_eq, if_neg hUnary, if_neg hLiteral,
    if_neg hOpening, hLevel]

/- Every other token is passed. -/
theorem length_rest_readOperand_le
    (ending : Ending)
    {token : Token}
    (hBegins : ¬token.kind.BeginsNothing)
    (more : List Token) :
    (readOperand ending token more).rest.length ≤
      more.length := by
  rw [Kind.beginsNothing_iff] at hBegins
  have hClose : ∀ inner rest,
      ((passClose ending rest).andThen fun _ =>
        .done (Option.map .grouping inner)).rest.length ≤
        rest.length := by
    intro inner rest
    exact Nat.le_trans
      (Outcome.length_rest_andThen_le fun _ _ => Nat.le_refl _)
      (length_rest_passKind_le _ _ _ _)
  have hPhrase := fun phrase =>
    length_rest_readPhrase_le ending phrase more
  rw [readOperand_eq]
  split
  · exact Nat.le_trans
      (Outcome.length_rest_andThen_le fun _ _ => Nat.le_refl _)
      (hPhrase _)
  split
  · exact Nat.le_of_eq
      (congrArg List.length (rest_readLiteral _ _ _))
  split
  · exact Nat.le_trans
      (Outcome.length_rest_andThen_le hClose) (hPhrase _)
  split
  · refine Outcome.length_rest_andThen_le fun _ rest => ?_
    exact Nat.le_trans
      (Outcome.length_rest_andThen_le fun _ _ => Nat.le_refl _)
      (length_rest_readPhrase_le _ _ _)
  · simp_all

namespace Cursor

section Closed

variable {c : Cursor}

/- An error before all live tokens is at the next token. -/
theorem IsClosed.errorAt_live
    (h : c.IsClosed)
    {token : Token}
    (hToken : c.tokens[c.position]? = some token)
    (fault : SyntaxFault) :
    c.ending.errorAt fault c.live =
      ⟨token, fault, c.position⟩ := by
  have hPosition :
      c.ending.position - c.live.length = c.position :=
    Nat.add_sub_cancel _ _
  have hHead : c.live.headD c.ending.token = token := by
    rcases h.getElem?_position with
      ⟨next, hNext, ⟨_, hNone⟩ | ⟨more, hLive⟩⟩
    · rw [token_ending, hNone, List.length_nil,
        Nat.add_zero, hToken]
      rfl
    · rw [hLive]
      exact Option.some.inj (hNext.symm.trans hToken)
  rw [Ending.errorAt, hHead, hPosition]

/- At a token that begins nothing, all tokens are left. -/
theorem IsClosed.outcome_of_beginsNothing
    (h : c.IsClosed)
    {token : Token}
    (hToken : c.tokens[c.position]? = some token)
    (hNothing : token.kind.BeginsNothing) :
    c.outcome =
      .failed (c.ending.errorAt .expectedExpression c.live)
        c.live := by
  rw [outcome, readPhrase_conditional_eq_climb _ .unary]
  rcases h.getElem?_position with
    ⟨next, hNext, ⟨_, hNone⟩ | ⟨more, hLive⟩⟩
  · rw [hNone, readPhrase_unary_nil, Outcome.andThen_failed]
  · rw [← Option.some.inj (hToken.symm.trans hNext)] at hLive
    rw [hLive, readPhrase_unary_cons,
      readOperand_of_beginsNothing _ hNothing,
      Outcome.andThen_failed]

/-
  At a token that begins nothing, a reading finds that error
  and stays where it is.
-/
theorem IsClosed.parse_of_beginsNothing
    (h : c.IsClosed)
    {token : Token}
    (hToken : c.tokens[c.position]? = some token)
    (hNothing : token.kind.BeginsNothing) :
    c.parse.2 =
      { c with
        errors := c.errors ++
          [⟨token, .expectedExpression, c.position⟩] } := by
  have hOutcome := h.outcome_of_beginsNothing hToken hNothing
  rw [h.errorAt_live hToken] at hOutcome
  have hPosition :
      c.ending.position - c.live.length = c.position :=
    Nat.add_sub_cancel _ _
  simp only [parse, moveTo, hOutcome, Outcome.failed,
    hPosition]
  rfl

/- At every other token, a reading goes on. -/
theorem IsClosed.position_lt_parse
    (h : c.IsClosed)
    {token : Token}
    (hToken : c.tokens[c.position]? = some token)
    (hBegins : ¬token.kind.BeginsNothing) :
    c.position < c.parse.2.position := by
  rcases h.getElem?_position with
    ⟨next, hNext, ⟨hEnd, _⟩ | ⟨more, hLive⟩⟩
  · have hKind : token.kind = .endOfInput := by
      rw [Option.some.inj (hToken.symm.trans hNext)]
      simpa [Token.isEnd] using hEnd
    refine absurd ?_ hBegins
    rw [hKind, Kind.beginsNothing_iff]
    decide
  · rw [← Option.some.inj (hToken.symm.trans hNext)] at hLive
    have hRest : c.outcome.rest.length ≤ more.length := by
      rw [outcome, readPhrase_conditional_eq_climb _ .unary,
        hLive, readPhrase_unary_cons]
      exact Nat.le_trans
        (Outcome.length_rest_andThen_le
          (Phrase.length_rest_climb_le _ _))
        (length_rest_readOperand_le _ hBegins more)
    have hPosition :
        c.parse.2.position =
          c.position + c.live.length -
            c.outcome.rest.length := rfl
    rw [hPosition, hLive, List.length_cons]
    omega

/-
  A reading stays where it is exactly at a token that begins
  nothing.
-/
theorem IsClosed.position_parse_eq_iff
    (h : c.IsClosed) :
    c.parse.2.position = c.position ↔
      ∃ token, c.tokens[c.position]? = some token ∧
        token.kind.BeginsNothing := by
  constructor
  · intro hStays
    have hToken := List.getElem?_eq_getElem h.within
    refine ⟨_, hToken, Classical.byContradiction ?_⟩
    intro hBegins
    have hMoved := h.position_lt_parse hToken hBegins
    omega
  · rintro ⟨token, hToken, hNothing⟩
    rw [h.parse_of_beginsNothing hToken hNothing]

end Closed

end Cursor

end LoxExpr
