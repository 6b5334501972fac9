import LoxExpr.Proofs.Grammar.Locality
import LoxExpr.Proofs.Grammar.Repair
import LoxExpr.Proofs.Grammar.Runs
import LoxExpr.Proofs.Grammar.Suffixes

/-
  This file says which errors one reading adds: operators
  that lack their left operand, in the order in which they
  are passed, and behind them one failure at most, at the
  token where the cursor is left, or at the last one passed.

  Key definitions include:
    * `SyntaxError.FailsAt`
    * `Cursor.AddsInOrder`
    * `Cursor.IsOrdered`

  Main statements:
    * `Cursor.IsOver.addsInOrder`
    * `Cursor.IsOrdered.run`
-/

namespace LoxExpr

------------------------------------------------------------
-- Places of What Was Noted
------------------------------------------------------------

/- What has been noted of fairly passed tokens. -/
theorem kind_of_mem_noted
    {ending : Ending}
    {passed : List Passed}
    {rest : List Token}
    (hNotes : NotesOperators passed)
    {e : SyntaxError}
    (hMem : e ∈ noted ending passed rest) :
    e.token.kind ∈ lackingKinds := by
  induction passed with
  | nil => exact nomatch hMem
  | cons p passed ih =>
      have hMore : NotesOperators passed := by
        intro p' hPassed
        exact hNotes p' (List.mem_cons_of_mem _ hPassed)
      cases hLacks : p.lacks with
      | false =>
          simp only [noted, hLacks, Bool.false_eq_true,
            ↓reduceIte] at hMem
          exact ih hMore hMem
      | true =>
          simp only [noted, hLacks, ↓reduceIte] at hMem
          rcases List.mem_cons.mp hMem with rfl | hMem
          · exact hNotes p List.mem_cons_self hLacks
          · exact ih hMore hMem

/- What has been noted stands at one of the passed places. -/
theorem position_of_mem_noted
    {ending : Ending}
    {passed : List Passed}
    {rest : List Token}
    {place : Nat}
    (hEnding :
      ending.position =
        place + passed.length + rest.length)
    {e : SyntaxError}
    (hMem : e ∈ noted ending passed rest) :
    place ≤ e.position ∧
      e.position < place + passed.length := by
  rcases of_mem_noted hEnding hMem with
    ⟨_, hPlace, hToken⟩
  have hLess := (List.getElem?_eq_some_iff.mp hToken).1
  rw [List.length_map] at hLess
  omega

/- Tokens are noted in the order in which they are passed. -/
theorem pairwise_position_noted
    {ending : Ending}
    {passed : List Passed}
    {rest : List Token}
    {place : Nat}
    (hEnding :
      ending.position =
        place + passed.length + rest.length) :
    (noted ending passed rest).Pairwise
      fun e e' => e.position < e'.position := by
  induction passed generalizing place with
  | nil => exact .nil
  | cons p passed ih =>
      have hMore :
          ending.position =
            place + 1 + passed.length + rest.length := by
        rw [List.length_cons] at hEnding
        omega
      cases hLacks : p.lacks with
      | false =>
          simp only [noted, hLacks, Bool.false_eq_true,
            ↓reduceIte]
          exact ih hMore
      | true =>
          simp only [noted, hLacks, ↓reduceIte]
          refine .cons (fun e hMem => ?_) (ih hMore)
          rw [position_errorAt_cons hMore]
          exact (position_of_mem_noted hMore hMem).1

------------------------------------------------------------
-- Failures
------------------------------------------------------------

/-
  A failure of a reading that leaves the cursor at a
  position.  It is at the token there, which is not the
  required one and goes on with nothing, or which begins no
  operand and is no operator between operands; or it is at
  the token before, a number or a string without its value.
-/
inductive SyntaxError.FailsAt (position : Nat) :
    SyntaxError → Prop
| required {kind : Kind} {message : String} {token : Token} :
    (kind, message) ∈ requirements →
    token.kind ≠ kind →
    ¬token.kind.GoesOn →
    FailsAt position ⟨token, .expected message, position⟩
| noOperand {token : Token} :
    token.kind ∉ operandKinds →
    (∀ level : Level, token.kind ∉ level.operators) →
    FailsAt position ⟨token, .expectedExpression, position⟩
| noValue {token : Token} {place : Nat} :
    place + 1 = position →
    token.kind ∈ [Kind.number, .string] →
    Value.ofToken? token = none →
    FailsAt position ⟨token, .expectedExpression, place⟩

/- What holds of the next token and of the end. -/
theorem headD_of_head?
    {property : Token → Prop}
    {rest : List Token}
    {closing : Token}
    (hHead :
      ∀ token, rest.head? = some token → property token)
    (hClosing : property closing) :
    property (rest.headD closing) := by
  cases rest with
  | nil => exact hClosing
  | cons token more => exact hHead token rfl

/- A failure for a reason, at the place where it happens. -/
theorem FailsBefore.failsAt
    {fault : SyntaxFault}
    {refused rest : List Token}
    (h : FailsBefore fault refused rest)
    {ending : Ending}
    (hEnd : ending.token.isEnd = true)
    {place : Nat}
    (hPlace :
      ending.position =
        place + (refused ++ rest).length) :
    (ending.errorAt fault (refused ++ rest)).FailsAt
      (place + refused.length) := by
  have hKind : ending.token.kind = .endOfInput := by
    simpa [Token.isEnd] using hEnd
  have hError :
      ending.errorAt fault (refused ++ rest) =
        ⟨(refused ++ rest).headD ending.token, fault,
          place⟩ := by
    rw [Ending.errorAt, hPlace, Nat.add_sub_cancel]
  rw [hError]
  cases h with
  | @required kind message _ hRequired hHead =>
      have hClosing : ending.token.kind ≠ kind ∧
          ¬ending.token.kind.GoesOn := by
        refine ⟨?_, not_goesOn_of_isEnd hEnd⟩
        have hOthers : ∀ entry ∈ requirements,
            Kind.endOfInput ≠ entry.1 := by
          decide
        rw [hKind]
        exact hOthers _ hRequired
      have hBoth := headD_of_head? hHead hClosing
      exact .required hRequired hBoth.1 hBoth.2
  | noOperand hHead =>
      have hClosing : ending.token.kind ∉ operandKinds ∧
          ∀ level : Level,
            ending.token.kind ∉ level.operators := by
        rw [hKind]
        refine ⟨by decide, fun level => ?_⟩
        cases level <;> decide
      have hBoth := headD_of_head? hHead hClosing
      exact .noOperand hBoth.1 hBoth.2
  | noValue hLiteral hValue =>
      exact .noValue rfl hLiteral hValue

/- No failure is about a missing operand. -/
theorem SyntaxError.FailsAt.fault_ne
    {position : Nat}
    {e : SyntaxError}
    (h : e.FailsAt position) :
    e.fault ≠ .missingLeftOperand := by
  cases h <;> exact SyntaxFault.noConfusion

/- A failure is at the position, or before it. -/
theorem SyntaxError.FailsAt.position_le
    {position : Nat}
    {e : SyntaxError}
    (h : e.FailsAt position) :
    e.position ≤ position := by
  cases h with
  | required _ _ _ => exact Nat.le_refl _
  | noOperand _ _ => exact Nat.le_refl _
  | noValue hPlace _ _ => exact hPlace ▸ Nat.le_succ _

/- There is one failure at most, so failures are in order. -/
theorem Outcome.pairwise_failure
    {related : SyntaxError → SyntaxError → Prop}
    (o : Outcome) :
    o.failure.Pairwise related := by
  unfold failure
  cases o.result with
  | error e => exact List.pairwise_singleton _ _
  | ok tree => exact .nil

------------------------------------------------------------
-- Errors That a Reading Adds
------------------------------------------------------------

namespace Cursor

/-
  A reading adds operators that lack their left operand, and
  then one failure at most.  They stand one behind another,
  from where the reading begins on; the operators have been
  passed, and are none that begins an operand.
-/
structure AddsInOrder
    (c : Cursor)
    (missing failure : List SyntaxError) : Prop where
  added :
    c.parse.2.errors = c.errors ++ (missing ++ failure)
  single : failure.length ≤ 1
  ordered :
    (missing ++ failure).Pairwise
      fun e e' => e.position < e'.position
  standing :
    ∀ e ∈ missing ++ failure, c.position ≤ e.position ∧
      c.tokens[e.position]? = some e.token
  lacking :
    ∀ e ∈ missing, e.fault = .missingLeftOperand ∧
      e.token.kind ∈ lackingKinds ∧
      e.position < c.parse.2.position
  failing :
    ∀ e ∈ failure, e.fault ≠ .missingLeftOperand ∧
      e.FailsAt c.parse.2.position

section Over

variable {tokens : List Token}
variable {c : Cursor}

/- The cursor sees an end, which stands in its list. -/
theorem IsOver.getElem?_ending
    (h : c.IsOver tokens) :
    c.tokens[c.ending.position]? = some c.ending.token ∧
      c.ending.token.isEnd = true := by
  rcases closeTokens_eq_append tokens with
    ⟨closing, behind, hClosing, hSplit⟩
  have hSelf :
      c.tokens[c.ending.position]? = some closing := by
    rw [h.position_ending, h.closed, hSplit,
      List.getElem?_append_right (Nat.le_refl _),
      Nat.sub_self]
    rfl
  have hToken : c.ending.token = closing := by
    have hPosition :
        c.position + c.live.length = c.ending.position :=
      rfl
    rw [token_ending, hPosition, hSelf]
    rfl
  rw [hToken]
  exact ⟨hSelf, hClosing⟩

/- An error before the last live tokens stands there. -/
theorem IsOver.standing
    (h : c.IsOver tokens)
    {behind : List Token}
    (hBehind : behind <:+ c.live)
    (fault : SyntaxFault) :
    c.position ≤ (c.ending.errorAt fault behind).position ∧
      c.tokens[(c.ending.errorAt fault behind).position]? =
        some (c.ending.errorAt fault behind).token := by
  rcases hBehind with ⟨front, hLive⟩
  have hPosition := position_errorAt hLive.symm fault
  refine ⟨by omega, ?_⟩
  rw [hPosition]
  cases behind with
  | nil =>
      have hEnding := h.getElem?_ending.1
      have hSame :
          c.position + front.length = c.ending.position := by
        rw [← hPosition]
        rfl
      rw [hSame]
      exact hEnding
  | cons token more =>
      rw [getElem?_of_lt_live (by rw [← hLive]; simp),
        ← hLive, List.getElem?_append_right (Nat.le_refl _),
        Nat.sub_self]
      rfl

/-
  What a reading notes is noted of the tokens that it passes,
  and its failure is right behind them.
-/
theorem IsOver.exists_noted
    (h : c.IsOver tokens) :
    ∃ passed behind,
      c.outcome.missing = noted c.ending passed behind ∧
      NotesOperators passed ∧
      c.ending.position =
        c.position + passed.length + behind.length ∧
      c.position + passed.length ≤ c.parse.2.position ∧
      ∀ e ∈ c.outcome.failure,
        e.position = c.position + passed.length ∧
          e.FailsAt c.parse.2.position := by
  rcases c.exists_trace with
    ⟨t, rest, hLive, hFair, hOutcome, hPosition, _⟩
  have hLength :
      t.tokens.length =
        t.passed.length + t.refused.length := by
    rw [Trace.tokens, List.length_append, List.length_map]
  have hEnding :
      c.ending.position =
        c.position + t.passed.length +
          (t.refused ++ rest).length := by
    have hSelf :
        c.ending.position = c.position + c.live.length :=
      rfl
    rw [hSelf, hLive, List.length_append,
      List.length_append, hLength]
    omega
  refine ⟨t.passed, t.refused ++ rest, by rw [hOutcome]; rfl,
    hFair.1, hEnding, by omega, ?_⟩
  intro e hMem
  rw [hOutcome] at hMem
  cases t with
  | read passed tree =>
      exact absurd hMem List.not_mem_nil
  | failed passed fault refused =>
      have hSelf :
          e = c.ending.errorAt fault (refused ++ rest) :=
        List.mem_singleton.mp hMem
      have hAt :=
        hFair.2.failsAt h.getElem?_ending.2 hEnding
      rw [hPosition, hLength, ← Nat.add_assoc, hSelf]
      refine ⟨?_, hAt⟩
      rw [Ending.errorAt, hEnding]
      exact Nat.add_sub_cancel _ _

/- One reading adds its errors in order. -/
theorem IsOver.addsInOrder
    (h : c.IsOver tokens) :
    c.AddsInOrder c.outcome.missing c.outcome.failure := by
  rcases h.exists_noted with
    ⟨passed, behind, hNoted, hNotes, hEnding, hMoved,
      hFailure⟩
  have hErrors :
      c.outcome.errors =
        c.outcome.missing ++ c.outcome.failure :=
    Outcome.errors_eq_append _
  constructor
  · rw [errors_parse, hErrors]
  · exact Outcome.length_failure_le _
  · refine List.pairwise_append.mpr
      ⟨?_, c.outcome.pairwise_failure, ?_⟩
    · rw [hNoted]
      exact pairwise_position_noted hEnding
    · intro e hMem e' hMem'
      rw [hNoted] at hMem
      rw [(hFailure e' hMem').1]
      exact (position_of_mem_noted hEnding hMem).2
  · intro e hMem
    rw [← hErrors] at hMem
    rcases (staysWithin_readPhrase _ _ _).errors e hMem with
      ⟨behind', hBehind, hSelf⟩
    rw [hSelf]
    exact h.standing hBehind _
  · intro e hMem
    rw [hNoted] at hMem
    have hMissing := (of_mem_noted hEnding hMem).1
    have hLess := (position_of_mem_noted hEnding hMem).2
    exact ⟨by simpa [SyntaxError.isMissing] using hMissing,
      kind_of_mem_noted hNotes hMem,
      Nat.lt_of_lt_of_le hLess hMoved⟩
  · intro e hMem
    have hFails := (hFailure e hMem).2
    exact ⟨hFails.fault_ne, hFails⟩

------------------------------------------------------------
-- Errors of All Readings
------------------------------------------------------------

/-
  The errors of a cursor stand in order, each at its token,
  and none of them behind the position.
-/
structure IsOrdered (c : Cursor) : Prop where
  ordered :
    c.errors.Pairwise fun e e' => e.position ≤ e'.position
  standing :
    ∀ e ∈ c.errors, e.position ≤ c.position ∧
      c.tokens[e.position]? = some e.token

/- What a reading adds stands behind what was there. -/
theorem IsOrdered.parse
    (hOrdered : c.IsOrdered)
    (h : c.IsOver tokens) :
    c.parse.2.IsOrdered := by
  have hAdds := h.addsInOrder
  have hMoved : c.position ≤ c.parse.2.position :=
    c.position_le_move .parse
  constructor
  · rw [hAdds.added]
    refine List.pairwise_append.mpr
      ⟨hOrdered.ordered,
        hAdds.ordered.imp fun hLess => Nat.le_of_lt hLess,
        ?_⟩
    intro e hMem e' hMem'
    exact Nat.le_trans (hOrdered.standing e hMem).1
      (hAdds.standing e' hMem').1
  · intro e hMem
    rw [hAdds.added] at hMem
    rcases List.mem_append.mp hMem with hMem | hMem
    · have hStands := hOrdered.standing e hMem
      exact ⟨Nat.le_trans hStands.1 hMoved, hStands.2⟩
    · refine ⟨?_, (hAdds.standing e hMem).2⟩
      rcases List.mem_append.mp hMem with hMem | hMem
      · exact Nat.le_of_lt (hAdds.lacking e hMem).2.2
      · exact (hAdds.failing e hMem).2.position_le

/- A move keeps the errors in order. -/
theorem IsOrdered.move
    (hOrdered : c.IsOrdered)
    (h : c.IsOver tokens)
    (m : Move) :
    (c.move m).IsOrdered := by
  cases m with
  | parse => exact hOrdered.parse h
  | synchronize =>
      have hMoved := c.position_le_synchronize
      constructor
      · rw [Cursor.move, errors_synchronize]
        exact hOrdered.ordered
      · intro e hMem
        rw [Cursor.move, errors_synchronize] at hMem
        rw [Cursor.move, tokens_synchronize]
        have hStands := hOrdered.standing e hMem
        exact ⟨Nat.le_trans hStands.1 hMoved, hStands.2⟩

/- So do moves in order. -/
theorem IsOrdered.run
    (hOrdered : c.IsOrdered)
    (h : c.IsOver tokens)
    (moves : List Move) :
    (c.run moves).IsOrdered := by
  induction moves generalizing c with
  | nil => exact hOrdered
  | cons m rest ih => exact ih (hOrdered.move h m) (h.move m)

/- A cursor at the first token has no errors yet. -/
theorem isOrdered_ofTokens (tokens : List Token) :
    (ofTokens tokens).IsOrdered where
  ordered := .nil
  standing := fun _ hMem => absurd hMem List.not_mem_nil

end Over

end Cursor

end LoxExpr
