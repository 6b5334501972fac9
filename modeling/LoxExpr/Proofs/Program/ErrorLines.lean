import LoxExpr.Proofs.Grammar.ErrorOrder
import LoxExpr.Proofs.Lexical.TokenOrder
import LoxExpr.Proofs.Program.ReportLines

/-
  This file says in which order the errors of a reading are,
  and those of a source on which lines: each is on the line
  of the one before it, or further down.

  The main statement is `Cursor.errors_in_order`.
-/

namespace LoxExpr

namespace Cursor

section Source

variable {source : String}
variable {c : Cursor}

/- Further on in a source, the line is no smaller. -/
theorem IsOver.line_le
    (h : c.IsOver (scan source).tokens)
    {e e' : SyntaxError}
    (hToken : c.tokens[e.position]? = some e.token)
    (hToken' : c.tokens[e'.position]? = some e'.token)
    (hOrder : e.position ≤ e'.position) :
    e.token.line ≤ e'.token.line := by
  rw [h.closed, closeTokens_scan] at hToken hToken'
  rcases List.getElem?_eq_some_iff.mp hToken with
    ⟨hLess, hSelf⟩
  rcases List.getElem?_eq_some_iff.mp hToken' with
    ⟨hLess', hSelf'⟩
  rcases Nat.lt_or_eq_of_le hOrder with hBefore | hSame
  · have hLines := List.pairwise_iff_getElem.mp
      (pairwise_line_scan source) _ _ hLess hLess' hBefore
    rwa [hSelf, hSelf'] at hLines
  · simp only [hSame, hSelf'] at hSelf
    exact Nat.le_of_eq (congrArg Token.line hSelf.symm)

/- So errors in the order of their places are in lines. -/
theorem IsOver.pairwise_line
    (h : c.IsOver (scan source).tokens)
    {errors : List SyntaxError}
    (hStanding :
      ∀ e ∈ errors, c.tokens[e.position]? = some e.token)
    (hOrdered :
      errors.Pairwise fun e e' =>
        e.position ≤ e'.position) :
    (errors.map fun e => e.token.line).Pairwise
      (· ≤ ·) := by
  rw [List.pairwise_map]
  refine hOrdered.imp_of_mem ?_
  intro e e' hMem hMem' hOrder
  exact h.line_le (hStanding e hMem) (hStanding e' hMem')
    hOrder

/- No literal of a source lacks its value. -/
theorem IsOver.position_failure
    (h : c.IsOver (scan source).tokens)
    {missing failure : List SyntaxError}
    (hAdds : c.AddsInOrder missing failure)
    {e : SyntaxError}
    (hMem : e ∈ failure) :
    e.position = c.parse.2.position := by
  have hStands :=
    (hAdds.standing e (List.mem_append_right _ hMem)).2
  cases (hAdds.failing e hMem).2 with
  | required _ _ _ => rfl
  | noOperand _ _ => rfl
  | noValue _ hLiteral hNone =>
      rw [h.closed, closeTokens_scan] at hStands
      rcases exists_value_of_mem_scan
          (List.mem_of_getElem? hStands) hLiteral with
        ⟨value, hValue⟩
      rw [hNone] at hValue
      exact nomatch hValue

end Source

/-
  A reading adds its errors in order: operators that lack
  their left operand, and then one failure at most.  Over the
  tokens of a source, the failure is at the token where the
  cursor is left, since no literal lacks its value, and the
  lines of the errors do not decrease.  Nor do those of all
  that is reported, whatever has been done with the cursor
  before.
-/
theorem errors_in_order
    {tokens : List Token}
    {c : Cursor}
    (hOver : c.IsOver tokens) :
    ∃ missing failure,
      c.AddsInOrder missing failure ∧
      ∀ source, tokens = (scan source).tokens →
        (∀ e ∈ failure,
          e.position = c.parse.2.position) ∧
        ((missing ++ failure).map fun e =>
          e.token.line).Pairwise (· ≤ ·) ∧
        ∀ moves, c = (ofTokens tokens).run moves →
          (c.parse.2.diagnostics.map
            Diagnostic.line).Pairwise (· ≤ ·) := by
  have hAdds := hOver.addsInOrder
  refine ⟨c.outcome.missing, c.outcome.failure, hAdds, ?_⟩
  rintro source rfl
  refine ⟨fun e hMem => hOver.position_failure hAdds hMem,
    ?_, ?_⟩
  · exact hOver.pairwise_line
      (fun e hMem => (hAdds.standing e hMem).2)
      (hAdds.ordered.imp fun hLess => Nat.le_of_lt hLess)
  · rintro moves rfl
    have hStart := isOrdered_ofTokens (scan source).tokens
    have hOrdered :=
      (hStart.run (isOver_ofTokens _) moves).parse hOver
    rw [diagnostics, List.map_map]
    exact (hOver.move .parse).pairwise_line
      (fun e hMem => (hOrdered.standing e hMem).2)
      hOrdered.ordered

/-
  A star without its left operand is reported on its line,
  and the parenthesis on the next line behind it.
-/
theorem errors_in_order_star :
    let star : Token := ⟨.star, "*", none, 1⟩
    let paren : Token := ⟨.rightParen, ")", none, 2⟩
    let tokens := (scan "*\n)").tokens
    let c := ofTokens tokens
    c.IsOver tokens ∧
      c.parse.2.errors =
        [⟨star, .missingLeftOperand, 0⟩,
         ⟨paren, .expectedExpression, 1⟩] ∧
      ∃ missing failure,
        c.AddsInOrder missing failure ∧
        (∀ e ∈ failure, e.position = c.parse.2.position) ∧
        (c.parse.2.diagnostics.map
          Diagnostic.line).Pairwise (· ≤ ·) := by
  intro star paren tokens c
  have hCuts : Cuts "*\n)".toList
      [⟨'*', [], .token .star none⟩, ⟨'\n', [], .layout⟩,
       ⟨')', [], .token .rightParen none⟩] [] :=
    .next (Segment.isNext_punctuation rfl _)
      (.next (.blank (by decide))
        (.next (Segment.isNext_punctuation rfl _) .done))
  have hScan :
      tokens = [star, paren, Token.endOfInput 2] := by
    have hFaultless :=
      scan_of_cuts hCuts (by simp [Segment.IsFaultless])
    exact congrArg Scan.tokens hFaultless
  have hErrors :
      c.parse.2.errors =
        [⟨star, .missingLeftOperand, 0⟩,
         ⟨paren, .expectedExpression, 1⟩] := by
    have hSelf : c = ofTokens tokens := rfl
    rw [hSelf, parse_ofTokens, hScan]
    simp [star, paren, firstOutcome,
      position_ending_ofTokens, tokensBeforeEnd,
      Token.endOfInput, Token.isEnd, readPhrase_conditional,
      readPhrase_binary, Level.operand,
      readPhrase_unary_cons, readOperand_eq, Kind.isUnary,
      Kind.isLiteral, Kind.level?, passOperator,
      Outcome.andThen, Outcome.failed, Outcome.errors,
      Ending.errorAt]
  have hOver : c.IsOver tokens := isOver_ofTokens tokens
  rcases errors_in_order hOver with
    ⟨missing, failure, hAdds, hSource⟩
  rcases hSource _ rfl with ⟨hPlace, _, hLines⟩
  exact ⟨hOver, hErrors, missing, failure, hAdds, hPlace,
    hLines [] rfl⟩

end Cursor

end LoxExpr
