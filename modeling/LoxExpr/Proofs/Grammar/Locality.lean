import LoxExpr.Proofs.Grammar.Tracing

/-
  This file shows that reading is local: what it does at a
  cursor depends on the tokens that it passes and the one
  behind them, and on nothing else.

  Key definitions include:
    * `SyntaxError.seenFrom`

  Main statements:
    * `Cursor.exists_trace`
    * `Cursor.reading_is_local`
-/

namespace LoxExpr

------------------------------------------------------------
-- Errors Seen from a Place
------------------------------------------------------------

/- An error, with its distance from a place before it. -/
def SyntaxError.seenFrom
    (place : Nat)
    (e : SyntaxError) : Token × SyntaxFault × Nat :=
  (e.token, e.fault, e.position - place)

/- What is noted of tokens is told by the tokens alone. -/
theorem seenFrom_noted
    {ending ending' : Ending}
    {passed : List Passed}
    {rest rest' : List Token}
    {place place' : Nat}
    (n : Nat)
    (hEnding :
      ending.position =
        place + n + passed.length + rest.length)
    (hEnding' :
      ending'.position =
        place' + n + passed.length + rest'.length) :
    (noted ending' passed rest').map
        (SyntaxError.seenFrom place') =
      (noted ending passed rest).map
        (SyntaxError.seenFrom place) := by
  induction passed generalizing n with
  | nil => rfl
  | cons p passed ih =>
      rw [List.length_cons] at hEnding hEnding'
      have hMore := ih (n + 1) (by omega) (by omega)
      cases hLacks : p.lacks with
      | false => simpa [noted, hLacks] using hMore
      | true =>
          have hPlace :
              ending'.position -
                  (passed.length + rest'.length + 1) -
                  place' =
                ending.position -
                  (passed.length + rest.length + 1) -
                  place := by
            omega
          simpa [noted, hLacks, SyntaxError.seenFrom,
            Ending.errorAt, hPlace] using hMore

/- At places that look the same, so do the errors there. -/
theorem SameNext.seenFrom_errorAt
    {ending ending' : Ending}
    {rest rest' : List Token}
    (h : SameNext ending rest ending' rest')
    (fault : SyntaxFault)
    {place place' n : Nat}
    (hEnding : ending.position = place + n + rest.length)
    (hEnding' :
      ending'.position = place' + n + rest'.length) :
    (ending'.errorAt fault rest').seenFrom place' =
      (ending.errorAt fault rest).seenFrom place := by
  have hPlace :
      ending'.position - rest'.length - place' =
        ending.position - rest.length - place := by
    omega
  have hToken := h.token_errorAt fault
  simp only [SyntaxError.seenFrom, hToken]
  simp only [Ending.errorAt, hPlace]

namespace Trace

variable {ending ending' : Ending}
variable {rest rest' : List Token}
variable {place place' : Nat}
variable {t : Trace}

/- The result of a trace looks the same from both places. -/
theorem seenFrom_result
    (hSame : SameNext ending rest ending' rest')
    (hEnding :
      ending.position =
        place + (t.tokens ++ rest).length)
    (hEnding' :
      ending'.position =
        place' + (t.tokens ++ rest').length) :
    (t.outcome ending' rest').result.mapError
        (SyntaxError.seenFrom place') =
      (t.outcome ending rest).result.mapError
        (SyntaxError.seenFrom place) := by
  cases t with
  | read passed tree => rfl
  | failed passed fault refused =>
      simp only [tokens, Trace.passed, Trace.refused,
        List.length_append, List.length_map]
        at hEnding hEnding'
      have hPlace :
          ending.position =
            place + passed.length +
              (refused ++ rest).length := by
        rw [List.length_append]
        omega
      have hPlace' :
          ending'.position =
            place' + passed.length +
              (refused ++ rest').length := by
        rw [List.length_append]
        omega
      exact congrArg Except.error
        ((hSame.append refused).seenFrom_errorAt fault
          hPlace hPlace')

/- So does what a trace notes. -/
theorem seenFrom_missing
    (hEnding :
      ending.position =
        place + (t.tokens ++ rest).length)
    (hEnding' :
      ending'.position =
        place' + (t.tokens ++ rest').length) :
    (t.outcome ending' rest').missing.map
        (SyntaxError.seenFrom place') =
      (t.outcome ending rest).missing.map
        (SyntaxError.seenFrom place) := by
  simp only [tokens, List.length_append, List.length_map]
    at hEnding hEnding'
  refine seenFrom_noted 0 ?_ ?_
  · simp only [List.length_append]
    omega
  · simp only [List.length_append]
    omega

end Trace

/- All errors, as those that are noted and the result. -/
theorem Outcome.map_errors
    {α : Type}
    (f : SyntaxError → α)
    (o : Outcome) :
    o.errors.map f =
      o.missing.map f ++
        match o.result.mapError f with
        | .error e => [e]
        | .ok _ => [] := by
  unfold errors
  cases o.result with
  | error e => exact List.map_append
  | ok tree => exact (List.append_nil _).symm

------------------------------------------------------------
-- Readings at a Cursor
------------------------------------------------------------

namespace Cursor

/- A reading moves the cursor to what it leaves. -/
theorem position_parse
    {c : Cursor}
    {passed : List Token}
    (hLive : c.live = passed ++ c.outcome.rest) :
    c.parse.2.position = c.position + passed.length := by
  have hPosition :
      c.parse.2.position =
        c.position + c.live.length -
          c.outcome.rest.length := rfl
  rw [hPosition, hLive, List.length_append]
  omega

/-
  A reading at a cursor has a fair trace, which ends where
  the cursor is moved, and which cursors that agree for the
  passed tokens share.
-/
theorem exists_trace (c : Cursor) :
    ∃ (t : Trace) (rest : List Token),
      c.live = t.tokens ++ rest ∧ t.IsFair rest ∧
      c.outcome = t.outcome c.ending rest ∧
      c.parse.2.position = c.position + t.tokens.length ∧
      ∀ c', AgreesFor t.tokens.length c c' →
        ∃ rest', c'.live = t.tokens ++ rest' ∧
          SameNext c.ending rest c'.ending rest' ∧
          c'.outcome = t.outcome c'.ending rest' := by
  rcases isTraced_readPhrase c.ending .conditional c.live
    with ⟨t, rest, hLive, hFair, hAgain⟩
  have hOutcome : c.outcome = t.outcome c.ending rest := by
    rw [outcome, hLive]
    exact hAgain _ _ (.refl _ _)
  refine ⟨t, rest, hLive, hFair, hOutcome,
    position_parse (by rw [hOutcome]; exact hLive), ?_⟩
  intro c' hAgree
  rcases hAgree.exists_live hLive with
    ⟨rest', hLive', hSame⟩
  refine ⟨rest', hLive', hSame, ?_⟩
  rw [outcome, hLive']
  exact hAgain _ _ hSame

/-
  Let a reading move its cursor by some number of tokens, and
  let another cursor be before the same tokens, and the same
  token behind them.  Its reading moves by the same number
  and comes to the same tree, to none, or to the same
  failure; and it adds the same errors, at the same distance
  from where it began.  No end is among the tokens that are
  passed, so what is behind an end has no part in it.
-/
theorem reading_is_local
    {c c' : Cursor}
    {n : Nat}
    (hMoved : c.parse.2.position = c.position + n)
    (hAgree : AgreesFor n c c') :
    c'.parse.2.position = c'.position + n ∧
    c'.outcome.result.mapError
        (SyntaxError.seenFrom c'.position) =
      c.outcome.result.mapError
        (SyntaxError.seenFrom c.position) ∧
    c'.outcome.missing.map
        (SyntaxError.seenFrom c'.position) =
      c.outcome.missing.map
        (SyntaxError.seenFrom c.position) ∧
    (∃ added added',
      c.parse.2.errors = c.errors ++ added ∧
      c'.parse.2.errors = c'.errors ++ added' ∧
      added'.map (SyntaxError.seenFrom c'.position) =
        added.map (SyntaxError.seenFrom c.position)) ∧
    ∀ i < n, ∀ token, c.tokens[c.position + i]? = some token →
      token.isEnd = false := by
  rcases c.exists_trace with
    ⟨t, rest, hLive, _, hOutcome, hPosition, hAgain⟩
  have hLength : t.tokens.length = n := by omega
  rw [← hLength] at hAgree
  rcases hAgain c' hAgree with
    ⟨rest', hLive', hSame, hOutcome'⟩
  have hEnding :
      c.ending.position =
        c.position + (t.tokens ++ rest).length := by
    rw [← hLive]
    rfl
  have hEnding' :
      c'.ending.position =
        c'.position + (t.tokens ++ rest').length := by
    rw [← hLive']
    rfl
  have hResult :
      c'.outcome.result.mapError
          (SyntaxError.seenFrom c'.position) =
        c.outcome.result.mapError
          (SyntaxError.seenFrom c.position) := by
    rw [hOutcome, hOutcome']
    exact Trace.seenFrom_result hSame hEnding hEnding'
  have hMissing :
      c'.outcome.missing.map
          (SyntaxError.seenFrom c'.position) =
        c.outcome.missing.map
          (SyntaxError.seenFrom c.position) := by
    rw [hOutcome, hOutcome']
    exact Trace.seenFrom_missing hEnding hEnding'
  refine ⟨?_, hResult, hMissing,
    ⟨c.outcome.errors, c'.outcome.errors, rfl, rfl, ?_⟩, ?_⟩
  · rw [← hLength]
    exact position_parse (by rw [hOutcome']; exact hLive')
  · rw [Outcome.map_errors, Outcome.map_errors, hResult,
      hMissing]
  · intro i hPassed token hToken
    have hFront : i < c.live.length := by
      rw [hLive, List.length_append]
      omega
    rw [getElem?_of_lt_live hFront] at hToken
    exact isEnd_of_mem_live (List.mem_of_getElem? hToken)

/-
  `* true` is read alike at the start of its list and behind
  another token, and what is behind its end has no part.
-/
theorem reading_is_local_star :
    let star : Token := ⟨.star, "*", none, 1⟩
    let literal : Token := ⟨.kwTrue, "true", none, 1⟩
    let closing := Token.endOfInput 1
    let c : Cursor := ⟨[star, literal, closing], 0, []⟩
    let c' : Cursor :=
      ⟨[literal, star, literal, closing, star], 1, []⟩
    c.parse.2.position = c.position + 2 ∧
      AgreesFor 2 c c' ∧
      c'.parse.2.position = 3 ∧
      c'.outcome.missing.map (SyntaxError.seenFrom 1) =
        [(star, .missingLeftOperand, 0)] := by
  intro star literal closing c c'
  have hLive : c.live = [star, literal] := rfl
  have hOutcome :
      c.outcome =
        ⟨.ok none, [⟨star, .missingLeftOperand, 0⟩], []⟩ := by
    rw [outcome, hLive]
    simp [star, literal, readPhrase_conditional,
      readPhrase_binary, Level.operand,
      readPhrase_unary_cons, readOperand_eq, readChain_nil,
      readBranches_nil, readLiteral, Value.ofToken?,
      Kind.isUnary, Kind.isLiteral, Kind.level?,
      passOperator, Outcome.andThen, Outcome.done,
      Ending.errorAt]
    rfl
  have hMoved : c.parse.2.position = c.position + 2 := by
    have hPassed :
        c.live = [star, literal] ++ c.outcome.rest := by
      rw [hLive, hOutcome]
      rfl
    exact position_parse hPassed
  have hMissing :
      c.outcome.missing.map (SyntaxError.seenFrom 0) =
        [(star, .missingLeftOperand, 0)] := by
    rw [hOutcome]
    rfl
  have hAgree : AgreesFor 2 c c' := by
    intro i hBound
    have hCases : i = 0 ∨ i = 1 ∨ i = 2 := by omega
    rcases hCases with rfl | rfl | rfl <;> rfl
  rcases reading_is_local hMoved hAgree with
    ⟨hPosition, _, hSame, _, _⟩
  exact ⟨hMoved, hAgree, hPosition, hSame.trans hMissing⟩

end Cursor

end LoxExpr
