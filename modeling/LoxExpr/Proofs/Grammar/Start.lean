import LoxExpr.Grammar.Cursor
import LoxExpr.Proofs.Grammar.Induction

/-
  This file says what a cursor at the first of some tokens
  sees: the tokens before the first end, and that end.

  Main statements:
    * `closeTokens_eq_append`
    * `Cursor.live_ofTokens`
    * `Cursor.parse_ofTokens`
-/

namespace LoxExpr

------------------------------------------------------------
-- Tokens before the End
------------------------------------------------------------

/- The tokens before the first end of the input. -/
def tokensBeforeEnd (tokens : List Token) : List Token :=
  tokens.takeWhile fun token => !token.isEnd

/- Up to an end, nothing else may be one. -/
theorem tokensBeforeEnd_append_cons
    {w : List Token}
    (hWord : ∀ token ∈ w, token.isEnd = false)
    {closing : Token}
    (hClosing : closing.isEnd = true)
    (behind : List Token) :
    tokensBeforeEnd (w ++ closing :: behind) = w := by
  unfold tokensBeforeEnd
  rw [List.takeWhile_append_of_pos (by simpa using hWord)]
  simp [hClosing]

/- The tokens of a list that holds an end, cut there. -/
theorem exists_end_of_mem
    {tokens : List Token}
    (hEnd : ∃ token ∈ tokens, token.isEnd = true) :
    ∃ closing behind, closing.isEnd = true ∧
      tokens =
        tokensBeforeEnd tokens ++ closing :: behind := by
  induction tokens with
  | nil => simp at hEnd
  | cons token more ih =>
      cases hToken : token.isEnd with
      | true =>
          refine ⟨token, more, hToken, ?_⟩
          simp [tokensBeforeEnd, hToken]
      | false =>
          have hMore : ∃ token ∈ more,
              token.isEnd = true := by
            simpa [hToken] using hEnd
          rcases ih hMore with
            ⟨closing, behind, hClosing, hSplit⟩
          refine ⟨closing, behind, hClosing, ?_⟩
          conv => lhs; rw [hSplit]
          simp [tokensBeforeEnd, hToken]

/- Closed tokens hold an end. -/
theorem exists_isEnd_closeTokens (tokens : List Token) :
    ∃ token ∈ closeTokens tokens, token.isEnd = true := by
  unfold closeTokens
  split
  · exact ⟨_, List.mem_singleton_self _, rfl⟩
  · rename_i last hLast
    split
    · rename_i hEnd
      exact ⟨last, List.mem_of_getLast? hLast, hEnd⟩
    · exact ⟨_, List.mem_append_right _
        (List.mem_singleton_self _), rfl⟩

/- Closing tokens does not change what is before the end. -/
theorem tokensBeforeEnd_closeTokens (tokens : List Token) :
    tokensBeforeEnd (closeTokens tokens) =
      tokensBeforeEnd tokens := by
  have hAppend : ∀ line,
      tokensBeforeEnd
          (tokens ++ [Token.endOfInput line]) =
        tokensBeforeEnd tokens := by
    intro line
    unfold tokensBeforeEnd
    rw [List.takeWhile_append]
    split
    · rename_i hAll
      have hSelf :
          tokens.takeWhile (fun token => !token.isEnd) =
            tokens :=
        (List.takeWhile_prefix _).eq_of_length hAll
      have hClosing :
          (!(Token.endOfInput line).isEnd) = false := rfl
      rw [hSelf, List.takeWhile_cons, hClosing]
      exact List.append_nil tokens
    · rfl
  unfold closeTokens
  split
  · rename_i hLast
    rw [List.getLast?_eq_none_iff.mp hLast]
    rfl
  · split
    · rfl
    · exact hAppend _

/-
  Closed tokens are the tokens before the first end, that
  end, and what nobody reads.
-/
theorem closeTokens_eq_append (tokens : List Token) :
    ∃ closing behind, closing.isEnd = true ∧
      closeTokens tokens =
        tokensBeforeEnd tokens ++ closing :: behind := by
  rcases exists_end_of_mem
      (exists_isEnd_closeTokens tokens) with
    ⟨closing, behind, hClosing, hSplit⟩
  rw [tokensBeforeEnd_closeTokens] at hSplit
  exact ⟨closing, behind, hClosing, hSplit⟩

------------------------------------------------------------
-- The Cursor at the First Token
------------------------------------------------------------

namespace Cursor

theorem live_ofTokens (tokens : List Token) :
    (ofTokens tokens).live = tokensBeforeEnd tokens :=
  tokensBeforeEnd_closeTokens tokens

/- No token before the first end is an end. -/
theorem isEnd_of_mem_tokensBeforeEnd
    {tokens : List Token}
    {token : Token}
    (hMem : token ∈ tokensBeforeEnd tokens) :
    token.isEnd = false := by
  rw [← live_ofTokens] at hMem
  exact isEnd_of_mem_live hMem

theorem position_ending_ofTokens (tokens : List Token) :
    (ofTokens tokens).ending.position =
      (tokensBeforeEnd tokens).length := by
  rw [ending, live_ofTokens]
  exact Nat.zero_add _

/- The end that the cursor sees is the first one. -/
theorem token_ending_ofTokens
    {tokens behind : List Token}
    {closing : Token}
    (hSplit :
      closeTokens tokens =
        tokensBeforeEnd tokens ++ closing :: behind) :
    (ofTokens tokens).ending.token = closing := by
  rw [ending, live_ofTokens]
  simp [ofTokens, hSplit]

/- The outcome of the first reading. -/
def firstOutcome (tokens : List Token) : Outcome :=
  readPhrase (ofTokens tokens).ending .conditional
    (tokensBeforeEnd tokens)

/-
  The first reading gives its tree if it has no errors, keeps
  its errors, and stops before what is left.
-/
theorem parse_ofTokens (tokens : List Token) :
    (ofTokens tokens).parse =
      (if (firstOutcome tokens).errors.isEmpty then
          (firstOutcome tokens).tree?
        else
          none,
        ⟨closeTokens tokens,
          (tokensBeforeEnd tokens).length -
            (firstOutcome tokens).rest.length,
          (firstOutcome tokens).errors⟩) := by
  simp only [parse, outcome, live_ofTokens, moveTo,
    position_ending_ofTokens]
  rfl

theorem isSome_parse_ofTokens (tokens : List Token) :
    (ofTokens tokens).parse.1.isSome =
      ((firstOutcome tokens).errors.isEmpty &&
        (firstOutcome tokens).tree?.isSome) := by
  rw [parse_ofTokens]
  cases (firstOutcome tokens).errors.isEmpty <;> rfl

end Cursor

end LoxExpr
