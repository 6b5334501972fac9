import LoxExpr.Proofs.Grammar.Accounting
import LoxExpr.Proofs.Grammar.Start

/-
  This file says what holds of a cursor after any moves, in
  any order: it is still over the tokens that it was made
  for, it has not passed the first end, and its errors have
  only been added to.

  Key definitions include:
    * `Cursor.IsOver`

  Main statements:
    * `Cursor.IsOver.move`
    * `Cursor.IsOver.run`
    * `Cursor.run_invariant`
-/

namespace LoxExpr

/- Closed tokens end with an end. -/
theorem exists_getLast?_closeTokens
    (tokens : List Token) :
    ∃ last, (closeTokens tokens).getLast? = some last ∧
      last.isEnd = true := by
  unfold closeTokens
  split
  · exact ⟨_, rfl, rfl⟩
  · rename_i last hLast
    split
    · rename_i hEnd
      exact ⟨last, hLast, hEnd⟩
    · exact ⟨_, List.getLast?_concat .., rfl⟩

namespace Cursor

------------------------------------------------------------
-- Cursors over Tokens
------------------------------------------------------------

/-
  The cursor is over the closed tokens, at the first end or
  before it.
-/
structure IsOver
    (tokens : List Token)
    (c : Cursor) : Prop where
  closed : c.tokens = closeTokens tokens
  bounded : c.position ≤ (tokensBeforeEnd tokens).length

theorem isOver_ofTokens (tokens : List Token) :
    (ofTokens tokens).IsOver tokens where
  closed := rfl
  bounded := Nat.zero_le _

section Over

variable {tokens : List Token}
variable {c : Cursor}

/- The live tokens are those up to the first end. -/
theorem IsOver.live_eq
    (h : c.IsOver tokens) :
    c.live = (tokensBeforeEnd tokens).drop c.position := by
  rcases closeTokens_eq_append tokens with
    ⟨closing, behind, hClosing, hSplit⟩
  have hWord : ∀ token ∈
      (tokensBeforeEnd tokens).drop c.position,
      token.isEnd = false := by
    intro token hMem
    exact isEnd_of_mem_tokensBeforeEnd
      (List.mem_of_mem_drop hMem)
  rw [live, h.closed, hSplit,
    List.drop_append_of_le_length h.bounded]
  exact tokensBeforeEnd_append_cons hWord hClosing behind

/- What the cursor sees as the end is the first one. -/
theorem IsOver.position_ending
    (h : c.IsOver tokens) :
    c.ending.position = (tokensBeforeEnd tokens).length := by
  have hPosition := h.bounded
  simp only [ending, h.live_eq, List.length_drop]
  omega

/- A cursor is moved no further than to the first end. -/
theorem IsOver.moveTo
    (h : c.IsOver tokens)
    (rest : List Token) :
    (c.moveTo rest).IsOver tokens where
  closed := h.closed
  bounded := by
    rw [Cursor.moveTo, h.position_ending]
    exact Nat.sub_le _ _

/- A move keeps the cursor over its tokens. -/
theorem IsOver.move
    (h : c.IsOver tokens)
    (m : Move) :
    (c.move m).IsOver tokens := by
  cases m with
  | parse =>
      have hMoved := h.moveTo c.outcome.rest
      exact ⟨hMoved.closed, hMoved.bounded⟩
  | synchronize =>
      rw [Cursor.move, synchronize]
      split
      · exact h
      · exact h.moveTo _

/- Moves keep the cursor over its tokens. -/
theorem IsOver.run
    (h : c.IsOver tokens)
    (moves : List Move) :
    (c.run moves).IsOver tokens := by
  induction moves generalizing c with
  | nil => exact h
  | cons m rest ih => exact ih (h.move m)

/- There is always a token at the position. -/
theorem IsOver.exists_token
    (h : c.IsOver tokens) :
    ∃ token, c.tokens[c.position]? = some token := by
  rcases closeTokens_eq_append tokens with
    ⟨closing, behind, _, hSplit⟩
  have hPosition := h.bounded
  have hLess : c.position < c.tokens.length := by
    rw [h.closed, hSplit, List.length_append,
      List.length_cons]
    omega
  exact ⟨_, List.getElem?_eq_getElem hLess⟩

/- No end has been passed. -/
theorem IsOver.isEnd_of_lt
    (h : c.IsOver tokens)
    {i : Nat}
    (hPassed : i < c.position)
    {token : Token}
    (hToken : c.tokens[i]? = some token) :
    token.isEnd = false := by
  rcases closeTokens_eq_append tokens with
    ⟨closing, behind, _, hSplit⟩
  have hFront : i < (tokensBeforeEnd tokens).length :=
    Nat.lt_of_lt_of_le hPassed h.bounded
  rw [h.closed, hSplit,
    List.getElem?_append_left hFront] at hToken
  exact isEnd_of_mem_tokensBeforeEnd
    (List.mem_of_getElem? hToken)

end Over

------------------------------------------------------------
-- What Moves Add
------------------------------------------------------------

/- A move adds errors behind the earlier ones. -/
theorem errors_prefix_move
    (c : Cursor)
    (m : Move) :
    c.errors <+: (c.move m).errors := by
  cases m with
  | parse => exact ⟨c.outcome.errors, rfl⟩
  | synchronize =>
      exact ⟨[], by simp [move, errors_synchronize]⟩

/- Moves add errors behind the earlier ones. -/
theorem errors_prefix_run
    (c : Cursor)
    (moves : List Move) :
    c.errors <+: (c.run moves).errors := by
  induction moves generalizing c with
  | nil => exact List.prefix_refl _
  | cons m rest ih =>
      exact (c.errors_prefix_move m).trans (ih (c.move m))

/- Moves never go back. -/
theorem position_le_run
    (c : Cursor)
    (moves : List Move) :
    c.position ≤ (c.run moves).position := by
  induction moves generalizing c with
  | nil => exact Nat.le_refl _
  | cons m rest ih =>
      exact Nat.le_trans (c.position_le_move m)
        (ih (c.move m))

/- After an error, no reading gives a tree. -/
theorem parse_run_eq_none
    {c : Cursor}
    (hErrors : c.errors ≠ [])
    (moves : List Move) :
    (c.run moves).parse.1 = none := by
  have hRun := c.errors_prefix_run moves
  have hParse :=
    (c.run moves).errors_prefix_move .parse
  have hKept := hRun.trans hParse
  have hTree := (c.run moves).isSome_parse
  have hSome : (c.run moves).parse.2.errors ≠ [] := by
    intro hNone
    rw [move, hNone, List.prefix_nil] at hKept
    exact hErrors hKept
  rw [List.isEmpty_eq_false_iff.mpr hSome] at hTree
  simpa using hTree

------------------------------------------------------------
-- Any Moves
------------------------------------------------------------

/-
  After any moves from the first of some tokens: the tokens
  are those at the start, closed by an end; there is a token
  at the position, and no end before it; the position and
  the errors only grow; a reading reports all errors that
  there are then, one by one; and it gives a tree if and only
  if there are none, so never again after the first.
-/
theorem run_invariant
    (tokens : List Token)
    (moves : List Move) :
    let c := (ofTokens tokens).run moves
    c.tokens = (ofTokens tokens).tokens ∧
    (∃ last, c.tokens.getLast? = some last ∧
      last.isEnd = true) ∧
    (∃ token, c.tokens[c.position]? = some token) ∧
    (∀ i < c.position, ∀ token,
      c.tokens[i]? = some token → token.isEnd = false) ∧
    (∀ later, c.position ≤ (c.run later).position ∧
      c.errors <+: (c.run later).errors) ∧
    c.synchronize.errors = c.errors ∧
    c.reply .parse =
      .parsed c.parse.1
        (c.parse.2.errors.map fun e =>
          Diagnostic.atToken e.token e.message)
        c.parse.2.errors ∧
    (c.parse.1.isSome = true ↔ c.parse.2.errors = []) ∧
    (c.errors ≠ [] →
      ∀ later, (c.run later).parse.1 = none) := by
  intro c
  have hOver : c.IsOver tokens :=
    (isOver_ofTokens tokens).run moves
  refine ⟨hOver.closed, ?_, hOver.exists_token,
    fun i hPassed token => hOver.isEnd_of_lt hPassed,
    fun later =>
      ⟨c.position_le_run later, c.errors_prefix_run later⟩,
    c.errors_synchronize, rfl, ?_, parse_run_eq_none⟩
  · rw [hOver.closed]
    exact exists_getLast?_closeTokens tokens
  · rw [c.isSome_parse, List.isEmpty_iff]

end Cursor

end LoxExpr
