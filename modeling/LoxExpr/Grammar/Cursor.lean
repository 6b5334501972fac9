import LoxExpr.Grammar.Reading

/-
  This file defines a place in a list of tokens, from which
  expressions are read one after another.

  The end of the input is never passed, wherever it stands
  in the list.  Errors are kept from one reading to the next,
  and while there are any, no reading gives a tree.

  Key definitions include:
    * `Cursor`
    * `Cursor.ofTokens`
    * `Cursor.parse`
    * `Cursor.synchronize`
    * `Cursor.replies`
-/

namespace LoxExpr

------------------------------------------------------------
-- Cursors
------------------------------------------------------------

/-
  A list of tokens, the position of the next one, and the
  errors found so far, in order.
-/
structure Cursor where
  tokens : List Token
  position : Nat
  errors : List SyntaxError

/-
  Tokens closed by the end of the input.  An end that is
  missing is put on the line of the last token, or on the
  first line.
-/
def closeTokens (tokens : List Token) : List Token :=
  match tokens.getLast? with
  | none => [Token.endOfInput 1]
  | some last =>
      if last.isEnd then tokens
      else tokens ++ [Token.endOfInput last.line]

namespace Cursor

/- The cursor at the first of the tokens. -/
def ofTokens (tokens : List Token) : Cursor :=
  ⟨closeTokens tokens, 0, []⟩

/- The tokens from the position up to the end. -/
def live (c : Cursor) : List Token :=
  (c.tokens.drop c.position).takeWhile fun token =>
    !token.isEnd

/- The end behind the tokens that are left. -/
def ending (c : Cursor) : Ending :=
  let position := c.position + c.live.length
  ⟨c.tokens.getD position (Token.endOfInput 1), position⟩

/- The cursor at the last few of the live tokens. -/
def moveTo
    (c : Cursor)
    (rest : List Token) : Cursor :=
  { c with position := c.ending.position - rest.length }

/- The reports of all errors so far. -/
def diagnostics (c : Cursor) : List Diagnostic :=
  c.errors.map SyntaxError.diagnostic

------------------------------------------------------------
-- Reading an Expression
------------------------------------------------------------

/- What reading an expression at the cursor comes to. -/
def outcome (c : Cursor) : Outcome :=
  readPhrase c.ending .conditional c.live

/-
  Read one expression and leave what is behind it.  The tree
  is given only if there have never been errors.
-/
def parse (c : Cursor) : Option Expr × Cursor :=
  let o := c.outcome
  let errors := c.errors ++ o.errors
  let tree := if errors.isEmpty then o.tree? else none
  (tree, { c.moveTo o.rest with errors })

------------------------------------------------------------
-- Recovery
------------------------------------------------------------

/-
  The tokens from the next point of recovery on, behind a
  token that has been passed: the point right behind a
  semicolon, or right before a keyword that opens a
  statement.
-/
def recover (passed : Token) : List Token → List Token
| [] => []
| token :: more =>
    if passed.kind = .semicolon then
      token :: more
    else if token.kind.startsStatement then
      token :: more
    else
      recover token more

/- Pass one token, and go on to a point of recovery. -/
def synchronize (c : Cursor) : Cursor :=
  match c.live with
  | [] => c
  | token :: more => c.moveTo (recover token more)

------------------------------------------------------------
-- Moves
------------------------------------------------------------

/- The two ways to move a cursor. -/
inductive Move where
| parse
| synchronize
deriving DecidableEq, Repr

/- What a move shows. -/
inductive Reply where
| parsed :
    Option Expr → List Diagnostic → List SyntaxError → Reply
| synchronized : List SyntaxError → Reply

/- The cursor after a move. -/
def move (c : Cursor) : Move → Cursor
| .parse => c.parse.2
| .synchronize => c.synchronize

/-
  What a move shows.  A reading reports all errors so far,
  also those of earlier readings.
-/
def reply (c : Cursor) : Move → Reply
| .parse =>
    let (tree, next) := c.parse
    .parsed tree next.diagnostics next.errors
| .synchronize => .synchronized c.synchronize.errors

/- The cursor after moves in order. -/
def run (c : Cursor) (moves : List Move) : Cursor :=
  moves.foldl move c

/- What moves in order show. -/
def replies (c : Cursor) : List Move → List Reply
| [] => []
| m :: rest => c.reply m :: (c.move m).replies rest

------------------------------------------------------------
-- What Moves Keep
------------------------------------------------------------

/- No live token is an end. -/
theorem isEnd_of_mem_live
    {c : Cursor}
    {token : Token}
    (hToken : token ∈ c.live) :
    token.isEnd = false := by
  simpa using
    List.all_eq_true.mp List.all_takeWhile token hToken

/- Recovery passes tokens and puts none back. -/
theorem length_recover_le
    (passed : Token)
    (tokens : List Token) :
    (recover passed tokens).length ≤ tokens.length := by
  fun_induction recover passed tokens with
  | case1 => exact Nat.le_refl _
  | case2 => exact Nat.le_refl _
  | case3 => exact Nat.le_refl _
  | case4 _ _ _ _ _ ih =>
      exact Nat.le_trans ih (Nat.le_succ _)

/- Recovery leaves the tokens as they are. -/
theorem tokens_synchronize (c : Cursor) :
    c.synchronize.tokens = c.tokens := by
  unfold synchronize
  split <;> rfl

/- A reading adds its errors to the earlier ones. -/
theorem errors_parse (c : Cursor) :
    c.parse.2.errors = c.errors ++ c.outcome.errors := rfl

/- Recovery finds no errors. -/
theorem errors_synchronize (c : Cursor) :
    c.synchronize.errors = c.errors := by
  unfold synchronize
  split <;> rfl

/- Live tokens lie at the position or behind it. -/
theorem position_le_moveTo
    {c : Cursor}
    {rest : List Token}
    (hRest : rest.length ≤ c.live.length) :
    c.position ≤ (c.moveTo rest).position := by
  simp only [moveTo, ending]
  omega

/- Recovery never goes back. -/
theorem position_le_synchronize (c : Cursor) :
    c.position ≤ c.synchronize.position := by
  unfold synchronize
  split
  · exact Nat.le_refl _
  · rename_i token more hLive
    have hLength := length_recover_le token more
    apply position_le_moveTo
    simp only [hLive, List.length_cons]
    omega

/- A move never goes back. -/
theorem position_le_move
    (c : Cursor)
    (m : Move) :
    c.position ≤ (c.move m).position := by
  cases m with
  | parse =>
      exact position_le_moveTo
        (length_rest_readPhrase_le _ _ _)
  | synchronize => exact position_le_synchronize c

end Cursor

end LoxExpr
