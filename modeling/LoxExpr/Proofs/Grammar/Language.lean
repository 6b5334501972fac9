import LoxExpr.Proofs.Grammar.Acceptance
import LoxExpr.Proofs.Grammar.Start

/-
  This file shows which token lists have a tree: those that
  begin with an expression of the grammar and do not go on
  behind it.  There is one such expression at most, and the
  cursor stops right behind it.

  Key definitions include:
    * `IsExpressionOf`

  The main statement is `parse_accepts_iff_derives`.
-/

namespace LoxExpr

------------------------------------------------------------
-- Expressions at the Front
------------------------------------------------------------

/-
  A word is the expression of a token list if it stands
  before the first end, the grammar derives it, and the token
  right behind it does not go on.
-/
structure IsExpressionOf
    (tokens w : List Token) : Prop where
  isPrefix : w <+: tokensBeforeEnd tokens
  derivable : ∃ tree, Derives .expression w tree
  stops :
    ∃ token, (closeTokens tokens)[w.length]? = some token ∧
      ¬ token.kind.GoesOn

/- A conditional goes on where an expression does. -/
theorem goesOn_iff (kind : Kind) :
    kind.GoesOn ↔ Phrase.conditional.GoesOnAt kind := by
  constructor
  · rintro (hQuestion | ⟨level, hOperator⟩)
    · exact Or.inl ⟨rfl, hQuestion⟩
    · exact Or.inr ⟨level,
        (level.mem_operators_iff kind).mp hOperator,
        Nat.le_of_lt level.rank_lt_conditional⟩
  · rintro (⟨_, hQuestion⟩ | ⟨level, hLevel, _⟩)
    · exact Or.inl hQuestion
    · exact Or.inr ⟨level,
        (level.mem_operators_iff kind).mpr hLevel⟩

/- Nothing goes on at the end. -/
theorem not_goesOn_of_isEnd
    {token : Token}
    (hEnd : token.isEnd = true) :
    ¬ token.kind.GoesOn := by
  have hKind : token.kind = .endOfInput := by
    simpa [Token.isEnd] using hEnd
  rw [goesOn_iff, hKind]
  rintro (⟨_, hQuestion⟩ | ⟨level, hLevel, _⟩)
  · exact absurd hQuestion (by decide)
  · exact absurd hLevel (by simp [Kind.level?])

/-
  The token behind a word does not go on if and only if a
  conditional stops at the tokens that the word leaves.
-/
theorem stops_iff_stopsAt
    {tokens w rest : List Token}
    (hSplit : tokensBeforeEnd tokens = w ++ rest) :
    (∃ token,
      (closeTokens tokens)[w.length]? = some token ∧
        ¬ token.kind.GoesOn) ↔
      Phrase.conditional.StopsAt rest := by
  rcases closeTokens_eq_append tokens with
    ⟨closing, behind, hClosing, hTokens⟩
  have hNext :
      (closeTokens tokens)[w.length]? =
        (rest ++ closing :: behind).head? := by
    rw [hTokens, hSplit, List.append_assoc,
      List.getElem?_append_right (Nat.le_refl _),
      Nat.sub_self, List.head?_eq_getElem?]
  rw [hNext]
  cases rest with
  | nil =>
      refine ⟨fun _ => Phrase.stopsAt_nil _, fun _ => ?_⟩
      exact ⟨closing, rfl, not_goesOn_of_isEnd hClosing⟩
  | cons token more =>
      rw [Phrase.stopsAt_cons_iff, ← goesOn_iff]
      simp

------------------------------------------------------------
-- Readings of an Expression
------------------------------------------------------------

/- The expression of a token list is read to its end. -/
theorem IsExpressionOf.firstOutcome_eq
    {tokens w : List Token}
    (hExpression : IsExpressionOf tokens w)
    {tree : Expr}
    (hDerives : Derives .expression w tree) :
    ∃ rest, tokensBeforeEnd tokens = w ++ rest ∧
      Cursor.firstOutcome tokens =
        .done (some tree) rest := by
  rcases hExpression.isPrefix with ⟨rest, hSplit⟩
  refine ⟨rest, hSplit.symm, ?_⟩
  have hStops :=
    (stops_iff_stopsAt hSplit.symm).mp hExpression.stops
  rw [Cursor.firstOutcome, ← hSplit]
  exact readPhrase_of_derives _ hDerives hStops

/- A tree that is read belongs to an expression. -/
theorem isExpressionOf_of_firstOutcome
    {tokens : List Token}
    {tree : Expr}
    (hOk :
      (Cursor.firstOutcome tokens).result =
        .ok (some tree)) :
    ∃ w, IsExpressionOf tokens w := by
  have hStops := stopsAt_readPhrase hOk
  rcases derives_of_readPhrase hOk with
    ⟨w, rest, hSplit, hDone, hDerives⟩
  rw [hDone, Outcome.rest_done] at hStops
  exact ⟨w, ⟨rest, hSplit.symm⟩,
    ⟨tree, .expression hDerives⟩,
    (stops_iff_stopsAt hSplit).mpr hStops⟩

/- Wherever a cursor is, a tree that it gives is derived. -/
theorem Cursor.derives_of_parse
    {c : Cursor}
    {tree : Expr}
    (hTree : c.parse.1 = some tree) :
    ∃ w, w <+: c.live ∧ Derives .conditional w tree := by
  have hOk : c.outcome.result = .ok (some tree) := by
    simp only [parse] at hTree
    split at hTree
    · unfold Outcome.tree? at hTree
      split at hTree
      · simp at hTree
      · rename_i hResult
        rw [hResult, hTree]
    · simp at hTree
  rcases derives_of_readPhrase hOk with
    ⟨w, rest, hSplit, _, hDerives⟩
  exact ⟨w, ⟨rest, hSplit.symm⟩, hDerives⟩

/- Both words are what the same reading has passed. -/
theorem IsExpressionOf.unique
    {tokens w w' : List Token}
    (hExpression : IsExpressionOf tokens w)
    (hExpression' : IsExpressionOf tokens w') :
    w' = w := by
  rcases hExpression.derivable with ⟨tree, hDerives⟩
  rcases hExpression'.derivable with ⟨tree', hDerives'⟩
  rcases hExpression.firstOutcome_eq hDerives with
    ⟨rest, hSplit, hDone⟩
  rcases hExpression'.firstOutcome_eq hDerives' with
    ⟨rest', hSplit', hDone'⟩
  have hRest : rest' = rest := by
    have hSame := congrArg Outcome.rest
      (hDone'.symm.trans hDone)
    simpa using hSame
  rw [hSplit, hRest] at hSplit'
  exact (List.append_cancel_right hSplit').symm

/- The tree of an expression is the one that is read. -/
theorem IsExpressionOf.tree_unique
    {tokens w : List Token}
    (hExpression : IsExpressionOf tokens w)
    {tree tree' : Expr}
    (hDerives : Derives .expression w tree)
    (hDerives' : Derives .expression w tree') :
    tree' = tree := by
  rcases hExpression.firstOutcome_eq hDerives with
    ⟨rest, _, hDone⟩
  rcases hExpression.firstOutcome_eq hDerives' with
    ⟨rest', _, hDone'⟩
  have hSame := congrArg Outcome.result
    (hDone'.symm.trans hDone)
  simpa using hSame

/- A derived word before the end is read as a whole. -/
theorem parse_of_derives
    {w : List Token}
    {tree : Expr}
    (hDerives : Derives .expression w tree)
    (line : Nat) :
    (Cursor.ofTokens
        (w ++ [Token.endOfInput line])).parse =
      (some tree,
        ⟨w ++ [Token.endOfInput line], w.length, []⟩) := by
  have hLive :
      tokensBeforeEnd (w ++ [Token.endOfInput line]) =
        w := by
    apply tokensBeforeEnd_append_cons
    · intro token hMem
      exact hDerives.isEnd_of_mem hMem
    · rfl
  have hClosed :
      closeTokens (w ++ [Token.endOfInput line]) =
        w ++ [Token.endOfInput line] := by
    simp [closeTokens, Token.endOfInput, Token.isEnd]
  have hRead :
      Cursor.firstOutcome (w ++ [Token.endOfInput line]) =
        .done (some tree) [] := by
    rw [Cursor.firstOutcome, hLive, ← List.append_nil w]
    exact readPhrase_of_derives _ hDerives
      (Phrase.stopsAt_nil _)
  rw [Cursor.parse_ofTokens, hRead, hLive, hClosed]
  simp [Outcome.errors, Outcome.tree?]

/-
  A cursor at the first token gives a tree if and only if the
  tokens have an expression.  Then there is one such word
  only, the cursor stops right behind it, nothing is
  reported, and the tree is that of its only derivation, with
  the operators of the word in their order.
-/
theorem parse_accepts_iff_derives (tokens : List Token) :
    ((∃ tree,
        (Cursor.ofTokens tokens).parse.1 = some tree) ↔
      ∃ w, IsExpressionOf tokens w) ∧
    ∀ w, IsExpressionOf tokens w →
      (∀ w', IsExpressionOf tokens w' → w' = w) ∧
      (Cursor.ofTokens tokens).parse.2.position =
        w.length ∧
      (Cursor.ofTokens tokens).parse.2.errors = [] ∧
      (Cursor.ofTokens tokens).parse.2.diagnostics = [] ∧
      ∃ tree,
        (Cursor.ofTokens tokens).parse.1 = some tree ∧
        Derives .expression w tree ∧
        (∀ tree', Derives .expression w tree' →
          tree' = tree) ∧
        tree.operators = w.filter Token.isOperator := by
  have hRead : ∀ w, IsExpressionOf tokens w →
      ∃ tree, Derives .expression w tree ∧
        (Cursor.ofTokens tokens).parse =
          (some tree,
            ⟨closeTokens tokens, w.length, []⟩) := by
    intro w hExpression
    rcases hExpression.derivable with ⟨tree, hDerives⟩
    rcases hExpression.firstOutcome_eq hDerives with
      ⟨rest, hSplit, hDone⟩
    refine ⟨tree, hDerives, ?_⟩
    rw [Cursor.parse_ofTokens, hDone, hSplit]
    simp [Outcome.errors, Outcome.tree?]
  constructor
  · constructor
    · rintro ⟨tree, hTree⟩
      rw [Cursor.parse_ofTokens] at hTree
      have hOk :
          (Cursor.firstOutcome tokens).tree? =
            some tree := by
        split at hTree
        · exact hTree
        · simp at hTree
      unfold Outcome.tree? at hOk
      split at hOk
      · simp at hOk
      · rename_i hResult
        subst hOk
        exact isExpressionOf_of_firstOutcome hResult
    · rintro ⟨w, hExpression⟩
      rcases hRead w hExpression with ⟨tree, _, hParse⟩
      exact ⟨tree, by rw [hParse]⟩
  · intro w hExpression
    rcases hRead w hExpression with
      ⟨tree, hDerives, hParse⟩
    rw [hParse]
    refine ⟨fun w' => hExpression.unique, rfl, rfl, rfl,
      tree, rfl, hDerives, ?_, hDerives.operators_eq⟩
    intro tree' hDerives'
    exact hExpression.tree_unique hDerives hDerives'

end LoxExpr
