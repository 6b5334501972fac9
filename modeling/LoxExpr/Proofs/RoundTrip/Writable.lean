import LoxExpr.Proofs.Grammar.Runs
import LoxExpr.Proofs.Program.RuntimeErrors

/-
  This file shows that every tree of a source can be written:
  its operators are those of the language, with their
  lexemes, its numbers are the values of numerals, and its
  strings have no quotes.

  Main statements:
    * `Derives.writable`
    * `Cursor.writable_of_parse`
-/

namespace LoxExpr

------------------------------------------------------------
-- Tokens of a Source
------------------------------------------------------------

/- Operators are cut without a literal. -/
theorem Segment.IsNext.literal_eq_none
    {s : Segment}
    {more : List Char}
    (hNext : s.IsNext more)
    {kind : Kind}
    {literal : Option Literal}
    (hContent : s.content = .token kind literal)
    (hKind : kind ∈ operatorLexemes.map Prod.snd) :
    literal = none := by
  cases hNext with
  | string _ =>
      cases hContent
      exact absurd hKind (by decide)
  | numeral _ =>
      cases hContent
      exact absurd hKind (by decide)
  | word _ _ =>
      cases hContent
      rfl
  | operator _ _ _ =>
      cases hContent
      rfl
  | _ => exact nomatch hContent

/- A token that has no literal has a value with a name. -/
theorem Value.writable_of_literal_eq_none
    {token : Token}
    {value : Value}
    (hValue : Value.ofToken? token = some value)
    (hNone : token.literal = none) :
    value.Writable := by
  unfold ofToken? at hValue
  rw [hNone] at hValue
  split at hValue <;> cases hValue <;> trivial

namespace Token.IsCutBehind

variable {token : Token}
variable {front source : List Char}

theorem isUsual
    (h : token.IsCutBehind front source)
    (hKind : token.kind ∈ operatorLexemes.map Prod.snd) :
    token.IsUsual where
  lexeme := h.mem_operatorLexemes hKind
  literal := by
    rcases h with ⟨_, _, _, _, _, hNext, hContent, _⟩
    exact hNext.literal_eq_none hContent hKind

/- The value of a token is one that can be written. -/
theorem writable
    (h : token.IsCutBehind front source)
    {value : Value}
    (hValue : Value.ofToken? token = some value) :
    value.Writable := by
  rcases h with ⟨_, s, more, _, _, hNext, hContent, _⟩
  rcases token with ⟨kind, lexeme, literal, line⟩
  cases hNext with
  | @string body rest hBody =>
      cases hContent
      cases hValue
      show '"' ∉ (String.ofList body).toList
      rwa [String.toList_ofList]
  | numeral hLongest =>
      cases hContent
      cases hValue
      exact ⟨_, hLongest.1, rfl⟩
  | word _ _ =>
      cases hContent
      exact Value.writable_of_literal_eq_none hValue rfl
  | operator _ _ _ =>
      cases hContent
      exact Value.writable_of_literal_eq_none hValue rfl
  | _ => exact nomatch hContent

end Token.IsCutBehind

------------------------------------------------------------
-- Trees of a Source
------------------------------------------------------------

/- The operators of the grammar have lexemes. -/
theorem operators_subset :
    (∀ kind ∈ unaryOperators,
      kind ∈ operatorLexemes.map Prod.snd) ∧
    ∀ level : Level, ∀ kind ∈ level.operators,
      kind ∈ operatorLexemes.map Prod.snd := by
  refine ⟨by decide, ?_⟩
  rintro (_ | _ | _ | _) <;> decide

/- The tree of tokens that are cut can be written. -/
theorem Derives.writable
    {start : Nonterminal}
    {w : List Token}
    {tree : Expr}
    (h : Derives start w tree)
    (hCut : ∀ token ∈ w,
      ∃ front source, token.IsCutBehind front source) :
    tree.Writable := by
  induction h with
  | expression _ ih => exact ih hCut
  | condition _ ih => exact ih hCut
  | branches _ _ _ _ _ ih₁ ih₂ ih₃ =>
      simp only [List.forall_mem_append,
        List.forall_mem_cons] at hCut
      rcases hCut with ⟨h₁, _, h₂, _, h₃⟩
      exact ⟨ih₁ h₁, ih₂ h₂, ih₃ h₃⟩
  | operand _ ih => exact ih hCut
  | operator _ hOperator _ ihLeft ihRight =>
      simp only [List.forall_mem_append,
        List.forall_mem_cons] at hCut
      rcases hCut with ⟨hLeft, ⟨_, _, hOwn⟩, hRight⟩
      have hUsual :=
        hOwn.isUsual (operators_subset.2 _ _ hOperator)
      exact ⟨hUsual, ⟨_, hOperator⟩, ihLeft hLeft,
        ihRight hRight⟩
  | unary hOperator _ ih =>
      rw [List.forall_mem_cons] at hCut
      rcases hCut with ⟨⟨_, _, hOwn⟩, hRight⟩
      have hUsual :=
        hOwn.isUsual (operators_subset.1 _ hOperator)
      exact ⟨hUsual, hOperator, ih hRight⟩
  | primary _ ih => exact ih hCut
  | literal hValue =>
      rcases hCut _ List.mem_cons_self with ⟨_, _, hOwn⟩
      exact hOwn.writable hValue
  | grouping _ _ _ ih =>
      rw [List.forall_mem_cons,
        List.forall_mem_append] at hCut
      exact ih hCut.2.1

/- A cursor over the tokens of a source. -/
theorem Cursor.IsOver.live_subset
    {tokens : List Token}
    {c : Cursor}
    (h : c.IsOver tokens) :
    c.live ⊆ tokens := by
  rw [h.live_eq]
  intro token hMem
  exact (List.takeWhile_prefix _).subset
    (List.mem_of_mem_drop hMem)

/-
  Wherever a cursor is among the tokens of a source, a tree
  that it gives can be written.
-/
theorem Cursor.writable_of_parse
    {source : String}
    {c : Cursor}
    (h : c.IsOver (scan source).tokens)
    {tree : Expr}
    (hTree : c.parse.1 = some tree) :
    tree.Writable := by
  rcases derives_of_parse hTree with ⟨w, hPrefix, hDerives⟩
  apply hDerives.writable
  intro token hMem
  have hLive := hPrefix.subset hMem
  rcases exists_isCutBehind (h.live_subset hLive)
      (isEnd_of_mem_live hLive) with ⟨front, hCut, _⟩
  exact ⟨front, source.toList, hCut⟩

end LoxExpr
