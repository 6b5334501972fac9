import LoxExpr.Proofs.Lexical.Lines
import LoxExpr.Value

/-
  This file says in which order tokens and errors are
  scanned: by their lines.  It also says that literals are
  scanned with their values.

  Main statements:
    * `pairwise_line_scan`
    * `pairwise_line_errors`
    * `exists_value_of_mem_scan`
-/

namespace LoxExpr

------------------------------------------------------------
-- Lines in Order
------------------------------------------------------------

/- Segments begin on the line where the first one does. -/
theorem le_line_of_mem_placed
    {line : Nat}
    {cuts : List Segment}
    {p : Placed}
    (hMem : p ∈ placed line cuts) :
    line ≤ p.line := by
  rcases exists_of_mem_placed hMem with ⟨_, _, _, hLine⟩
  omega

/- No segment begins behind the last line. -/
theorem line_le_lineAfter
    {line : Nat}
    {cuts : List Segment}
    {p : Placed}
    (hMem : p ∈ placed line cuts) :
    p.line ≤ lineAfter line cuts := by
  rcases exists_of_mem_placed hMem with
    ⟨front, behind, hSplit, hLine⟩
  rw [lineAfter_eq, hSplit, List.flatMap_append,
    List.count_append, hLine]
  omega

/- A segment begins on the line where an earlier one ends. -/
theorem pairwise_lineFeeds_placed
    (line : Nat)
    (cuts : List Segment) :
    (placed line cuts).Pairwise
      fun p p' =>
        p.line + p.segment.lineFeeds ≤ p'.line := by
  induction cuts generalizing line with
  | nil => exact .nil
  | cons s cuts ih =>
      exact .cons (fun p hMem => le_line_of_mem_placed hMem)
        (ih _)

/- Segments begin line by line. -/
theorem pairwise_line_placed
    (line : Nat)
    (cuts : List Segment) :
    (placed line cuts).Pairwise
      fun p p' => p.line ≤ p'.line :=
  (pairwise_lineFeeds_placed line cuts).imp
    fun hOrder => Nat.le_trans (Nat.le_add_right _ _) hOrder

/- The tokens of a source are in the order of their lines. -/
theorem pairwise_line_scan (source : String) :
    (scan source).tokens.Pairwise
      fun token token' => token.line ≤ token'.line := by
  have hLine : ∀ {p : Placed} {token : Token},
      p.token? = some token → p.line = token.line := by
    intro p token hToken
    exact ((p.token?_eq_some_iff token).mp hToken).2.2
  rw [tokens_scan]
  refine List.pairwise_append.mpr
    ⟨?_, List.pairwise_singleton _ _, ?_⟩
  · have hPlaced :=
      pairwise_line_placed 1 (segments source.toList)
    refine List.Pairwise.filterMap _ ?_ hPlaced
    intro p p' hOrder token hToken token' hToken'
    rw [← hLine hToken, ← hLine hToken']
    exact hOrder
  · intro token hMem closing hClosing
    rcases List.mem_filterMap.mp hMem with
      ⟨p, hPlaced, hToken⟩
    rw [List.mem_singleton.mp hClosing, ← hLine hToken]
    exact line_le_lineAfter hPlaced

/- So are the errors of a source. -/
theorem pairwise_line_errors (source : String) :
    (scan source).errors.Pairwise
      fun e e' => e.line ≤ e'.line := by
  have hPlaced :=
    pairwise_lineFeeds_placed 1 (segments source.toList)
  rw [errors_scan]
  refine List.Pairwise.filterMap _ ?_ hPlaced
  intro p p' hOrder e hError e' hError'
  have hLine := ((p.error?_eq_some_iff e).mp hError).2
  have hLine' := ((p'.error?_eq_some_iff e').mp hError').2
  omega

------------------------------------------------------------
-- Literals with Values
------------------------------------------------------------

/- No word is a number or a string. -/
theorem IsWordKind.not_literal
    {word : String}
    {kind : Kind}
    (hWord : IsWordKind word kind) :
    kind ∉ [Kind.number, .string] := by
  have hKeywords : ∀ entry ∈ keywordLexemes,
      entry.2 ∉ [Kind.number, .string] := by
    decide
  rcases hWord with hKeyword | ⟨rfl, _⟩
  · exact hKeywords _ hKeyword
  · decide

/- Numbers and strings are cut with their literals. -/
theorem Segment.IsNext.exists_value
    {s : Segment}
    {more : List Char}
    (hNext : s.IsNext more)
    {token : Token}
    (hContent :
      s.content = .token token.kind token.literal)
    (hKind : token.kind ∈ [Kind.number, .string]) :
    ∃ value, Value.ofToken? token = some value := by
  rcases token with ⟨kind, lexeme, literal, line⟩
  cases hNext with
  | string _ =>
      cases hContent
      exact ⟨_, rfl⟩
  | numeral _ =>
      cases hContent
      exact ⟨_, rfl⟩
  | word _ hWord =>
      cases hContent
      exact absurd hKind hWord.not_literal
  | operator hEntry _ _ =>
      have hOperators : ∀ entry ∈ operatorLexemes,
          entry.2 ∉ [Kind.number, .string] := by
        decide
      cases hContent
      exact absurd hKind (hOperators _ hEntry)
  | _ => exact nomatch hContent

/- So are they scanned. -/
theorem exists_value_of_mem_scan
    {source : String}
    {token : Token}
    (hMem : token ∈ (scan source).tokens)
    (hKind : token.kind ∈ [Kind.number, .string]) :
    ∃ value, Value.ofToken? token = some value := by
  have hEnd : token.isEnd = false := by
    rw [Token.isEnd, decide_eq_false_iff_not]
    intro hSelf
    rw [hSelf] at hKind
    exact absurd hKind (by decide)
  rcases exists_isCutBehind hMem hEnd with
    ⟨_, ⟨_, s, more, _, _, hNext, hContent, _⟩, _⟩
  exact hNext.exists_value hContent hKind

end LoxExpr
