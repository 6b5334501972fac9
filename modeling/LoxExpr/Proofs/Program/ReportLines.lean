import LoxExpr.Proofs.Grammar.Suffixes
import LoxExpr.Proofs.Program.RuntimeErrors

/-
  This file says that whatever a source is blamed for is on
  one of its lines: its tokens, the reports of both stages,
  and the runtime error.

  Key definitions include:
    * `IsLineOf`

  Main statements:
    * `Program.isLineOf_diagnostic`
    * `Program.isLineOf_runtimeError`
-/

namespace LoxExpr

------------------------------------------------------------
-- Lines of a Source
------------------------------------------------------------

/- The source has such a line. -/
def IsLineOf (source : String) (line : Nat) : Prop :=
  1 ≤ line ∧ line ≤ 1 + source.toList.count '\n'

/- Without line feeds there is only the first line. -/
theorem IsLineOf.eq_one
    {source : String}
    {line : Nat}
    (h : IsLineOf source line)
    (hFeeds : '\n' ∉ source.toList) :
    line = 1 := by
  have hCount := List.count_eq_zero.mpr hFeeds
  unfold IsLineOf at h
  omega

/- Segments begin and end on lines of the source. -/
theorem isLineOf_placed
    {source : String}
    {p : Placed}
    (hMem : p ∈ placed 1 (segments source.toList)) :
    IsLineOf source p.line ∧
      IsLineOf source (p.line + p.segment.lineFeeds) := by
  rcases exists_of_mem_placed hMem with
    ⟨front, behind, hSplit, hLine⟩
  have hSource := flatMap_text_segments source.toList
  have hCount :
      source.toList.count '\n' =
        (front.flatMap Segment.text).count '\n' +
          (p.segment.lineFeeds +
            (behind.flatMap Segment.text).count '\n') := by
    rw [← hSource, hSplit, List.flatMap_append,
      List.flatMap_cons, List.count_append,
      List.count_append]
    rfl
  unfold IsLineOf
  omega

/- Tokens are on lines of the source. -/
theorem isLineOf_token
    {source : String}
    {token : Token}
    (hMem : token ∈ (scan source).tokens) :
    IsLineOf source token.line := by
  rw [tokens_scan] at hMem
  rcases List.mem_append.mp hMem with hToken | hClosing
  · rcases List.mem_filterMap.mp hToken with
      ⟨p, hPlaced, hSome⟩
    rcases (p.token?_eq_some_iff token).mp hSome with
      ⟨_, _, hLine⟩
    rw [← hLine]
    exact (isLineOf_placed hPlaced).1
  · rw [List.mem_singleton.mp hClosing]
    have hLast := lineAfter_eq 1 (segments source.toList)
    rw [flatMap_text_segments] at hLast
    change IsLineOf source (lineAfter 1 _)
    rw [hLast]
    exact ⟨Nat.le_add_right _ _, Nat.le_refl _⟩

/- Lexical errors are on lines of the source. -/
theorem isLineOf_lexicalError
    {source : String}
    {e : LexicalError}
    (hMem : e ∈ (scan source).errors) :
    IsLineOf source e.line := by
  rw [errors_scan] at hMem
  rcases List.mem_filterMap.mp hMem with
    ⟨p, hPlaced, hSome⟩
  rw [← ((p.error?_eq_some_iff e).mp hSome).2]
  exact (isLineOf_placed hPlaced).2

------------------------------------------------------------
-- Lines of Verdicts
------------------------------------------------------------

/- The tokens of a source are closed. -/
theorem closeTokens_scan (source : String) :
    closeTokens (scan source).tokens =
      (scan source).tokens := by
  rw [tokens_scan]
  simp [closeTokens, Token.endOfInput, Token.isEnd]

namespace Program

/- Every report is on a line of the source. -/
theorem isLineOf_diagnostic
    {source : String}
    {d : Diagnostic}
    (hMem : d ∈ (run source).diagnostics) :
    IsLineOf source d.line := by
  have hParse : d ∈ (parse source).diagnostics := hMem
  rw [diagnostics_parse] at hParse
  rcases List.mem_append.mp hParse with hScan | hRead
  · rcases List.mem_map.mp hScan with ⟨e, hError, rfl⟩
    exact isLineOf_lexicalError hError
  · rcases List.mem_map.mp hRead with ⟨e, hError, rfl⟩
    have hToken := Cursor.token_mem_of_mem_errors hError
    rw [closeTokens_scan] at hToken
    exact isLineOf_token hToken

/- The operator that is blamed is on a line of the source. -/
theorem isLineOf_runtimeError
    {source : String}
    {err : RuntimeError}
    (hRun : (run source).result = .error (.runtime err)) :
    IsLineOf source err.token.line :=
  isLineOf_token
    (mem_tokens_of_mem_live (mem_live_of_run_error hRun).2)

end Program

end LoxExpr
