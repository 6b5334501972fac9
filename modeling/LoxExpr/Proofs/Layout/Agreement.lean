import LoxExpr.Program
import LoxExpr.Proofs.Layout.OffLine
import LoxExpr.Proofs.Layout.Respacing
import LoxExpr.Proofs.RoundTrip.Rerun

/-
  This file shows that layout does not matter.  A source
  without lexical errors keeps its tokens, its tree, its
  reports and its result when layout is put in around its
  tokens, and only lines change.

  Key definitions include:
    * `Diagnostic.offLine`
    * `Failure.offLine`
    * `Verdict.offLine`

  Main statements:
    * `Program.parse_of_offLine_eq`
    * `Program.run_of_offLine_eq`
    * `layout_does_not_matter`
-/

namespace LoxExpr

------------------------------------------------------------
-- Verdicts off the Lines
------------------------------------------------------------

/- A report on no particular line. -/
def Diagnostic.offLine (d : Diagnostic) : Diagnostic :=
  { d with line := 0 }

/- A failure on no particular line. -/
def Failure.offLine : Failure → Failure
| .internal causes => .internal causes
| .staticErrors count => .staticErrors count
| .runtime error => .runtime error.offLine

/- A verdict off the lines, given how its result is. -/
def Verdict.offLine
    {α : Type}
    (resultOffLine : α → α)
    (v : Verdict α) : Verdict α where
  diagnostics := v.diagnostics.map Diagnostic.offLine
  result :=
    (v.result.map resultOffLine).mapError Failure.offLine

/- Whether there are reports does not depend on lines. -/
theorem Verdict.offLine_ofReports
    {α : Type}
    (resultOffLine : α → α)
    (diagnostics : List Diagnostic)
    (result : Except Failure α) :
    (ofReports diagnostics result).offLine resultOffLine =
      ofReports (diagnostics.map Diagnostic.offLine)
        ((result.map resultOffLine).mapError
          Failure.offLine) := by
  unfold ofReports
  rw [List.isEmpty_map, List.length_map]
  split <;> rfl

/- The report of an error differs only in its line. -/
theorem SyntaxError.diagnostic_offLine (e : SyntaxError) :
    e.offLine.diagnostic = e.diagnostic.offLine := rfl

/- Cursors that differ in lines report what differs so. -/
theorem Cursor.diagnostics_offLine (c : Cursor) :
    c.offLine.diagnostics =
      c.diagnostics.map Diagnostic.offLine := by
  unfold diagnostics
  rw [offLine, List.map_map, List.map_map]
  exact List.map_congr_left
    fun e _ => e.diagnostic_offLine

------------------------------------------------------------
-- Programs off the Lines
------------------------------------------------------------

namespace Program

/- A missing tree is missing on all lines. -/
theorem treeResult_offLine (tree : Option Expr) :
    ((treeResult tree).map Expr.offLine).mapError
        Failure.offLine =
      treeResult (tree.map Expr.offLine) := by
  cases tree <;> rfl

/- Trees that differ in lines show values that do so. -/
theorem valueText_of_offLine_eq
    {tree tree' : Expr}
    (h : tree'.offLine = tree.offLine) :
    (valueText tree').mapError Failure.offLine =
      (valueText tree).mapError Failure.offLine := by
  have hBare : tree'.bare = tree.bare := by
    rw [← tree'.bare_offLine, h, tree.bare_offLine]
  have hSame := Expr.interpret_of_bare_eq hBare
  unfold valueText
  cases hResult : tree.interpret with
  | ok text =>
      rw [hResult] at hSame
      simp only at hSame
      rw [hSame]
  | error err =>
      rw [hResult] at hSame
      rcases hSame with ⟨err', hFails, hOffLine⟩
      rw [hFails]
      exact congrArg (Except.error ∘ Failure.runtime) hOffLine

/- Results that differ in lines go on to what does so. -/
theorem bind_valueText_of_offLine_eq
    {result result' : Except Failure Expr}
    (h :
      (result'.map Expr.offLine).mapError Failure.offLine =
        (result.map Expr.offLine).mapError
          Failure.offLine) :
    (result'.bind valueText).mapError Failure.offLine =
      (result.bind valueText).mapError Failure.offLine := by
  cases result' with
  | error failure' =>
      cases result with
      | error failure =>
          have hFailure := Except.error.inj h
          exact congrArg Except.error hFailure
      | ok tree => exact nomatch h
  | ok tree' =>
      cases result with
      | error failure => exact nomatch h
      | ok tree =>
          have hTree := Except.ok.inj h
          exact valueText_of_offLine_eq hTree

variable {source source' : String}

/- Tokens that differ in lines have trees that do so. -/
theorem parse_of_offLine_eq
    (hDiagnostics :
      (scan source').diagnostics.map Diagnostic.offLine =
        (scan source).diagnostics.map Diagnostic.offLine)
    (hTokens :
      (scan source').tokens.map Token.offLine =
        (scan source).tokens.map Token.offLine) :
    (parse source').offLine Expr.offLine =
      (parse source).offLine Expr.offLine := by
  have hCursor :
      (Cursor.ofTokens (scan source').tokens).offLine =
        (Cursor.ofTokens (scan source).tokens).offLine := by
    simp only [Cursor.ofTokens, Cursor.offLine]
    rw [← map_offLine_closeTokens, hTokens,
      map_offLine_closeTokens]
  have hParse := Cursor.parse_of_offLine_eq hCursor
  have hTree :
      (analyze source').tree.map Expr.offLine =
        (analyze source).tree.map Expr.offLine :=
    hParse.1
  have hReports :
      (analyze source').diagnostics.map
          Diagnostic.offLine =
        (analyze source).diagnostics.map
          Diagnostic.offLine := by
    simp only [analyze, List.map_append, hDiagnostics,
      ← Cursor.diagnostics_offLine, hParse.2]
  rw [parse, parse, Verdict.offLine_ofReports,
    Verdict.offLine_ofReports, treeResult_offLine,
    treeResult_offLine, hTree, hReports]

/- What is shown of a source does not depend on lines. -/
theorem run_of_offLine_eq
    (h :
      (parse source').offLine Expr.offLine =
        (parse source).offLine Expr.offLine) :
    (run source').offLine id =
      (run source).offLine id := by
  have hDiagnostics := congrArg Verdict.diagnostics h
  have hResult := congrArg Verdict.result h
  simp only [Verdict.offLine] at hDiagnostics hResult
  simp only [run, Verdict.offLine, hDiagnostics,
    Except.map_id, id, bind_valueText_of_offLine_eq hResult]

end Program

------------------------------------------------------------
-- Layout Does Not Matter
------------------------------------------------------------

/-
  A source that is scanned without reports may have layout
  put in at its start, and before and behind its tokens.  It
  is scanned without reports again, to the same tokens, and
  it is parsed and run with the same results, reports and
  failures, but for their lines.
-/
theorem layout_does_not_matter
    {source source' : String}
    (hClean : (scan source).diagnostics = [])
    (hRespaced : IsRespaced source source') :
    (scan source').diagnostics = [] ∧
      (scan source').tokens.map Token.offLine =
        (scan source).tokens.map Token.offLine ∧
      (Program.parse source').offLine Expr.offLine =
        (Program.parse source).offLine Expr.offLine ∧
      (Program.run source').offLine id =
        (Program.run source).offLine id := by
  rcases hRespaced.scan hClean with ⟨hClean', hTokens⟩
  have hParse := Program.parse_of_offLine_eq
    (by rw [hClean', hClean]) hTokens
  exact ⟨hClean', hTokens, hParse,
    Program.run_of_offLine_eq hParse⟩

/-
  A feed, a comment between the tokens and a comment at the
  end leave a failure as it is.
-/
theorem layout_minus_nil :
    (scan "-nil").diagnostics = [] ∧
      IsRespaced "-nil" "\n-\t/*x*/nil //\n" ∧
      (Program.run "\n-\t/*x*/nil //\n").offLine id =
        (Program.run "-nil").offLine id := by
  let minus : Segment := .ofLexeme '-' [] .minus
  let operand : Segment := .ofLexeme 'n' ['i', 'l'] .kwNil
  have hCuts : Cuts "-nil".toList [minus, operand] [] :=
    scans_minus_nil.cut [] (by simp [Closes])
  have hClean : (scan "-nil").diagnostics = [] := by
    rw [scan_of_cuts hCuts scans_minus_nil.faultless]
    rfl
  have hNone : IsGap [] := Or.inl rfl
  have hFeed : IsGap ['\n'] :=
    Or.inr ⟨.blank (by decide) .done, '\n', by decide, rfl⟩
  have hBlock :
      IsGap ('\t' :: '/' :: '*' :: (['x'] ++ ['*', '/'])) := by
    have hBody : ¬ HoldsClose (['x'] ++ ['*']) := by
      simp [holdsClose_cons_iff, not_holdsClose_nil]
    exact Or.inr
      ⟨.blank (by decide) (.blockComment hBody .done),
        '\t', by decide, rfl⟩
  have hLine : IsGap (' ' :: '/' :: '/' :: ([] ++ ['\n'])) :=
    Or.inr
      ⟨.blank (by decide) (.lineComment (by simp) .done),
        ' ', by decide, rfl⟩
  have hRespaced :
      IsRespaced "-nil" "\n-\t/*x*/nil //\n" := by
    have hText := Respaces.token (s := minus) rfl hNone
      hBlock (.token (s := operand) rfl hNone hLine .done)
    rw [cuts_iff_segments.mp hCuts] at hText
    exact ⟨['\n'], _, hFeed, hText, rfl⟩
  have hAgree := layout_does_not_matter hClean hRespaced
  exact ⟨hClean, hRespaced, hAgree.2.2.2⟩

end LoxExpr
