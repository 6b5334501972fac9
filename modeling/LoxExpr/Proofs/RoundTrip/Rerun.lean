import LoxExpr.Program
import LoxExpr.Proofs.Grammar.Language
import LoxExpr.Proofs.RoundTrip.Rescan

/-
  This file shows that every tree that can be written runs
  from its text to its own result: evaluation does not see
  groupings, and lines show in failures only.

  Key definitions include:
    * `RuntimeError.offLine`

  Main statements:
    * `Expr.eval_bare`
    * `run_of_renders`
-/

namespace LoxExpr

------------------------------------------------------------
-- Evaluation without Groupings and Lines
------------------------------------------------------------

/- A runtime error on no particular line. -/
def RuntimeError.offLine (e : RuntimeError) : RuntimeError :=
  { e with token := e.token.offLine }

namespace Token

theorem accept_offLine
    (operator : Token)
    (rejection : Rejection)
    (value : Option Value) :
    operator.offLine.accept rejection value =
      (operator.accept rejection value).mapError
        RuntimeError.offLine := by
  cases value with
  | none => cases rejection <;> rfl
  | some value => rfl

/- The line of a unary operator is not used. -/
theorem applyUnary_offLine
    (operator : Token)
    (right : Value) :
    operator.offLine.applyUnary right =
      (operator.applyUnary right).mapError
        RuntimeError.offLine := by
  rcases operator with ⟨kind, lexeme, literal, line⟩
  cases kind with
  | minus => cases right <;> rfl
  | _ => rfl

/- The line of a binary operator is not used. -/
theorem applyBinary_offLine
    (operator : Token)
    (left right : Value) :
    operator.offLine.applyBinary left right =
      (operator.applyBinary left right).mapError
        RuntimeError.offLine := by
  have hAccept := operator.accept_offLine
  unfold applyBinary applyNumeric
  simp only [hAccept]
  rcases operator with ⟨kind, lexeme, literal, line⟩
  cases kind <;> rfl

end Token

namespace Expr

/-
  A tree without groupings and lines has the same value, or
  the same failure off its line.
-/
theorem eval_bare (e : Expr) :
    e.bare.eval = e.eval.mapError RuntimeError.offLine := by
  induction e with
  | literal value => rfl
  | grouping inner ih => exact ih
  | unary operator right ih =>
      rw [bare, eval, eval, ih]
      cases right.eval with
      | error e => rfl
      | ok value => exact operator.applyUnary_offLine value
  | binary left operator right ihLeft ihRight =>
      rw [bare, eval, eval, ihLeft, ihRight]
      cases left.eval with
      | error e => rfl
      | ok leftValue =>
          cases right.eval with
          | error e => rfl
          | ok rightValue =>
              exact operator.applyBinary_offLine leftValue
                rightValue
  | conditional condition thenBranch elseBranch
      ihCondition ihThen ihElse =>
      rw [bare, eval, eval, ihCondition, ihThen, ihElse]
      cases condition.eval with
      | error e => rfl
      | ok value =>
          -- The value of the condition is the same, so is
          -- the branch that it selects.
          change (if value.isTruthy = true then _ else _) =
            (if value.isTruthy = true then _
              else _ : Except _ _).mapError _
          split <;> rfl

/-
  Trees that differ in groupings and lines show the same
  text, or fail at operators that differ in their lines.
-/
theorem interpret_of_bare_eq
    {e e' : Expr}
    (hBare : e'.bare = e.bare) :
    match e.interpret with
    | .ok text => e'.interpret = .ok text
    | .error err =>
        ∃ err', e'.interpret = .error err' ∧
          err'.offLine = err.offLine := by
  have hEval := congrArg eval hBare
  rw [eval_bare, eval_bare] at hEval
  unfold interpret
  cases hSelf : e.eval with
  | ok value =>
      cases hOther : e'.eval with
      | ok value' =>
          rw [hSelf, hOther] at hEval
          have hSame : value' = value := Except.ok.inj hEval
          rw [hSame]
          rfl
      | error err' =>
          rw [hSelf, hOther] at hEval
          exact nomatch hEval
  | error err =>
      cases hOther : e'.eval with
      | ok value' =>
          rw [hSelf, hOther] at hEval
          exact nomatch hEval
      | error err' =>
          rw [hSelf, hOther] at hEval
          exact ⟨err', rfl, Except.error.inj hEval⟩

end Expr

------------------------------------------------------------
-- From the Text to the Result
------------------------------------------------------------

/- The text of a tree is parsed, without any report. -/
theorem Expr.Renders.exists_parse
    {e : Expr}
    {source : String}
    (hRenders : e.Renders source.toList) :
    ∃ tree, Program.parse source = ⟨[], .ok tree⟩ ∧
      tree.bare = e.bare := by
  rcases hRenders.reads with ⟨cuts, hScans, hReads⟩
  have hCuts : Cuts source.toList cuts [] := by
    have hCut := hScans.cut [] (by simp [Closes])
    rwa [List.append_nil] at hCut
  have hScan := scan_of_cuts hCuts hScans.faultless
  rcases hReads 1 with ⟨tree, hDerives, hBare⟩
  have hParse :=
    parse_of_derives hDerives (lineAfter 1 cuts)
  refine ⟨tree, ?_, hBare⟩
  simp [Program.parse, analyze, hScan, hParse,
    Scan.diagnostics, Cursor.diagnostics, Program.treeResult,
    Verdict.ofReports]

/-
  A tree that can be written has a text.  Every text of it is
  parsed to the tree, but for groupings and lines, and runs
  to the text of its value, or to the failure of an operator
  with the same message and the same lexeme.
-/
theorem run_of_renders
    (e : Expr)
    (hWritable : e.Writable) :
    (∃ source : String, e.Renders source.toList) ∧
      ∀ source : String, e.Renders source.toList →
        (∃ tree, Program.parse source = ⟨[], .ok tree⟩ ∧
          tree.bare = e.bare) ∧
        (Program.run source).diagnostics = [] ∧
        match e.interpret with
        | .ok text =>
            (Program.run source).result = .ok text
        | .error err =>
            ∃ err',
              (Program.run source).result =
                  .error (.runtime err') ∧
                err'.message = err.message ∧
                err'.token.lexeme = err.token.lexeme := by
  constructor
  · rcases Expr.exists_renders hWritable with ⟨text, hText⟩
    exact ⟨String.ofList text, by
      rwa [String.toList_ofList]⟩
  · intro source hRenders
    rcases hRenders.exists_parse with ⟨tree, hParse, hBare⟩
    have hRun :
        Program.run source =
          ⟨[], Program.valueText tree⟩ := by
      rw [Program.run, hParse]
      rfl
    have hInterpret := Expr.interpret_of_bare_eq hBare
    refine ⟨⟨tree, hParse, hBare⟩, by rw [hRun], ?_⟩
    rw [hRun, Program.valueText]
    cases hSelf : e.interpret with
    | ok text =>
        rw [hSelf] at hInterpret
        rw [hInterpret]
        rfl
    | error err =>
        rw [hSelf] at hInterpret
        rcases hInterpret with ⟨err', hTree, hSame⟩
        have hMessage :
            err'.offLine.message = err.offLine.message := by
          rw [hSame]
        have hLexeme :
            err'.offLine.token.lexeme =
              err.offLine.token.lexeme := by
          rw [hSame]
        rw [hTree]
        exact ⟨err', rfl, hMessage, hLexeme⟩

/- The text of `nil + true` runs to the failure of `+`. -/
theorem exists_run_plus :
    let plus : Token := ⟨.plus, "+", none, 7⟩
    let e : Expr :=
      .binary (.literal .nil) plus (.literal (.bool true))
    e.Writable ∧
      ∃ source : String, e.Renders source.toList ∧
        ∃ err,
          (Program.run source).result =
              .error (.runtime err) ∧
            err.message =
              "Operands must be two numbers or two strings." ∧
            err.token.lexeme = "+" := by
  intro plus e
  have hWritable : e.Writable := by
    refine ⟨⟨by decide, rfl⟩, ⟨.term, by decide⟩, ?_⟩
    exact ⟨trivial, trivial⟩
  rcases run_of_renders e hWritable with
    ⟨⟨source, hRenders⟩, hRun⟩
  exact ⟨hWritable, source, hRenders,
    (hRun source hRenders).2.2⟩

end LoxExpr
