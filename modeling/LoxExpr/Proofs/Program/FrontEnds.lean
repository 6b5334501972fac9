import LoxExpr.Command
import LoxExpr.Proofs.Lexical.Listing
import LoxExpr.Proofs.Program.Verdicts
import Mathlib

/-
  This file compares the ways to take a source through the
  stages: what they report, how they fail, what a program
  that ends with them prints, and whether anything is
  evaluated.

  Key definitions include:
    * `Verdict.IsSettled`
    * `Program.runWith`
    * `FileAction.Fails`

  Main statements:
    * `Verdict.IsSettled.effect`
    * `front_ends_agree`
-/

namespace LoxExpr

------------------------------------------------------------
-- Settled Verdicts
------------------------------------------------------------

/-
  The ways in which a verdict on a source can be settled: by
  a result and no reports, by reports, or by a failure of the
  evaluation and no reports.
-/
inductive Verdict.IsSettled {α : Type} : Verdict α → Prop
| done (value : α) : IsSettled ⟨[], .ok value⟩
| static {diagnostics : List Diagnostic} :
    diagnostics ≠ [] →
    IsSettled
      ⟨diagnostics,
        .error (.staticErrors diagnostics.length)⟩
| runtime (err : RuntimeError) :
    IsSettled ⟨[], .error (.runtime err)⟩

/- A static failure counts the reports, one at least. -/
theorem Verdict.IsSettled.of_static
    {α : Type}
    {v : Verdict α}
    {n : Nat}
    (h : v.IsSettled)
    (hResult : v.result = .error (.staticErrors n)) :
    v.diagnostics ≠ [] ∧
      v.result =
        .error (.staticErrors v.diagnostics.length) := by
  cases h with
  | done value => exact nomatch hResult
  | static hReports => exact ⟨hReports, rfl⟩
  | runtime err => exact nomatch hResult

namespace Program

theorem isSettled_tokenize (source : String) :
    (tokenize source).IsSettled := by
  unfold tokenize
  simp only [Verdict.ofReports]
  split
  · exact .done _
  · rename_i hReports
    exact .static (by simpa using hReports)

theorem isSettled_parse (source : String) :
    (parse source).IsSettled := by
  rcases parse_cases source with
    ⟨tree, hParse⟩ | ⟨hReports, hResult⟩
  · rw [hParse]
    exact .done tree
  · rcases hVerdict : parse source with ⟨reports, result⟩
    rw [hVerdict] at hReports hResult
    dsimp only at hReports hResult
    rw [hResult]
    exact .static hReports

/- A tree runs to what its interpretation gives. -/
theorem run_of_parse
    {source : String}
    {tree : Expr}
    (hParse : parse source = ⟨[], .ok tree⟩) :
    run source = ⟨[], tree.interpret.mapError .runtime⟩ := by
  rw [run, hParse]
  rfl

theorem result_run_of_parse
    {source : String}
    {tree : Expr}
    (hParse : (parse source).result = .ok tree) :
    (run source).result =
      tree.interpret.mapError .runtime := by
  rcases parse_cases source with
    ⟨tree', hTree⟩ | ⟨_, hStatic⟩
  · rw [hTree] at hParse
    rw [run_of_parse hTree, ← Except.ok.inj hParse]
  · rw [hStatic] at hParse
    exact nomatch hParse

/- What is not parsed fails to run in the same way. -/
theorem run_of_error
    {source : String}
    {failure : Failure}
    (hParse : (parse source).result = .error failure) :
    run source =
      ⟨(parse source).diagnostics, .error failure⟩ := by
  rw [run, hParse]
  rfl

theorem isSettled_run (source : String) :
    (run source).IsSettled := by
  rcases parse_cases source with
    ⟨tree, hParse⟩ | ⟨hReports, hResult⟩
  · rw [run_of_parse hParse]
    cases tree.interpret with
    | ok text => exact .done text
    | error err => exact .runtime err
  · rw [run_of_error hResult]
    exact .static hReports

/- A source that has a tree is one that is evaluated. -/
theorem exists_parse_iff (source : String) :
    (∃ tree, (parse source).result = .ok tree) ↔
      (∃ text, (run source).result = .ok text) ∨
        ∃ err, (run source).result =
          .error (.runtime err) := by
  rcases parse_cases source with
    ⟨tree, hParse⟩ | ⟨_, hResult⟩
  · rw [run_of_parse hParse, hParse]
    refine iff_of_true ⟨tree, rfl⟩ ?_
    cases tree.interpret with
    | ok text => exact Or.inl ⟨text, rfl⟩
    | error err => exact Or.inr ⟨err, rfl⟩
  · rw [run_of_error hResult, hResult]
    simp

/- The reports on the tokens are the first of all. -/
theorem diagnostics_tokenize_prefix (source : String) :
    (tokenize source).diagnostics <+:
      (parse source).diagnostics := by
  rw [tokenize, Verdict.diagnostics_ofReports,
    diagnostics_parse]
  exact List.prefix_append _ _

/- They are told in the same words. -/
theorem map_text_tokenize (source : String) :
    (tokenize source).diagnostics.map Diagnostic.text =
      ((parse source).diagnostics.map Diagnostic.text).take
        (tokenize source).diagnostics.length := by
  have hPrefix := diagnostics_tokenize_prefix source
  rw [← List.map_take,
    ← List.prefix_iff_eq_take.mp hPrefix]

/- What has reports on its tokens has reports on its tree. -/
theorem reports_parse_of_tokenize
    {source : String}
    (hReports : (tokenize source).diagnostics ≠ []) :
    (parse source).diagnostics ≠ [] := by
  intro hNone
  have hPrefix := diagnostics_tokenize_prefix source
  rw [hNone, List.prefix_nil] at hPrefix
  exact hReports hPrefix

/- What cannot be tokenized fails by its reports only. -/
theorem static_of_tokenize
    {source : String}
    {failure : Failure}
    (hTokens : (tokenize source).result = .error failure) :
    (tokenize source).diagnostics ≠ [] ∧
      (tokenize source).result =
        .error (.staticErrors
          (tokenize source).diagnostics.length) := by
  rcases tokenize_cases source with hOk | hStatic
  · rw [hOk] at hTokens
    exact nomatch hTokens
  · exact (isSettled_tokenize source).of_static hStatic

/- What cannot be parsed fails by its reports only. -/
theorem exists_static_of_parse
    {source : String}
    {failure : Failure}
    (hParse : (parse source).result = .error failure) :
    ∃ n, failure = .staticErrors n := by
  rcases parse_cases source with
    ⟨tree, hTree⟩ | ⟨_, hStatic⟩
  · rw [hTree] at hParse
    exact nomatch hParse
  · exact ⟨_, Except.error.inj (hParse.symm.trans hStatic)⟩

/- What has reports cannot be parsed. -/
theorem result_parse_of_reports
    {source : String}
    (hReports : (parse source).diagnostics ≠ []) :
    (parse source).result =
      .error (.staticErrors
        (parse source).diagnostics.length) := by
  rcases parse_cases source with
    ⟨tree, hParse⟩ | ⟨_, hResult⟩
  · rw [hParse] at hReports
    exact absurd rfl hReports
  · exact hResult

------------------------------------------------------------
-- Runs with Any Evaluation
------------------------------------------------------------

/-
  A run whose evaluation is a call that may have effects of
  its own.
-/
def runWith
    {m : Type → Type}
    [Monad m]
    (interpret : Expr → m (Except RuntimeError String))
    (source : String) : m (Verdict String) :=
  let v := parse source
  match v.result with
  | .ok tree => do
      let text ← interpret tree
      return ⟨v.diagnostics, text.mapError .runtime⟩
  | .error failure => return ⟨v.diagnostics, .error failure⟩

/- A run is a run whose evaluation has no effects. -/
theorem run_eq_runWith (source : String) :
    run source =
      Id.run (runWith
        (fun tree => pure tree.interpret) source) := by
  simp only [run, runWith]
  cases (parse source).result with
  | ok tree => rfl
  | error failure => rfl

/- With reports, no call is made. -/
theorem runWith_of_reports
    {source : String}
    (hReports : (parse source).diagnostics ≠ [])
    {m : Type → Type}
    [Monad m]
    (interpret : Expr → m (Except RuntimeError String)) :
    runWith interpret source = pure (run source) := by
  have hResult := result_parse_of_reports hReports
  rw [run_of_error hResult, runWith, hResult]

end Program

------------------------------------------------------------
-- Printed Ends
------------------------------------------------------------

namespace Verdict.IsSettled

variable {α : Type}
variable {v : Verdict α}

/-
  A settled verdict ends a program with one of three exit
  codes, and the code tells which output is empty.
-/
theorem effect
    (h : v.IsSettled)
    (lines : α → List String) :
    let e := v.effect lines
    (e.exitCode = 65 ↔
      ∃ n, v.result = .error (.staticErrors n)) ∧
    (e.exitCode = 70 ↔
      ∃ err, v.result = .error (.runtime err)) ∧
    (e.exitCode = 0 ∨ e.exitCode = 65 ∨ e.exitCode = 70) ∧
    (e.exitCode ≠ 0 → e.screen.out = "") ∧
    (e.exitCode = 0 → e.screen.err = "") := by
  intro e
  cases h with
  | done value =>
      have hCode : e.exitCode = 0 := rfl
      have hErr : e.screen.err = "" := String.append_empty
      simp [hCode, hErr]
  | @static reports hReports =>
      have hCode : e.exitCode = 65 := rfl
      have hOut : e.screen.out = "" := String.append_empty
      simp [hCode, hOut]
  | runtime err =>
      have hCode : e.exitCode = 70 := rfl
      have hOut : e.screen.out = "" := String.append_empty
      simp [hCode, hOut]

end Verdict.IsSettled

/- The reports are all that is printed of a static failure. -/
theorem Verdict.err_effect_static
    {α : Type}
    {v : Verdict α}
    {n : Nat}
    (hResult : v.result = .error (.staticErrors n))
    (lines : α → List String) :
    (v.effect lines).screen.err =
      unlines (v.diagnostics.map Diagnostic.text) := by
  rw [Verdict.effect, Verdict.screen, hResult]
  exact String.append_empty

------------------------------------------------------------
-- Actions on Files
------------------------------------------------------------

namespace FileAction

/- How an action on a source fails, if it does. -/
def Fails
    (action : FileAction)
    (source : String)
    (failure : Failure) : Prop :=
  match action with
  | .value => (Program.run source).result = .error failure
  | .tokens =>
      (Program.tokenize source).result = .error failure
  | .tree => (Program.parse source).result = .error failure

/-
  An action that is read from the arguments is performed on
  its file, if that can be read.
-/
theorem executeWith_eq
    {action : FileAction}
    {reading : List String → Except UsageError Command}
    {arguments : List String}
    {path : String}
    (hCommand :
      reading arguments = .ok (.onFile action path))
    {directory : Directory}
    {source : String}
    (hRead : directory.read path = .ok source)
    (input : List UInt8) :
    Command.executeWith reading arguments directory input =
      action.perform source := by
  rw [Command.executeWith, hCommand]
  simp only [Command.perform, hRead, performOn]

/-
  An action on a source ends with one of three exit codes.
  Only the action that evaluates can fail while it runs.
-/
theorem effect_perform
    (action : FileAction)
    (source : String) :
    let e := action.perform source
    (e.exitCode = 65 ↔
      ∃ n, action.Fails source (.staticErrors n)) ∧
    (e.exitCode = 70 ↔
      action = .value ∧
        ∃ err, action.Fails source (.runtime err)) ∧
    (e.exitCode = 0 ∨ e.exitCode = 65 ∨ e.exitCode = 70) ∧
    (e.exitCode ≠ 0 → e.screen.out = "") ∧
    (e.exitCode = 0 → e.screen.err = "") := by
  cases action with
  | value =>
      simpa only [perform, Fails, true_and] using
        (Program.isSettled_run source).effect
          fun value => [value]
  | tokens =>
      have hEffect :=
        (Program.isSettled_tokenize source).effect
          (List.map Token.text)
      have hNever : ∀ err,
          (Program.tokenize source).result ≠
            .error (.runtime err) := by
        intro err hTokens
        have hStatic :=
          (Program.static_of_tokenize hTokens).2
        rw [hTokens] at hStatic
        cases hStatic
      simpa [perform, Fails, hNever] using hEffect
  | tree =>
      have hEffect :=
        (Program.isSettled_parse source).effect
          fun tree => [tree.text]
      have hNever : ∀ err,
          (Program.parse source).result ≠
            .error (.runtime err) := by
        intro err hParse
        rcases Program.exists_static_of_parse hParse with
          ⟨n, hFailure⟩
        cases hFailure
      simpa [perform, Fails, hNever] using hEffect

end FileAction

------------------------------------------------------------
-- Agreement
------------------------------------------------------------

/-
  The ways to take a source through the stages agree.  What
  cannot be tokenized can neither be parsed nor run; all that
  is reported then of its tokens is reported first of its
  tree, and a program for the tree and one for the value
  print the same.  A source has a tree if and only if it runs
  to a text or fails while it runs, and both come from the
  interpretation of that tree.  A program that acts on a file
  with the source, however its arguments are read, has exit
  code 65 for static errors, 70 for a failed evaluation, and
  otherwise 0, and prints on one output only.  With reports,
  there is no call to evaluate anything, whatever such a call
  would do.
-/
theorem front_ends_agree (source : String) :
    let reports :=
      (Program.parse source).diagnostics.map Diagnostic.text
    (∀ failure,
      (Program.tokenize source).result = .error failure →
        ∃ k m, 1 ≤ k ∧ k ≤ m ∧
          failure = .staticErrors k ∧
          (Program.parse source).result =
            .error (.staticErrors m) ∧
          (Program.run source).result =
            .error (.staticErrors m) ∧
          reports.length = m ∧
          (FileAction.tokens.perform source).screen.err =
            unlines (reports.take k)) ∧
    (∀ failure,
      (Program.parse source).result = .error failure →
        (Program.run source).result = .error failure ∧
        (FileAction.tree.perform source).screen.err =
          unlines reports ∧
        (FileAction.value.perform source).screen.err =
          unlines reports) ∧
    ((∃ tree, (Program.parse source).result = .ok tree) ↔
      (∃ text, (Program.run source).result = .ok text) ∨
        ∃ err, (Program.run source).result =
          .error (.runtime err)) ∧
    (∀ tree, (Program.parse source).result = .ok tree →
      (Program.run source).result =
        tree.interpret.mapError .runtime) ∧
    (∀ action : FileAction,
      let e := action.perform source
      (∀ (reading :
            List String → Except UsageError Command)
          arguments path directory input,
        reading arguments = .ok (.onFile action path) →
        Directory.read directory path = .ok source →
          Command.executeWith reading arguments directory
            input = e) ∧
      (e.exitCode = 65 ↔
        ∃ n, action.Fails source (.staticErrors n)) ∧
      (e.exitCode = 70 ↔
        action = .value ∧
          ∃ err, action.Fails source (.runtime err)) ∧
      (e.exitCode = 0 ∨ e.exitCode = 65 ∨
        e.exitCode = 70) ∧
      (e.exitCode ≠ 0 → e.screen.out = "") ∧
      (e.exitCode = 0 → e.screen.err = "")) ∧
    Program.run source =
      Id.run (Program.runWith
        (fun tree => pure tree.interpret) source) ∧
    ((Program.parse source).diagnostics ≠ [] →
      ∀ (m : Type → Type) [Monad m]
        (interpret : Expr → m (Except RuntimeError String)),
        Program.runWith interpret source =
          pure (Program.run source)) := by
  intro reports
  refine ⟨?_, ?_, Program.exists_parse_iff source,
    fun tree => Program.result_run_of_parse, ?_,
    Program.run_eq_runWith source, ?_⟩
  · intro failure hTokens
    rcases Program.static_of_tokenize hTokens with
      ⟨hSome, hStatic⟩
    have hPrefix :=
      Program.diagnostics_tokenize_prefix source
    have hParse := Program.result_parse_of_reports
      (Program.reports_parse_of_tokenize hSome)
    refine ⟨_, _, List.length_pos_iff.mpr hSome,
      hPrefix.length_le,
      Except.error.inj (hTokens.symm.trans hStatic), hParse,
      ?_, List.length_map _, ?_⟩
    · rw [Program.run_of_error hParse]
    · rw [← Program.map_text_tokenize]
      exact Verdict.err_effect_static hStatic _
  · intro failure hParse
    have hRun := Program.run_of_error hParse
    rcases Program.exists_static_of_parse hParse with
      ⟨n, rfl⟩
    have hResult :
        (Program.run source).result =
          .error (.staticErrors n) := by
      rw [hRun]
    exact ⟨hResult, Verdict.err_effect_static hParse _,
      Verdict.err_effect_static hResult _⟩
  · intro action e
    refine ⟨?_, action.effect_perform source⟩
    intro reading arguments path directory input hCommand
      hRead
    exact FileAction.executeWith_eq hCommand hRead input
  · intro hReports m _ interpret
    exact Program.runWith_of_reports hReports interpret

/-
  A faulty character before a literal: there is a tree, but
  nothing is evaluated, and the program fails.  A file with
  this source makes it fail in the same way.
-/
theorem front_ends_agree_at_nil :
    let source := "@nil"
    let e := FileAction.value.perform source
    let directory : Directory :=
      ⟨[("x", [64, 110, 105, 108])]⟩
    (Program.tokenize source).result =
      .error (.staticErrors 1) ∧
    (∃ m, 1 ≤ m ∧
      (Program.run source).result =
        .error (.staticErrors m)) ∧
    e.exitCode = 65 ∧ e.screen.out = "" ∧
    Command.ofArguments ["file", "x"] =
      .ok (.onFile .value "x") ∧
    directory.read "x" = .ok source ∧
    Command.executeWith Command.ofArguments ["file", "x"]
      directory [] = e := by
  intro source e directory
  have hCuts : Cuts "@nil".toList
      [⟨'@', [], .fault (.unexpectedCharacter '@')⟩,
       ⟨'n', "il".toList, .token .kwNil none⟩] [] :=
    .next (Segment.isNext_first '@' ['n', 'i', 'l'])
      (.next (Segment.isNext_first 'n' ['i', 'l']) .done)
  have hTokens :
      (Program.tokenize source).result =
        .error (.staticErrors 1) := by
    rw [Program.tokenize, scan_eq_of_cuts hCuts]
    rfl
  have hCommand : Command.ofArguments ["file", "x"] =
      .ok (.onFile .value "x") := by
    cbv
  have hRead : directory.read "x" = .ok source := by
    cbv
  rcases front_ends_agree source with
    ⟨hAgree, _, _, _, hEffect, _⟩
  rcases hAgree _ hTokens with
    ⟨k, m, hFirst, hMore, _, _, hRun, _⟩
  rcases hEffect .value with
    ⟨hExecute, hStatic, _, _, hOut, _⟩
  have hCode : e.exitCode = 65 := hStatic.mpr ⟨m, hRun⟩
  refine ⟨hTokens, ⟨m, Nat.le_trans hFirst hMore, hRun⟩,
    hCode, hOut ?_, hCommand, hRead,
    hExecute _ _ _ _ _ hCommand hRead⟩
  rw [hCode]
  decide

end LoxExpr
