import LoxExpr.Program
import LoxExpr.Proofs.Grammar.Accounting

/-
  This file says how the stages of a program can end.  A tree
  that is not there has been accounted for by a report, so no
  stage ever fails for reasons outside the language.

  Main statements:
    * `Program.parse_cases`
    * `missing_tree_is_reported`
-/

namespace LoxExpr

/- A verdict keeps the reports that it is made of. -/
theorem Verdict.diagnostics_ofReports
    {α : Type}
    (diagnostics : List Diagnostic)
    (result : Except Failure α) :
    (ofReports diagnostics result).diagnostics =
      diagnostics := by
  unfold ofReports
  split
  · rename_i hNone
    exact (List.isEmpty_iff.mp hNone).symm
  · rfl

namespace Program

/- Everything that is reported of a source. -/
theorem diagnostics_parse (source : String) :
    (parse source).diagnostics =
      (scan source).diagnostics ++
        (Cursor.ofTokens
          (scan source).tokens).parse.2.diagnostics := by
  rw [parse, Verdict.diagnostics_ofReports]
  rfl

/- Without a report there is a tree. -/
theorem isSome_analyze
    {source : String}
    (hNone : (analyze source).diagnostics = []) :
    (analyze source).tree.isSome = true := by
  have hCursor :
      (Cursor.ofTokens
        (scan source).tokens).parse.2.diagnostics = [] :=
    (List.append_eq_nil_iff.mp hNone).2
  have hErrors := List.map_eq_nil_iff.mp hCursor
  have hTree :=
    Cursor.isSome_parse (Cursor.ofTokens (scan source).tokens)
  rw [hErrors] at hTree
  exact hTree

/-
  A source has a tree and no reports, or it has reports and
  fails with their number.
-/
theorem parse_cases (source : String) :
    (∃ tree, parse source = ⟨[], .ok tree⟩) ∨
      ((parse source).diagnostics ≠ [] ∧
        (parse source).result =
          .error (.staticErrors
            (parse source).diagnostics.length)) := by
  rw [parse]
  simp only [Verdict.ofReports]
  split
  · rename_i hEmpty
    have hTree :=
      isSome_analyze (List.isEmpty_iff.mp hEmpty)
    rcases Option.isSome_iff_exists.mp hTree with
      ⟨tree, hSome⟩
    exact Or.inl ⟨tree, by rw [hSome]; rfl⟩
  · rename_i hReports
    refine Or.inr ⟨?_, rfl⟩
    simpa using hReports

/- The tree of a source is the first that its tokens have. -/
theorem tree_of_parse
    {source : String}
    {tree : Expr}
    (hParse : (parse source).result = .ok tree) :
    (Cursor.ofTokens (scan source).tokens).parse.1 =
      some tree := by
  rw [parse] at hParse
  simp only [Verdict.ofReports] at hParse
  split at hParse
  · cases hTree : (analyze source).tree with
    | none =>
        rw [hTree] at hParse
        exact nomatch hParse
    | some tree' =>
        rw [hTree] at hParse
        rw [← Except.ok.inj hParse, ← hTree]
        rfl
  · exact nomatch hParse

/- What is tokenized fails by its reports only. -/
theorem tokenize_cases (source : String) :
    (tokenize source).result = .ok (scan source).tokens ∨
      (tokenize source).result =
        .error (.staticErrors
          (scan source).diagnostics.length) := by
  rw [tokenize]
  simp only [Verdict.ofReports]
  split
  · exact Or.inl rfl
  · exact Or.inr rfl

/-
  A source runs to the text of its tree's value, fails with
  its tree's evaluation, or has reports.
-/
theorem run_cases (source : String) :
    (∃ tree, (parse source).result = .ok tree ∧
      ((∃ text, (run source).result = .ok text) ∨
        ∃ err, tree.eval = .error err ∧
          (run source).result = .error (.runtime err))) ∨
      (run source).result =
        .error (.staticErrors
          (parse source).diagnostics.length) := by
  rcases parse_cases source with
    ⟨tree, hParse⟩ | ⟨_, hParse⟩
  · refine Or.inl ⟨tree, by rw [hParse], ?_⟩
    have hRun : (run source).result = valueText tree := by
      rw [run, hParse]
      rfl
    rw [hRun, valueText, Expr.interpret]
    cases tree.eval with
    | ok value => exact Or.inl ⟨value.text, rfl⟩
    | error err => exact Or.inr ⟨err, rfl, rfl⟩
  · refine Or.inr ?_
    rw [run, hParse]
    rfl

end Program

/-
  Wherever a cursor is, it reads a tree only if the reading
  noted nothing, and nothing only if it noted an operator
  without left operand.  So a source has a tree, or as many
  static errors as reports, one at least; and no stage fails
  for a reason outside the language.
-/
theorem missing_tree_is_reported :
    (∀ c : Cursor,
      (∀ tree, c.outcome.result = .ok (some tree) →
        c.outcome.missing = []) ∧
      (c.outcome.result = .ok none →
        ∃ e ∈ c.outcome.missing,
          e.fault = .missingLeftOperand)) ∧
    ∀ source : String,
      let s := scan source
      let c := (Cursor.ofTokens s.tokens).parse.2
      let reports :=
        s.diagnostics.length + c.diagnostics.length
      ((reports = 0 ∧
          ∃ tree, (Program.parse source).result = .ok tree) ∨
        (1 ≤ reports ∧
          (Program.parse source).result =
            .error (.staticErrors reports))) ∧
      ∀ causes,
        (Program.parse source).result ≠
          .error (.internal causes) ∧
        (Program.tokenize source).result ≠
          .error (.internal causes) ∧
        (Program.run source).result ≠
          .error (.internal causes) := by
  constructor
  · intro c
    have hAccounts : Outcome.Accounts true c.outcome :=
      accounts_readPhrase c.ending .conditional c.live
    constructor
    · intro tree hOk
      simpa using hAccounts.tree (some tree) hOk
    · intro hOk
      have hNoted : c.outcome.missing ≠ [] := by
        simpa using hAccounts.tree none hOk
      rcases List.exists_mem_of_ne_nil _ hNoted with
        ⟨e, hMem⟩
      refine ⟨e, hMem, ?_⟩
      simpa [SyntaxError.isMissing]
        using hAccounts.lacking e hMem
  · intro source s c reports
    have hReports :
        (Program.parse source).diagnostics.length =
          reports := by
      rw [Program.diagnostics_parse, List.length_append]
    constructor
    · rcases Program.parse_cases source with
        ⟨tree, hParse⟩ | ⟨hSome, hParse⟩
      · refine Or.inl ⟨?_, tree, by rw [hParse]⟩
        rw [← hReports, hParse]
        rfl
      · refine Or.inr ⟨?_, by rw [hParse, hReports]⟩
        rw [← hReports]
        exact List.length_pos_iff.mpr hSome
    · intro causes
      refine ⟨?_, ?_, ?_⟩
      · rcases Program.parse_cases source with
          ⟨tree, hParse⟩ | ⟨_, hParse⟩ <;> simp [hParse]
      · rcases Program.tokenize_cases source with
          hTokens | hTokens <;> simp [hTokens]
      · rcases Program.run_cases source with
          ⟨_, _, ⟨_, hRun⟩ | ⟨_, _, hRun⟩⟩ | hRun <;>
            simp [hRun]

end LoxExpr
