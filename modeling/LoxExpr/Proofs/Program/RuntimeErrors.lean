import LoxExpr.Proofs.Evaluation.Rejections
import LoxExpr.Proofs.Grammar.Language
import LoxExpr.Proofs.Lexical.Lines
import LoxExpr.Proofs.Program.Verdicts
import LoxExpr.Proofs.RoundTrip.Rescan

/-
  This file says what the runtime error of a source tells:
  the operator that rejected its operands is a token of the
  source, with the lexeme of its kind, on the line where it
  stands, and the message is that of its kind.

  The main statement is `runtime_error_is_precise`.
-/

namespace LoxExpr

------------------------------------------------------------
-- Operators of Trees and Tokens
------------------------------------------------------------

/- The operators of a tree that is given are live tokens. -/
theorem Cursor.operators_subset_live
    {c : Cursor}
    {tree : Expr}
    (hTree : c.parse.1 = some tree) :
    tree.operators ⊆ c.live := by
  rcases derives_of_parse hTree with ⟨w, hPrefix, hDerives⟩
  rw [hDerives.operators_eq]
  intro operator hMem
  exact hPrefix.subset (List.mem_filter.mp hMem).1

/- In a tree that is given, operators fit. -/
theorem Cursor.operatorsFit_of_parse
    {c : Cursor}
    {tree : Expr}
    (hTree : c.parse.1 = some tree) :
    tree.OperatorsFit := by
  rcases derives_of_parse hTree with ⟨_, _, hDerives⟩
  exact hDerives.operatorsFit

/- Operators that do not take all values have lexemes. -/
theorem mem_checkedOperators
    {lexeme : String}
    {kind : Kind}
    (hKind : kind ∈ checkedKinds)
    (hEntry : (lexeme.toList, kind) ∈ operatorLexemes) :
    (lexeme, kind) ∈ checkedOperators := by
  have hAll : ∀ entry ∈ operatorLexemes,
      entry.2 ∈ checkedKinds →
        (String.ofList entry.1, entry.2) ∈
          checkedOperators := by
    decide
  have hChecked := hAll _ hEntry hKind
  rwa [String.ofList_toList] at hChecked

/- The kinds of such operators are kinds of operators. -/
theorem checkedKinds_subset :
    checkedKinds ⊆ operatorLexemes.map Prod.snd := by
  decide

------------------------------------------------------------
-- Runtime Errors of Sources
------------------------------------------------------------

/- A source that fails has a tree that fails. -/
theorem Program.exists_of_run_error
    {source : String}
    {err : RuntimeError}
    (hRun : (run source).result = .error (.runtime err)) :
    ∃ tree,
      (Cursor.ofTokens (scan source).tokens).parse.1 =
          some tree ∧
        tree.eval = .error err := by
  rcases run_cases source with
    ⟨tree, hParse, hResult⟩ | hStatic
  · refine ⟨tree, tree_of_parse hParse, ?_⟩
    rcases hResult with
      ⟨text, hText⟩ | ⟨err', hEval, hError⟩
    · rw [hText] at hRun
      exact nomatch hRun
    · rw [hError] at hRun
      injection hRun with hFailure
      injection hFailure with hSame
      rw [← hSame]
      exact hEval
  · rw [hStatic] at hRun
    exact nomatch hRun

/- A source that fails while it runs blames a live token. -/
theorem Program.mem_live_of_run_error
    {source : String}
    {err : RuntimeError}
    (hRun : (run source).result = .error (.runtime err)) :
    err.IsOf err.token ∧
      err.token ∈
        (Cursor.ofTokens (scan source).tokens).live := by
  rcases exists_of_run_error hRun with
    ⟨tree, hTree, hEval⟩
  rcases (Cursor.operatorsFit_of_parse hTree).eval_error
      hEval with
    ⟨operator, hMem, hOf⟩
  have hSame := hOf.token_eq
  subst hSame
  exact ⟨hOf, Cursor.operators_subset_live hTree hMem⟩

/- Live tokens of a source are among all of its tokens. -/
theorem mem_tokens_of_mem_live
    {source : String}
    {token : Token}
    (hLive :
      token ∈ (Cursor.ofTokens (scan source).tokens).live) :
    token ∈ (scan source).tokens := by
  rw [Cursor.live_ofTokens] at hLive
  exact (List.takeWhile_prefix _).subset hLive

/-
  If a source fails while it runs, the operator that is
  blamed is one of its tokens.  It is one of eight, with its
  own lexeme, and its line is counted by the line feeds
  before it.  The message is about sums if and only if the
  operator is a plus sign, and about a number otherwise.  No
  tree that a cursor gives has an operator that evaluation
  does not know.
-/
theorem runtime_error_is_precise :
    (∀ (source : String) (err : RuntimeError),
      (Program.run source).result =
          .error (.runtime err) →
        err.token ∈ (scan source).tokens ∧
        (err.token.lexeme, err.token.kind) ∈
          checkedOperators ∧
        (∃ front,
          err.token.IsCutBehind front source.toList ∧
            err.token.line = 1 + front.count '\n') ∧
        (err.message =
            "Operands must be two numbers or two strings." ↔
          err.token.kind = .plus) ∧
        (err.message = "Operand must be a number." ↔
          err.token.kind ≠ .plus)) ∧
    ∀ (c : Cursor) (tree : Expr),
      c.parse.1 = some tree →
        tree.OperatorsFit ∧
        ∀ err, tree.eval = .error err →
          err ≠ err.token.reject .unknownOperator := by
  constructor
  · intro source err hRun
    rcases Program.mem_live_of_run_error hRun with
      ⟨hOf, hLive⟩
    have hToken := mem_tokens_of_mem_live hLive
    rcases exists_isCutBehind hToken
        (Cursor.isEnd_of_mem_live hLive) with
      ⟨front, hCut, hLine⟩
    have hEntry := hCut.mem_operatorLexemes
      (checkedKinds_subset hOf.kind_mem)
    exact ⟨hToken, mem_checkedOperators hOf.kind_mem hEntry,
      ⟨front, hCut, hLine⟩, hOf.message_plus_iff,
      hOf.message_number_iff⟩
  · intro c tree hTree
    have hFit := Cursor.operatorsFit_of_parse hTree
    refine ⟨hFit, ?_⟩
    intro err hEval
    rcases hFit.eval_error hEval with ⟨operator, _, hOf⟩
    rw [hOf.token_eq]
    exact hOf.ne_unknown

/- The minus sign on the second line is blamed for `nil`. -/
theorem runtime_error_minus_nil :
    let minus : Token := ⟨.minus, "-", none, 2⟩
    ∃ err,
      (Program.run "\n-nil").result =
          .error (.runtime err) ∧
        err.token = minus ∧
        minus ∈ (scan "\n-nil").tokens ∧
        err.message = "Operand must be a number." := by
  intro minus
  let operand : Token := ⟨.kwNil, "nil", none, 2⟩
  let tree : Expr := .unary minus (.literal .nil)
  let feed : Segment := ⟨'\n', [], .layout⟩
  have hScan :
      scan "\n-nil" =
        ⟨[minus, operand] ++ [Token.endOfInput 2], []⟩ := by
    have hRest := scans_minus_nil.cut [] (by simp [Closes])
    have hCuts : Cuts "\n-nil".toList (feed :: _) [] :=
      .next (.blank (by decide)) hRest
    have hFaultless := List.forall_mem_cons.mpr
      ⟨(by simp [Segment.IsFaultless] : feed.IsFaultless),
        scans_minus_nil.faultless⟩
    exact scan_of_cuts hCuts hFaultless
  have hUnary : Derives .unary [minus, operand] tree :=
    .unary (by decide) (.primary (.literal rfl))
  have hDerives : Derives .expression [minus, operand] tree :=
    .expression (.condition
      (.operand (.operand (.operand (.operand hUnary)))))
  have hRun :
      (Program.run "\n-nil").result =
        .error (.runtime (minus.reject .notNumber)) := by
    simp only [Program.run, Program.parse, analyze, hScan,
      parse_of_derives hDerives]
    rfl
  rcases runtime_error_is_precise.1 _ _ hRun with
    ⟨hToken, _, _, _, hMessage⟩
  exact ⟨_, hRun, rfl, hToken,
    hMessage.mpr (by simp [Token.reject, minus])⟩

end LoxExpr
