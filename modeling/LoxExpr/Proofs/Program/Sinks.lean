import LoxExpr.Sink
import Mathlib.Data.List.DropRight

/-
  This file says that a sink is only ever added to, and that
  nothing is read from it: a stage that is handed a sink with
  reports in it does what it does with an empty one, and its
  reports come behind the others.

  Key definitions include:
    * `Sink.add`
    * `Sink.Step.reports`
    * `Sink.sinceCleared`

  Main statements:
    * `Sink.scan_eq`
    * `Cursor.parseInto_eq`
    * `Sink.reported_run`
    * `Sink.holds_reports_in_order`
-/

namespace LoxExpr

namespace Sink

------------------------------------------------------------
-- Reports Added in Order
------------------------------------------------------------

/- The sink with reports added in order. -/
def add (s : Sink) (more : List Diagnostic) : Sink :=
  ⟨s.reported ++ more⟩

@[simp] theorem reported_add
    (s : Sink)
    (more : List Diagnostic) :
    (s.add more).reported = s.reported ++ more := rfl

@[simp] theorem add_nil (s : Sink) :
    s.add [] = s := by
  simp [add]

@[simp] theorem add_add
    (s : Sink)
    (more more' : List Diagnostic) :
    (s.add more).add more' = s.add (more ++ more') := by
  simp [add]

------------------------------------------------------------
-- Scanning
------------------------------------------------------------

/- An error that is noted is added, if there is one. -/
theorem note_eq (s : Sink) (e : Option LexicalError) :
    s.note e =
      s.add (e.toList.map LexicalError.diagnostic) := by
  cases e with
  | none => exact s.add_nil.symm
  | some e => rfl

/-
  From any line on and into any sink, the loop gives the
  tokens that scanning gives, and adds the reports of its
  errors.
-/
theorem scanFrom_eq
    (s : Sink)
    (line : Nat)
    (source : List Char) :
    s.scanFrom line source =
      ((LoxExpr.scanFrom line source).tokens,
        s.add (LoxExpr.scanFrom line source).diagnostics) := by
  fun_induction Sink.scanFrom s line source with
  | case1 s line => simp [LoxExpr.scanFrom, Scan.diagnostics]
  | case2 s line c rest next reached noted tokens last hMore
      ih =>
      rw [hMore] at ih
      injection ih with hTokens hLast
      rw [LoxExpr.scanFrom, hTokens, hLast]
      simp only [noted, note_eq, add_add, Scan.diagnostics,
        List.map_append]
      rfl

/- A scan gives its tokens, and adds its reports. -/
theorem scan_eq (s : Sink) (source : String) :
    s.scan source =
      ((LoxExpr.scan source).tokens,
        s.add (LoxExpr.scan source).diagnostics) :=
  s.scanFrom_eq 1 source.toList

end Sink

------------------------------------------------------------
-- Reading
------------------------------------------------------------

/- Errors that are reported one by one are added in order. -/
theorem Sink.foldl_tokenError
    (s : Sink)
    (errors : List SyntaxError) :
    errors.foldl
        (fun s e => s.tokenError e.token e.message) s =
      s.add (errors.map SyntaxError.diagnostic) := by
  induction errors generalizing s with
  | nil => simp
  | cons e errors ih =>
      rw [List.foldl_cons, ih, List.map_cons]
      exact s.add_add [e.diagnostic] _

/- A reading is what it is, and adds its reports. -/
theorem Cursor.parseInto_eq
    (c : Cursor)
    (s : Sink) :
    c.parseInto s = (c.parse, s.add c.parse.2.diagnostics) :=
  Prod.ext rfl (s.foldl_tokenError c.parse.2.errors)

namespace Sink

/- Both stages give what they do, and add their reports. -/
theorem analyze_eq (s : Sink) (source : String) :
    s.analyze source =
      ((LoxExpr.analyze source).tree,
        s.add (LoxExpr.analyze source).diagnostics) := by
  simp only [Sink.analyze, scan_eq, Cursor.parseInto_eq,
    add_add]
  rfl

------------------------------------------------------------
-- Steps
------------------------------------------------------------

/- What a step reports into a sink of its own. -/
def Step.reports (step : Step) : List Diagnostic :=
  (empty.perform step).2.reported

/- What a step gives with a sink of its own. -/
def Step.product (step : Step) : Product :=
  (empty.perform step).1

/- The step forgets what has been reported. -/
def Step.clears : Step → Bool
| .clear => true
| _ => false

/-
  A step gives what it gives on its own.  It clears the sink
  or leaves what is in it, and adds its own reports.
-/
theorem perform_eq (s : Sink) (step : Step) :
    s.perform step =
      (step.product,
        if step.clears then empty
        else s.add step.reports) := by
  cases step with
  | report _ => rfl
  | error _ _ => rfl
  | tokenError _ _ => rfl
  | clear => rfl
  | scan source =>
      simp only [Step.product, Step.reports, Step.clears,
        perform, scan_eq]
      rfl
  | parse source =>
      simp only [Step.product, Step.reports, Step.clears,
        perform, analyze_eq]
      rfl

------------------------------------------------------------
-- Runs
------------------------------------------------------------

/- The steps behind the last one that clears. -/
def sinceCleared (steps : List Step) : List Step :=
  steps.rtakeWhile fun step => !step.clears

/- Steps in order, the last one apart. -/
theorem run_concat
    (s : Sink)
    (steps : List Step)
    (step : Step) :
    s.run (steps ++ [step]) =
      ((s.run steps).perform step).2 := by
  simp [run, List.foldl_append]

/- The replies to steps in order, the last one apart. -/
theorem replies_concat
    (s : Sink)
    (steps : List Step)
    (step : Step) :
    s.replies (steps ++ [step]) =
      s.replies steps ++ [(s.run steps).perform step] := by
  induction steps generalizing s with
  | nil => rfl
  | cons first steps ih =>
      simp only [List.cons_append, replies, ih]
      rfl

/-
  After any steps, a sink holds what it held before unless it
  has been cleared, and then what each step since then reports
  on its own.
-/
theorem reported_run
    (s : Sink)
    (steps : List Step) :
    (s.run steps).reported =
      (if steps.any Step.clears then [] else s.reported) ++
        (sinceCleared steps).flatMap Step.reports := by
  -- The last step decides what is kept.
  induction steps using List.reverseRecOn with
  | nil => simp [run, sinceCleared]
  | append_singleton steps step ih =>
      rw [run_concat, perform_eq, sinceCleared]
      cases hClears : step.clears with
      | true =>
          rw [List.rtakeWhile_concat_neg _ _ _
            (by simp [hClears])]
          simp [hClears, empty]
      | false =>
          rw [List.rtakeWhile_concat_pos _ _ _
            (by simp [hClears])]
          simp only [Bool.false_eq_true, ↓reduceIte,
            reported_add, ih, List.any_append, List.any_cons,
            List.any_nil, hClears, Bool.or_false,
            List.flatMap_append, List.flatMap_cons,
            List.flatMap_nil, List.append_nil,
            List.append_assoc]
          rfl

/-
  No stage learns what a sink holds.  Handed any sink, a
  stage gives what it gives without one, and adds the reports
  of its errors.  So scanning a source and reading at a
  cursor give what they give with an empty sink, and put
  behind the reports of any other sink what they report into
  an empty one.  A report made by hand is one
  report, and of both stages together the scan reports first.
  So after any steps a sink holds what each step since the
  last clearing reports on its own, in order; the sink's
  questions are answered from that alone, and no step gives
  anything else for the steps before it.
-/
theorem holds_reports_in_order :
    (∀ (s : Sink) (source : String),
      s.scan source =
        ((LoxExpr.scan source).tokens,
          s.add (LoxExpr.scan source).diagnostics) ∧
      s.analyze source =
        ((LoxExpr.analyze source).tree,
          s.add (LoxExpr.analyze source).diagnostics)) ∧
    (∀ (s : Sink) (c : Cursor),
      c.parseInto s =
        (c.parse, s.add c.parse.2.diagnostics)) ∧
    (∀ (s : Sink) (source : String),
      (s.scan source).1 = (empty.scan source).1 ∧
      (s.scan source).2.reported =
        s.reported ++ (empty.scan source).2.reported) ∧
    (∀ (s : Sink) (c : Cursor),
      (c.parseInto s).1 = (c.parseInto empty).1 ∧
      (c.parseInto s).2.reported =
        s.reported ++ (c.parseInto empty).2.reported) ∧
    (∀ diagnostic line token message,
      Step.reports (.report diagnostic) = [diagnostic] ∧
      Step.reports (.error line message) =
        [.atLine line message] ∧
      Step.reports (.tokenError token message) =
        [.atToken token message] ∧
      Step.reports .clear = []) ∧
    (∀ source : String,
      let (tokens, scanned) := empty.scan source
      let c := Cursor.ofTokens tokens
      Step.reports (.scan source) = scanned.reported ∧
      Step.reports (.parse source) =
        scanned.reported ++
          (c.parseInto empty).2.reported) ∧
    ∀ (s : Sink) (steps : List Step),
      let last := s.run steps
      last.reported =
        (if steps.any Step.clears then [] else s.reported) ++
          (sinceCleared steps).flatMap Step.reports ∧
      (last.hadError = true ↔ last.reported ≠ []) ∧
      last.size = last.reported.length ∧
      (last.isEmpty = true ↔ last.reported = []) ∧
      ∀ step,
        s.replies (steps ++ [step]) =
          s.replies steps ++
            [(step.product, s.run (steps ++ [step]))] := by
  refine ⟨fun s source =>
      ⟨s.scan_eq source, s.analyze_eq source⟩,
    fun s c => c.parseInto_eq s,
    ?_, ?_, fun _ _ _ _ => ⟨rfl, rfl, rfl, rfl⟩, ?_, ?_⟩
  · intro s source
    rw [s.scan_eq, empty.scan_eq]
    exact ⟨rfl, rfl⟩
  · intro s c
    rw [c.parseInto_eq s, c.parseInto_eq empty]
    exact ⟨rfl, rfl⟩
  · intro source
    rw [scan_eq]
    constructor
    · simp only [Step.reports, perform, scan_eq]
    · rw [Cursor.parseInto_eq]
      simp only [Step.reports, perform, analyze_eq]
      rfl
  · intro s steps last
    refine ⟨s.reported_run steps, ?_, rfl, ?_, ?_⟩
    · simp [hadError]
    · simp [isEmpty]
    · intro step
      rw [replies_concat, run_concat, perform_eq]

end Sink

end LoxExpr
