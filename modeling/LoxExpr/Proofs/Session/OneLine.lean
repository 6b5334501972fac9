import LoxExpr.Proofs.Program.FrontEnds
import LoxExpr.Proofs.Program.ReportLines
import LoxExpr.Proofs.Session.Lines

/-
  This file says how a session answers one line: by its text
  alone, whatever the buffer holds and whatever lines are
  behind it.

  Key definitions include:
    * `Session.leaves`
    * `Session.lineScreen`
    * `Session.Shows`

  Main statements:
    * `Session.turn_eq_lineAnswer`
    * `Session.shows_lineScreen`
-/

namespace LoxExpr

namespace Session

------------------------------------------------------------
-- One Line
------------------------------------------------------------

/- The line is a text of blanks only. -/
def leaves (line : List UInt8) : Bool :=
  match decodeText? line with
  | some text => (Text.trim text).isEmpty
  | none => false

theorem leaves_iff (line : List UInt8) :
    leaves line = true ↔
      ∃ text, decodeText? line = some text ∧
        Text.trim text = "" := by
  unfold leaves
  cases decodeText? line with
  | none => simp
  | some text => simp [String.isEmpty_iff]

/- The answer to a line that is the only one. -/
def lineAnswer (line : List UInt8) : Answer :=
  (start line).turn.1

/- What is printed for a line that is the only one. -/
def lineScreen (line : List UInt8) : Screen :=
  prompt ++ (lineAnswer line).screen

/-
  What may be printed for a line, after the prompt: that it
  is no text, nothing, or for the text without the blanks at
  its ends, the value, the reports, or the runtime error.
-/
inductive Shows (line : List UInt8) : Screen → Prop
| notText :
    decodeText? line = none →
    Shows line
      ⟨"> ", "Failed read line: " ++
        "stream did not contain valid UTF-8\n"⟩
| nothing {text : String} :
    decodeText? line = some text →
    Text.trim text = "" →
    Shows line ⟨"> ", ""⟩
| value {text value : String} :
    decodeText? line = some text →
    Text.trim text ≠ "" →
    Program.run (Text.trim text) = ⟨[], .ok value⟩ →
    Shows line ⟨"> " ++ value ++ "\n", ""⟩
| reports {text : String} {reports : List Diagnostic} :
    decodeText? line = some text →
    Text.trim text ≠ "" →
    reports ≠ [] →
    Program.run (Text.trim text) =
      ⟨reports, .error (.staticErrors reports.length)⟩ →
    Shows line
      ⟨"> ", String.join (reports.map fun d =>
        "[line 1] Error" ++ d.location ++ ": " ++
          d.message ++ "\n")⟩
| runtime {text : String} {err : RuntimeError} :
    decodeText? line = some text →
    Text.trim text ≠ "" →
    Program.run (Text.trim text) =
      ⟨[], .error (.runtime err)⟩ →
    Shows line
      ⟨"> ", "[line 1] Error at '" ++ err.token.lexeme ++
        "': " ++ err.message ++ "\n"⟩

/-
  A turn answers the first line by the text of it, whatever
  the buffer holds, and leaves the lines behind unread.
-/
theorem turn_of_splitLine
    {byte : UInt8}
    {rest line behind : List UInt8}
    (hSplit : splitLine (byte :: rest) = (line, behind))
    (buffer : String) :
    (turn ⟨buffer, byte :: rest⟩).2.unread = behind ∧
      (turn ⟨buffer, byte :: rest⟩).1 =
        match decodeText? line with
        | some text => answerText text
        | none => .notText notTextMessage := by
  have hLength : ∃ n, line.length = n + 1 := by
    have hLine : (splitLine (byte :: rest)).1 = line := by
      rw [hSplit]
    rw [← hLine, splitLine]
    split <;> exact ⟨_, rfl⟩
  rcases hLength with ⟨n, hLength⟩
  cases hText : decodeText? line with
  | some text =>
      simp [turn, readLine, clear, hSplit, hText, hLength,
        answer]
  | none =>
      simp [turn, readLine, clear, hSplit, hText, answer]

/- The answer to a line is told by its text. -/
theorem lineAnswer_eq
    {line : List UInt8}
    (h : IsLine line) :
    lineAnswer line =
      match decodeText? line with
      | some text => answerText text
      | none => .notText notTextMessage := by
  have hSplit := h.splitLine_eq
  rcases List.exists_cons_of_ne_nil h.nonempty with
    ⟨byte, rest, rfl⟩
  exact (turn_of_splitLine hSplit "").2

/- A line that is the first of many is answered as alone. -/
theorem turn_eq_lineAnswer
    {byte : UInt8}
    {rest line behind : List UInt8}
    (hSplit : splitLine (byte :: rest) = (line, behind))
    (buffer : String) :
    (turn ⟨buffer, byte :: rest⟩).1 = lineAnswer line := by
  have hLine : IsLine line := by
    apply isLine_of_mem_cutLines
    rw [cutLines_cons, hSplit]
    exact List.mem_cons_self
  rw [lineAnswer_eq hLine]
  exact (turn_of_splitLine hSplit buffer).2

/- At the end of the input, a turn reads nothing. -/
theorem turn_nil (buffer : String) :
    turn ⟨buffer, []⟩ = (.atEnd, ⟨"", []⟩) := by
  simp only [turn, readLine, clear, splitLine,
    decodeText?_nil]
  rfl

/- The session goes on unless the line is one of blanks. -/
theorem goesOn_lineAnswer
    {line : List UInt8}
    (h : IsLine line) :
    (lineAnswer line).goesOn = !leaves line := by
  rw [lineAnswer_eq h, leaves]
  cases decodeText? line with
  | none => rfl
  | some text =>
      cases hBlank : (Text.trim text).isEmpty <;>
        simp [answerText, hBlank, Answer.goesOn]

/- For a line of blanks, there is only the prompt. -/
theorem lineScreen_of_leaves
    {line : List UInt8}
    (h : IsLine line)
    (hLeaves : leaves line = true) :
    lineScreen line = prompt := by
  rcases (leaves_iff line).mp hLeaves with
    ⟨text, hText, hBlank⟩
  have hAnswer : lineAnswer line = .leave := by
    rw [lineAnswer_eq h, hText]
    exact if_pos (String.isEmpty_iff.mpr hBlank)
  rw [lineScreen, hAnswer]
  rfl

------------------------------------------------------------
-- What a Line Prints
------------------------------------------------------------

/- A report on the first line, as it is printed. -/
theorem text_of_line_eq_one
    {d : Diagnostic}
    (hLine : d.line = 1) :
    d.text =
      "[line 1] Error" ++ d.location ++ ": " ++
        d.message := by
  have hTag : lineTag 1 = "[line 1] Error" := by decide
  rw [Diagnostic.text, hLine, hTag]

/- One text on a line of its own. -/
theorem unlines_singleton (text : String) :
    unlines [text] = text ++ "\n" := by
  simp [unlines, String.join]

/- Texts of reports on the first line, as printed. -/
theorem unlines_text
    {reports : List Diagnostic}
    (hLines : ∀ d ∈ reports, d.line = 1) :
    unlines (reports.map Diagnostic.text) =
      String.join (reports.map fun d =>
        "[line 1] Error" ++ d.location ++ ": " ++
          d.message ++ "\n") := by
  rw [unlines, List.map_map]
  congr 1
  apply List.map_congr_left
  intro d hMem
  exact congrArg (· ++ "\n")
    (text_of_line_eq_one (hLines d hMem))

/- A runtime error on the first line, as printed. -/
theorem runtimeError_text
    {err : RuntimeError}
    (hLine : err.token.line = 1) :
    err.text =
      "[line 1] Error at '" ++ err.token.lexeme ++ "': " ++
        err.message := by
  have hTag :
      lineTag 1 ++ " at '" = "[line 1] Error at '" := by
    decide
  have hColon : "'" ++ ": " = "': " := by decide
  rw [RuntimeError.text, hLine, lexemePlace, ← hTag,
    ← hColon]
  simp only [String.append_assoc]

/- A source without line feeds is blamed on its only line. -/
theorem shows_ran
    {line : List UInt8}
    {text : String}
    (hText : decodeText? line = some text)
    (hSource : Text.trim text ≠ "")
    (hFeeds : '\n' ∉ (Text.trim text).toList) :
    Shows line
      (prompt ++
        (Answer.ran (Program.run (Text.trim text))).screen) := by
  have hSettled := Program.isSettled_run (Text.trim text)
  rcases hRun : Program.run (Text.trim text) with
    ⟨reports, result⟩
  rw [hRun] at hSettled
  cases hSettled with
  | done value =>
      have hShown := Shows.value hText hSource hRun
      rw [String.append_assoc, ← unlines_singleton] at hShown
      exact hShown
  | static hReports =>
      have hLines : ∀ d ∈ reports, d.line = 1 := by
        intro d hMem
        refine (Program.isLineOf_diagnostic ?_).eq_one hFeeds
        rw [hRun]
        exact hMem
      have hShown :=
        Shows.reports hText hSource hReports hRun
      rw [← unlines_text hLines] at hShown
      convert hShown using 1
      exact congrArg₂ Screen.mk rfl String.append_empty
  | runtime err =>
      have hResult := congrArg Verdict.result hRun
      have hLine :=
        (Program.isLineOf_runtimeError hResult).eq_one hFeeds
      have hShown :
          Shows line ⟨"> ", err.text ++ "\n"⟩ := by
        rw [runtimeError_text hLine]
        exact .runtime hText hSource hRun
      rw [← unlines_singleton] at hShown
      exact hShown

/- Every line prints one of the things that it may print. -/
theorem shows_lineScreen
    {line : List UInt8}
    (h : IsLine line) :
    Shows line (lineScreen line) := by
  rw [lineScreen, lineAnswer_eq h]
  cases hText : decodeText? line with
  | none => exact .notText hText
  | some text =>
      dsimp only [answerText]
      split
      · rename_i hBlank
        exact .nothing hText (String.isEmpty_iff.mp hBlank)
      · rename_i hSource
        exact shows_ran hText
          (mt String.isEmpty_iff.mpr hSource)
          (h.not_mem_trim hText)

end Session

end LoxExpr
