import LoxExpr.Proofs.Layout.Respacing
import LoxExpr.Proofs.Lexical.Lines

/-
  This file says that sources are scanned line by line: two
  sources with a line feed between them are scanned as each
  of them, if the first one leaves no string and no comment
  open.  What is in the second one is only further down.

  Key definitions include:
    * `LexicalFault.IsOpen`
    * `Token.downBy`
    * `LexicalError.downBy`

  Main statements:
    * `Segment.IsNext.before_lineFeed`
    * `segments_append_lineFeed`
    * `scan_joined`
-/

namespace LoxExpr

------------------------------------------------------------
-- Further Down
------------------------------------------------------------

/- A token some lines further down. -/
def Token.downBy (n : Nat) (token : Token) : Token :=
  { token with line := token.line + n }

/- A lexical error some lines further down. -/
def LexicalError.downBy
    (n : Nat)
    (e : LexicalError) : LexicalError :=
  { e with line := e.line + n }

/- A report some lines further down. -/
def Diagnostic.downBy
    (n : Nat)
    (d : Diagnostic) : Diagnostic :=
  { d with line := d.line + n }

/- A segment some lines further down. -/
def Placed.downBy (n : Nat) (p : Placed) : Placed :=
  { p with line := p.line + n }

theorem LexicalError.diagnostic_downBy
    (n : Nat)
    (e : LexicalError) :
    (e.downBy n).diagnostic = e.diagnostic.downBy n := rfl

theorem Placed.token?_downBy
    (n : Nat)
    (p : Placed) :
    (p.downBy n).token? = p.token?.map (Token.downBy n) := by
  rcases p with ⟨line, ⟨c, tail, content⟩⟩
  cases content <;> rfl

theorem Placed.error?_downBy
    (n : Nat)
    (p : Placed) :
    (p.downBy n).error? =
      p.error?.map (LexicalError.downBy n) := by
  rcases p with ⟨line, ⟨c, tail, content⟩⟩
  cases content with
  | fault fault =>
      simp only [downBy, error?, Segment.errorOn?,
        Option.map_some, LexicalError.downBy,
        Nat.add_right_comm]
  | _ => rfl

/- Segments that begin further down are all further down. -/
theorem placed_add
    (line n : Nat)
    (cuts : List Segment) :
    placed (line + n) cuts =
      (placed line cuts).map (Placed.downBy n) := by
  induction cuts generalizing line with
  | nil => rfl
  | cons s cuts ih =>
      rw [placed, Nat.add_right_comm, ih]
      rfl

------------------------------------------------------------
-- Segments before a Line Feed
------------------------------------------------------------

/- The fault of a string or a comment that is left open. -/
def LexicalFault.IsOpen (fault : LexicalFault) : Prop :=
  fault = .unterminatedString ∨
    fault = .unterminatedComment

/- Such a fault is told as one of something unterminated. -/
theorem LexicalFault.IsOpen.message_begins
    {fault : LexicalFault}
    (hOpen : fault.IsOpen) :
    "Unterminated ".toList <+: fault.message.toList := by
  rcases hOpen with rfl | rfl
  · exact ⟨"string.".toList, by simp [message]⟩
  · exact ⟨"C-style comment.".toList, by simp [message]⟩

/- The segment does not leave a string or a comment open. -/
def Segment.IsShut (s : Segment) : Prop :=
  ∀ fault, s.content = .fault fault → ¬fault.IsOpen

/-
  A segment stays next if a line feed, and whatever behind
  it, is put behind the source, unless it is left open.
-/
theorem Segment.IsNext.before_lineFeed
    {s : Segment}
    {more : List Char}
    (hNext : s.IsNext more)
    (hShut : s.IsShut)
    (rest : List Char) :
    s.IsNext (more ++ '\n' :: rest) := by
  have hFeed : KeepsFronts [] ('\n' :: rest) := by
    refine .of_head? (fun c hHead => ?_) []
    rw [← Option.some.inj hHead]
    decide
  have hKeeps := hFeed.append more
  rw [List.append_nil] at hKeeps
  cases hNext with
  | blank hBlank => exact .blank hBlank
  | lineComment hBody hBehind =>
      refine .lineComment hBody (Or.inr ?_)
      rcases hBehind with rfl | hHead
      · rfl
      · rw [List.head?_append, hHead, Option.some_or]
  | blockComment hBody => exact .blockComment hBody
  | openComment hBody =>
      exact absurd (Or.inr rfl) (hShut _ rfl)
  | openString hBody =>
      exact absurd (Or.inl rfl) (hShut _ rfl)
  | string hBody => exact .string hBody
  | numeral hLongest =>
      exact (IsNext.numeral hLongest).of_keepsFronts hKeeps rfl
  | word hLongest hKind =>
      exact (IsNext.word hLongest hKind).of_keepsFronts
        hKeeps rfl
  | operator hEntry hLongest hComment =>
      exact (IsNext.operator hEntry hLongest
        hComment).of_keepsFronts hKeeps rfl
  | unexpected hBlank hQuote hDigit hLetter hOperator =>
      exact .unexpected hBlank hQuote hDigit hLetter
        hOperator

/- So do all segments of a cut. -/
theorem Cuts.before_lineFeed
    {source left : List Char}
    {cuts : List Segment}
    (hCuts : Cuts source cuts left)
    (hShut : ∀ s ∈ cuts, s.IsShut)
    (rest : List Char) :
    Cuts (source ++ '\n' :: rest) cuts
      (left ++ '\n' :: rest) := by
  induction hCuts with
  | done => exact .done
  | next hNext _ ih =>
      rw [List.forall_mem_cons] at hShut
      rw [List.append_assoc]
      exact .next (hNext.before_lineFeed hShut.1 rest)
        (ih hShut.2)

/- The line feed between two sources. -/
def Segment.lineFeed : Segment :=
  ⟨'\n', [], .layout⟩

/- Both sources are cut as if the other one were not there. -/
theorem segments_append_lineFeed
    {source : List Char}
    (hShut : ∀ s ∈ segments source, s.IsShut)
    (rest : List Char) :
    segments (source ++ '\n' :: rest) =
      segments source ++ .lineFeed :: segments rest := by
  have hCuts :=
    (cuts_segments source).before_lineFeed hShut rest
  have hFeed : Segment.lineFeed.IsNext rest :=
    .blank (by decide)
  rw [segments_of_cuts hCuts, List.nil_append]
  exact congrArg _ (segments_of_isNext hFeed)

------------------------------------------------------------
-- Scanning Line by Line
------------------------------------------------------------

/- Segments are shut if nothing unterminated is reported. -/
theorem isShut_of_diagnostics
    {source : String}
    (hReports :
      ∀ d ∈ (scan source).diagnostics,
        ¬"Unterminated ".toList <+: d.message.toList) :
    ∀ s ∈ segments source.toList, s.IsShut := by
  intro s hMem fault hFault hOpen
  rcases exists_error_of_fault hMem hFault 1 with
    ⟨e, hError, rfl⟩
  rw [← errors_scan] at hError
  exact hReports e.diagnostic (List.mem_map_of_mem hError)
    hOpen.message_begins

/- What is behind a line feed is further down. -/
theorem placed_append_lineFeed
    (cuts cuts' : List Segment) :
    placed 1 (cuts ++ .lineFeed :: cuts') =
      placed 1 cuts ++ ⟨lineAfter 1 cuts, .lineFeed⟩ ::
        (placed 1 cuts').map
          (Placed.downBy (lineAfter 1 cuts)) := by
  rw [placed_append, placed, ← placed_add]
  exact congrArg (_ ++ _ :: placed · cuts')
    (Nat.add_comm _ 1)

/- So are the tokens behind a line feed. -/
theorem tokensOn_append_lineFeed
    (cuts cuts' : List Segment) :
    tokensOn 1 (cuts ++ .lineFeed :: cuts') =
      tokensOn 1 cuts ++
        (tokensOn 1 cuts').map
          (Token.downBy (lineAfter 1 cuts)) := by
  rw [tokensOn, placed_append_lineFeed,
    List.filterMap_append, List.filterMap_cons_none rfl,
    List.filterMap_map, tokensOn, tokensOn,
    List.map_filterMap]
  exact congrArg (_ ++ List.filterMap · _)
    (funext (Placed.token?_downBy _))

/- So are the errors behind it. -/
theorem errorsOn_append_lineFeed
    (cuts cuts' : List Segment) :
    errorsOn 1 (cuts ++ .lineFeed :: cuts') =
      errorsOn 1 cuts ++
        (errorsOn 1 cuts').map
          (LexicalError.downBy (lineAfter 1 cuts)) := by
  rw [errorsOn, placed_append_lineFeed,
    List.filterMap_append, List.filterMap_cons_none rfl,
    List.filterMap_map, errorsOn, errorsOn,
    List.map_filterMap]
  exact congrArg (_ ++ List.filterMap · _)
    (funext (Placed.error?_downBy _))

/- So is the line behind it all. -/
theorem lineAfter_append_lineFeed
    (cuts cuts' : List Segment) :
    lineAfter 1 (cuts ++ .lineFeed :: cuts') =
      lineAfter 1 cuts' + lineAfter 1 cuts := by
  simp only [lineAfter_eq, List.flatMap_append,
    List.flatMap_cons, List.count_append]
  have hFeed : Segment.lineFeed.text.count '\n' = 1 := rfl
  omega

/-
  Two sources with a line feed between them are scanned as
  each of them, if the first one leaves no string and no
  comment open: there are its tokens but for the end, then
  those of the second one, further down by the lines of the
  first.  The errors and the reports of both follow each
  other in the same way.
-/
theorem scan_joined
    {a : String}
    (hShut :
      ∀ d ∈ (scan a).diagnostics,
        ¬"Unterminated ".toList <+: d.message.toList)
    (b : String) :
    let n := a.toList.count '\n'
    let joined := scan (a ++ "\n" ++ b)
    ∃ before,
      (scan a).tokens = before ++ [.endOfInput (1 + n)] ∧
      joined.tokens =
        before ++ (scan b).tokens.map (Token.downBy (1 + n)) ∧
      joined.errors =
        (scan a).errors ++
          (scan b).errors.map (LexicalError.downBy (1 + n)) ∧
      joined.diagnostics =
        (scan a).diagnostics ++
          (scan b).diagnostics.map
            (Diagnostic.downBy (1 + n)) := by
  intro n joined
  have hSource :
      (a ++ "\n" ++ b).toList = a.toList ++ '\n' :: b.toList := by
    simp
  have hSegments :
      segments (a ++ "\n" ++ b).toList =
        segments a.toList ++ .lineFeed :: segments b.toList := by
    rw [hSource]
    exact segments_append_lineFeed
      (isShut_of_diagnostics hShut) _
  have hLine : lineAfter 1 (segments a.toList) = 1 + n := by
    rw [lineAfter_eq, flatMap_text_segments]
  have hTokens : joined.tokens =
      tokensOn 1 (segments a.toList) ++
        (scan b).tokens.map (Token.downBy (1 + n)) := by
    have hClosing :=
      lineAfter_append_lineFeed (segments a.toList)
        (segments b.toList)
    have hBefore :=
      tokensOn_append_lineFeed (segments a.toList)
        (segments b.toList)
    rw [← hSegments, hLine] at hClosing hBefore
    rw [tokens_scan, tokens_scan, hBefore, hClosing,
      List.map_append, List.append_assoc]
    rfl
  have hErrors : joined.errors =
      (scan a).errors ++
        (scan b).errors.map (LexicalError.downBy (1 + n)) := by
    rw [errors_scan, errors_scan, errors_scan, hSegments,
      errorsOn_append_lineFeed, hLine]
  refine ⟨_, ?_, hTokens, hErrors, ?_⟩
  · rw [tokens_scan, hLine]
  · simp only [Scan.diagnostics, hErrors, List.map_append,
      List.map_map, Function.comp_def,
      LexicalError.diagnostic_downBy]

/-
  Two equals signs on two lines stay two, and the character
  that no token has is reported once.
-/
theorem scan_joined_equal :
    (∀ d ∈ (scan "@\n=").diagnostics,
        ¬"Unterminated ".toList <+: d.message.toList) ∧
      (scan "@\n=\n=").tokens =
        [⟨.equal, "=", none, 2⟩, ⟨.equal, "=", none, 3⟩,
         .endOfInput 3] ∧
      (scan "@\n=\n=").errors =
        [⟨1, .unexpectedCharacter '@'⟩] ∧
      (scan "@\n=\n=").diagnostics =
        [⟨1, "", "Unexpected character."⟩] := by
  have hEqual : Cuts "=".toList
      [⟨'=', [], .token .equal none⟩] [] :=
    .next (Segment.isNext_first '=' []) .done
  have hCuts : Cuts "@\n=".toList
      [⟨'@', [], .fault (.unexpectedCharacter '@')⟩,
       .lineFeed, ⟨'=', [], .token .equal none⟩] [] :=
    .next (Segment.isNext_first '@' ['\n', '='])
      (.next (.blank (by decide)) hEqual)
  have hFirst : scan "@\n=" =
      ⟨[⟨.equal, "=", none, 2⟩, .endOfInput 2],
        [⟨1, .unexpectedCharacter '@'⟩]⟩ := by
    rw [scan_eq_of_cuts hCuts]
    rfl
  have hSecond : scan "=" =
      ⟨[⟨.equal, "=", none, 1⟩, .endOfInput 1], []⟩ := by
    rw [scan_eq_of_cuts hEqual]
    rfl
  have hShut : ∀ d ∈ (scan "@\n=").diagnostics,
      ¬"Unterminated ".toList <+: d.message.toList := by
    simp [hFirst, Scan.diagnostics, LexicalError.diagnostic,
      LexicalError.message, LexicalFault.message,
      Diagnostic.atLine]
  rcases scan_joined hShut "=" with
    ⟨before, hBefore, hTokens, hErrors, hReports⟩
  rw [hFirst, hSecond] at hErrors hReports
  rw [hFirst] at hBefore
  have hFront : [⟨.equal, "=", none, 2⟩] = before := by
    simpa using congrArg List.dropLast hBefore
  rw [← hFront, hSecond] at hTokens
  exact ⟨hShut, hTokens, hErrors, hReports⟩

end LoxExpr
