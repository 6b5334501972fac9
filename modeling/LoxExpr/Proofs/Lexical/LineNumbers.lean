import LoxExpr.Proofs.Lexical.TokenOrder

/-
  This file says on which lines the tokens and the errors of
  a source are.  A token is on the line of its first
  character, and so is an unexpected character; an open
  string or comment is blamed on the last line.  Each line is
  one more than the number of line feeds before it.

  Key definitions include:
    * `lineBehind`
    * `Located`
    * `located`

  Main statements:
    * `tokensOn_lineBehind`
    * `errorsOn_lineBehind`
    * `lines_count_line_feeds`
-/

namespace LoxExpr

------------------------------------------------------------
-- Segments and What Is Before Them
------------------------------------------------------------

/- The line behind a text that begins on the first line. -/
def lineBehind (text : List Char) : Nat :=
  1 + text.count '\n'

/- A segment and all characters of the source before it. -/
structure Located where
  before : List Char
  segment : Segment

/- Segments in a row, behind some characters. -/
def located
    (before : List Char) : List Segment → List Located
| [] => []
| s :: rest => ⟨before, s⟩ :: located (before ++ s.text) rest

namespace Located

/- The token of a segment, on the line where it begins. -/
def token? (l : Located) : Option Token :=
  match l.segment.content with
  | .token kind literal =>
      some ⟨kind, l.segment.lexeme, literal,
        lineBehind l.before⟩
  | _ => none

/-
  The error of a segment of a source: an unexpected character
  on the line where it stands, and everything else on the
  last line of the source.
-/
def error?
    (source : List Char)
    (l : Located) : Option LexicalError :=
  match l.segment.content with
  | .fault (.unexpectedCharacter c) =>
      some ⟨lineBehind l.before, .unexpectedCharacter c⟩
  | .fault fault => some ⟨lineBehind source, fault⟩
  | _ => none

end Located

/- The line behind a segment. -/
theorem lineBehind_append_text
    (before : List Char)
    (s : Segment) :
    lineBehind (before ++ s.text) =
      lineBehind before + s.lineFeeds := by
  rw [lineBehind, List.count_append, ← Nat.add_assoc]
  rfl

/- Every segment of a cut stands where it is located. -/
theorem Cuts.exists_of_mem_located
    {text rest before : List Char}
    {cuts : List Segment}
    (hCuts : Cuts text cuts rest)
    {l : Located}
    (hMem : l ∈ located before cuts) :
    ∃ more,
      before ++ text = l.before ++ (l.segment.text ++ more) ∧
        l.segment.IsNext more := by
  induction hCuts generalizing before with
  | done => exact nomatch hMem
  | @next s more cuts rest hNext _ ih =>
      rcases List.mem_cons.mp hMem with rfl | hMore
      · exact ⟨more, rfl, hNext⟩
      · rcases ih hMore with ⟨behind, hSplit, hFound⟩
        rw [List.append_assoc] at hSplit
        exact ⟨behind, hSplit, hFound⟩

------------------------------------------------------------
-- Lines of Tokens and Errors
------------------------------------------------------------

/- Lines counted on the way are those of the line feeds. -/
theorem tokensOn_lineBehind
    (before : List Char)
    (cuts : List Segment) :
    tokensOn (lineBehind before) cuts =
      (located before cuts).filterMap Located.token? := by
  induction cuts generalizing before with
  | nil => rfl
  | cons s cuts ih =>
      have hMore := ih (before ++ s.text)
      rw [lineBehind_append_text] at hMore
      have hFirst :
          Placed.token? ⟨lineBehind before, s⟩ =
            Located.token? ⟨before, s⟩ := rfl
      rw [tokensOn] at hMore ⊢
      rw [placed, located, List.filterMap_cons,
        List.filterMap_cons, hFirst, hMore]

/- An error is blamed on the line where its segment ends. -/
theorem Segment.IsNext.error?_eq
    {s : Segment}
    {more : List Char}
    (hNext : s.IsNext more)
    (before : List Char) :
    Placed.error? ⟨lineBehind before, s⟩ =
      Located.error? (before ++ (s.text ++ more))
        ⟨before, s⟩ := by
  have hLine := lineBehind_append_text before s
  cases hNext with
  | openComment hBody =>
      rw [List.append_nil]
      simp only [Placed.error?, errorOn?, Located.error?,
        hLine]
  | openString hBody =>
      rw [List.append_nil]
      simp only [Placed.error?, errorOn?, Located.error?,
        hLine]
  | @unexpected c _ hBlank _ _ _ _ =>
      have hFeed : c ≠ '\n' := by
        rintro rfl
        exact hBlank (by decide)
      have hNone :
          lineFeeds
            ⟨c, [], .fault (.unexpectedCharacter c)⟩ = 0 := by
        simp [lineFeeds, text, hFeed]
      simp only [Placed.error?, errorOn?, Located.error?,
        hNone, Nat.add_zero]
  | _ => rfl

/- Errors are blamed on lines that the feeds tell, too. -/
theorem errorsOn_lineBehind
    {text rest : List Char}
    {cuts : List Segment}
    (hCuts : Cuts text cuts rest)
    (before : List Char) :
    errorsOn (lineBehind before) cuts =
      (located before cuts).filterMap
        (Located.error? (before ++ text)) := by
  induction hCuts generalizing before with
  | done => rfl
  | @next s more cuts rest hNext _ ih =>
      have hMore := ih (before ++ s.text)
      rw [lineBehind_append_text, List.append_assoc] at hMore
      rw [errorsOn] at hMore ⊢
      rw [placed, located, List.filterMap_cons,
        List.filterMap_cons, hNext.error?_eq, hMore]

/-
  In the only cut of a source, every segment stands behind
  the characters that it is located behind.  The tokens of
  the source are those of the segments, on lines told by the
  line feeds before them, and the end is on the line behind
  all line feeds.  The errors are those of the segments: an
  unexpected character is on the line told by the line feeds
  before it, and an open string or comment on the last line.
  So the lines of the tokens do not decrease, and neither do
  those of the reports.
-/
theorem lines_count_line_feeds (source : String) :
    ∃ cuts, Cuts source.toList cuts [] ∧
      (∀ l ∈ located [] cuts, ∃ more,
        source.toList =
            l.before ++ (l.segment.text ++ more) ∧
          l.segment.IsNext more) ∧
      (scan source).tokens =
        (located [] cuts).filterMap Located.token? ++
          [.endOfInput (lineBehind source.toList)] ∧
      (scan source).errors =
        (located [] cuts).filterMap
          (Located.error? source.toList) ∧
      (scan source).diagnostics =
        (scan source).errors.map (fun e =>
          ⟨e.line, "", e.message⟩) ∧
      ((scan source).tokens.map Token.line).Pairwise
        (· ≤ ·) ∧
      ((scan source).diagnostics.map
        Diagnostic.line).Pairwise (· ≤ ·) := by
  have hCuts := cuts_segments source.toList
  refine ⟨_, hCuts, fun l hMem => ?_, ?_, ?_, rfl, ?_, ?_⟩
  · exact hCuts.exists_of_mem_located hMem
  · have hLast := lineAfter_eq 1 (segments source.toList)
    rw [flatMap_text_segments] at hLast
    have hTokens :=
      tokensOn_lineBehind [] (segments source.toList)
    rw [tokens_scan, lineBehind, ← hLast, ← hTokens]
    rfl
  · rw [errors_scan]
    exact errorsOn_lineBehind hCuts []
  · rw [List.pairwise_map]
    exact pairwise_line_scan source
  · rw [Scan.diagnostics, List.map_map, List.pairwise_map]
    exact pairwise_line_errors source

end LoxExpr
