import LoxExpr.Proofs.Layout.Joining
import LoxExpr.Proofs.Lexical.TokenOrder

/-
  This file says that lexical errors stay where they are.  A
  source is cleaned by putting a blank for each unexpected
  character and leaving out what an open string or comment
  takes; the cleaned source has the same tokens on the same
  lines, and no errors.

  Key definitions include:
    * `Segment.cleaned`
    * `Segment.swallowed`
    * `cleaned`
    * `swallowed`

  Main statements:
    * `Segment.IsNext.before_cleaned`
    * `Cuts.exists_cleaned`
    * `faults_stay_local`
-/

namespace LoxExpr

------------------------------------------------------------
-- Cleaned Sources
------------------------------------------------------------

namespace Segment

/-
  What is put for a segment: a blank for an unexpected
  character, nothing for an open string or comment, and
  every other segment as it is.
-/
def cleaned (s : Segment) : List Char :=
  match s.content with
  | .fault (.unexpectedCharacter _) => [' ']
  | .fault _ => []
  | _ => s.text

/- The characters that an open string or comment takes. -/
def swallowed (s : Segment) : List Char :=
  match s.content with
  | .fault (.unexpectedCharacter _) => []
  | .fault _ => s.text
  | _ => []

end Segment

/- A source with its lexical errors taken out. -/
def cleaned (source : String) : String :=
  String.ofList
    ((segments source.toList).flatMap Segment.cleaned)

/- The text from an open string or comment on, if any. -/
def swallowed (source : String) : List Char :=
  (segments source.toList).flatMap Segment.swallowed

------------------------------------------------------------
-- Kinds of Segments
------------------------------------------------------------

namespace Segment

/-
  A segment that is next has no fault, is an unexpected
  character, or is left open and has nothing behind it.
-/
inductive Cleans (s : Segment) (more : List Char) : Prop where
| faultless :
    s.IsFaultless →
    s.cleaned = s.text →
    s.swallowed = [] →
    Cleans s more
| unexpected (c : Char) :
    c ≠ '\n' →
    s = ⟨c, [], .fault (.unexpectedCharacter c)⟩ →
    Cleans s more
| isOpen (fault : LexicalFault) :
    s.content = .fault fault →
    fault.IsOpen →
    s.cleaned = [] →
    s.swallowed = s.text →
    more = [] →
    Cleans s more

theorem IsNext.cleans
    {s : Segment}
    {more : List Char}
    (hNext : s.IsNext more) :
    s.Cleans more := by
  cases hNext with
  | openComment hBody =>
      exact .isOpen _ rfl (Or.inr rfl) rfl rfl rfl
  | openString hBody =>
      exact .isOpen _ rfl (Or.inl rfl) rfl rfl rfl
  | @unexpected c _ hBlank _ _ _ _ =>
      refine .unexpected c ?_ rfl
      rintro rfl
      exact hBlank (by decide)
  | _ => exact .faultless (by simp [IsFaultless]) rfl rfl

end Segment

------------------------------------------------------------
-- Segments before Cleaned Text
------------------------------------------------------------

/- There is nothing to cut in an empty text. -/
theorem Cuts.eq_nil
    {cuts : List Segment}
    (hCuts : Cuts [] cuts []) :
    cuts = [] := by
  rw [cuts_iff_segments.mp hCuts, segments]

/- Cleaning puts nothing without blanks in front. -/
theorem Cuts.keepsFronts_cleaned
    {source : List Char}
    {cuts : List Segment}
    (hCuts : Cuts source cuts []) :
    KeepsFronts source (cuts.flatMap Segment.cleaned) := by
  induction cuts generalizing source with
  | nil => exact .of_head? (by simp) source
  | cons s cuts ih =>
      rw [List.flatMap_cons]
      cases hCuts with
      | next hNext hMore =>
          cases hNext.cleans with
          | faultless _ hSame _ =>
              rw [hSame]
              exact (ih hMore).append s.text
          | unexpected c _ hSegment =>
              refine .of_head? (fun d hHead => ?_) _
              rw [hSegment] at hHead
              rw [← Option.some.inj hHead]
              decide
          | isOpen _ _ _ hNone _ hNil =>
              subst hNil
              rw [hMore.eq_nil, hNone]
              exact .of_head? (by simp) _

/- A line feed in front stays there, and so does nothing. -/
theorem Cuts.cleaned_behind
    {source : List Char}
    {cuts : List Segment}
    (hCuts : Cuts source cuts [])
    (hBehind : source = [] ∨ source.head? = some '\n') :
    cuts.flatMap Segment.cleaned = [] ∨
      (cuts.flatMap Segment.cleaned).head? = some '\n' := by
  rcases hBehind with rfl | hHead
  · left
    rw [hCuts.eq_nil, List.flatMap_nil]
  · right
    rcases List.head?_eq_some_iff.mp hHead with ⟨more, rfl⟩
    rw [cuts_iff_segments.mp hCuts, segments_cons,
      Segment.first_of_mem_blanks (by decide)]
    rfl

/- Faultless segments stay next when the rest is cleaned. -/
theorem Segment.IsNext.before_cleaned
    {s : Segment}
    {more : List Char}
    {cuts : List Segment}
    (hNext : s.IsNext more)
    (hFaultless : s.IsFaultless)
    (hCuts : Cuts more cuts []) :
    s.IsNext (cuts.flatMap Segment.cleaned) := by
  have hKeeps := hCuts.keepsFronts_cleaned
  rcases hFaultless.cases with
    hLayout | ⟨kind, literal, hToken⟩
  · cases hNext with
    | blank hBlank => exact .blank hBlank
    | lineComment hBody hBehind =>
        exact .lineComment hBody
          (hCuts.cleaned_behind hBehind)
    | blockComment hBody => exact .blockComment hBody
    | _ => exact nomatch hLayout
  · exact hNext.of_keepsFronts hKeeps hToken

------------------------------------------------------------
-- Tokens of Cleaned Text
------------------------------------------------------------

/- A segment that is no token only counts its line feeds. -/
theorem tokensOn_cons_of_not_token
    {s : Segment}
    (hOther : ∀ kind literal, s.content ≠ .token kind literal)
    (line : Nat)
    (cuts : List Segment) :
    tokensOn line (s :: cuts) =
      tokensOn (line + s.lineFeeds) cuts := by
  have hNone : Placed.token? ⟨line, s⟩ = none := by
    cases hContent : s.content with
    | token kind literal =>
        exact absurd hContent (hOther kind literal)
    | _ =>
        simp only [Placed.token?, Segment.tokenOn?, hContent]
  rw [tokensOn, placed, List.filterMap_cons_none hNone]
  rfl

/- The blank that is put for an unexpected character. -/
def Segment.blank : Segment :=
  ⟨' ', [], .layout⟩

/- A blank does not change where the others are. -/
theorem tokensOn_blank
    (line : Nat)
    (cuts : List Segment) :
    tokensOn line (.blank :: cuts) = tokensOn line cuts :=
  tokensOn_cons_of_not_token (by simp [Segment.blank]) line
    cuts

/- Nor does an unexpected character. -/
theorem tokensOn_unexpected
    {c : Char}
    (hFeed : c ≠ '\n')
    (line : Nat)
    (cuts : List Segment) :
    tokensOn line
        (⟨c, [], .fault (.unexpectedCharacter c)⟩ :: cuts) =
      tokensOn line cuts := by
  have hNone :
      (⟨c, [], .fault (.unexpectedCharacter c)⟩ :
        Segment).lineFeeds = 0 := by
    simp [Segment.lineFeeds, Segment.text, hFeed]
  rw [tokensOn_cons_of_not_token (by simp), hNone,
    Nat.add_zero]

/- The same segment may come before the same tokens. -/
theorem tokensOn_cons_congr
    {cuts cuts' : List Segment}
    (hSame : ∀ line, tokensOn line cuts' = tokensOn line cuts)
    (s : Segment)
    (line : Nat) :
    tokensOn line (s :: cuts') = tokensOn line (s :: cuts) := by
  have hBehind := hSame (line + s.lineFeeds)
  rw [tokensOn] at hBehind ⊢
  rw [placed, List.filterMap_cons, hBehind, tokensOn,
    tokensOn, placed, List.filterMap_cons]

/-
  The text that is put for segments is cut without faults
  into their tokens.
-/
theorem Cuts.exists_cleaned
    {source : List Char}
    {cuts : List Segment}
    (hCuts : Cuts source cuts []) :
    ∃ cuts',
      Cuts (cuts.flatMap Segment.cleaned) cuts' [] ∧
      (∀ s ∈ cuts', s.IsFaultless) ∧
      ∀ line, tokensOn line cuts' = tokensOn line cuts := by
  induction cuts generalizing source with
  | nil => exact ⟨[], .done, by simp, fun _ => rfl⟩
  | cons s cuts ih =>
      rw [List.flatMap_cons]
      cases hCuts with
      | next hNext hMore =>
          rcases ih hMore with
            ⟨cuts', hCuts', hFaultless, hTokens⟩
          cases hNext.cleans with
          | faultless hSelf hSame _ =>
              have hNext' := hNext.before_cleaned hSelf hMore
              rw [hSame]
              exact ⟨s :: cuts', .next hNext' hCuts',
                List.forall_mem_cons.mpr ⟨hSelf, hFaultless⟩,
                tokensOn_cons_congr hTokens s⟩
          | unexpected c hFeed hSegment =>
              rw [hSegment]
              exact ⟨.blank :: cuts',
                .next (.blank (by decide)) hCuts',
                List.forall_mem_cons.mpr
                  ⟨by simp [Segment.IsFaultless, Segment.blank],
                    hFaultless⟩,
                fun line => by
                  rw [tokensOn_blank,
                    tokensOn_unexpected hFeed, hTokens]⟩
          | isOpen fault hFault _ hNone _ hNil =>
              subst hNil
              have hEnd := hMore.eq_nil
              subst hEnd
              rw [hNone]
              refine ⟨[], .done, by simp, fun line => ?_⟩
              rw [tokensOn_cons_of_not_token (by simp [hFault])]
              rfl

/- The line feeds of a source are kept or swallowed. -/
theorem Cuts.count_cleaned_add_swallowed
    {source : List Char}
    {cuts : List Segment}
    (hCuts : Cuts source cuts []) :
    (cuts.flatMap Segment.cleaned).count '\n' +
        (cuts.flatMap Segment.swallowed).count '\n' =
      source.count '\n' := by
  induction cuts generalizing source with
  | nil =>
      cases hCuts
      rfl
  | cons s cuts ih =>
      cases hCuts with
      | next hNext hMore =>
          have hBehind := ih hMore
          have hSelf :
              s.cleaned.count '\n' + s.swallowed.count '\n' =
                s.text.count '\n' := by
            cases hNext.cleans with
            | faultless _ hSame hNone => simp [hSame, hNone]
            | unexpected c hFeed hSegment =>
                rw [hSegment]
                simp [Segment.text, Segment.cleaned,
                  Segment.swallowed, hFeed]
            | isOpen _ _ _ hNone hSame _ =>
                simp [hSame, hNone]
          simp only [List.flatMap_cons, List.count_append]
          omega

/- What is swallowed is the end of the source. -/
theorem Cuts.swallowed_suffix
    {source : List Char}
    {cuts : List Segment}
    (hCuts : Cuts source cuts []) :
    cuts.flatMap Segment.swallowed <:+ source := by
  induction cuts generalizing source with
  | nil => exact List.nil_suffix
  | cons s cuts ih =>
      rw [List.flatMap_cons]
      cases hCuts with
      | next hNext hMore =>
          have hBehind := (ih hMore).trans
            (List.suffix_append s.text _)
          cases hNext.cleans with
          | faultless _ _ hNone => rwa [hNone]
          | unexpected c _ hSegment =>
              rwa [hSegment] at hBehind ⊢
          | isOpen _ _ _ _ hSame hNil =>
              subst hNil
              rw [hMore.eq_nil, hSame]
              exact List.suffix_refl _

------------------------------------------------------------
-- The Reports of a Source
------------------------------------------------------------

/- Only what is left open is told as unterminated. -/
theorem LexicalFault.isOpen_of_message
    {fault : LexicalFault}
    (hMessage :
      "Unterminated ".toList <+: fault.message.toList) :
    fault.IsOpen := by
  cases fault with
  | unterminatedComment => exact Or.inr rfl
  | unterminatedString => exact Or.inl rfl
  | invalidNumeral =>
      exact absurd hMessage (by simp [message])
  | unexpectedCharacter c =>
      exact absurd hMessage (by simp [message])

/- Nothing else is told as an invalid numeral. -/
theorem LexicalFault.eq_invalidNumeral_of_message
    {fault : LexicalFault}
    (hMessage : fault.message = "Invalid number literal.") :
    fault = .invalidNumeral := by
  cases fault <;> simp_all [message]

/- An open string or comment has nothing behind it. -/
theorem Segment.IsNext.eq_nil_of_isOpen
    {s : Segment}
    {more : List Char}
    (hNext : s.IsNext more)
    {fault : LexicalFault}
    (hFault : s.content = .fault fault)
    (hOpen : fault.IsOpen) :
    more = [] := by
  cases hNext.cleans with
  | faultless hFaultless _ _ =>
      exact absurd hFault (hFaultless fault)
  | unexpected c _ hSegment =>
      rw [hSegment] at hFault
      cases hFault
      rcases hOpen with hNone | hNone <;> exact nomatch hNone
  | isOpen _ _ _ _ _ hNil => exact hNil

/- Nothing is reported behind what is left open. -/
theorem eq_nil_of_isOpen
    {source : String}
    {before behind : List LexicalError}
    {e : LexicalError}
    (hErrors : (scan source).errors = before ++ e :: behind)
    (hOpen : e.fault.IsOpen) :
    behind = [] := by
  rw [errors_scan] at hErrors
  rcases List.filterMap_eq_append_iff.mp hErrors with
    ⟨front, more, hSplit, _, hMore⟩
  rcases List.filterMap_eq_cons_iff.mp hMore with
    ⟨clean, p, rest, rfl, _, hError, hRest⟩
  have hFault := ((p.error?_eq_some_iff e).mp hError).1
  have hCuts := cuts_segments source.toList
  rw [← map_segment_placed 1 (segments source.toList), hSplit,
    ← List.append_assoc, List.map_append, List.map_cons]
    at hCuts
  rcases hCuts.exists_of_append with
    ⟨text, _, hNext, hBehind⟩
  -- The segment of the fault has taken the whole rest, so
  -- there are no segments behind it.
  have hNil : text = [] := hNext.eq_nil_of_isOpen hFault hOpen
  subst hNil
  have hNone : rest = [] := List.map_eq_nil_iff.mp hBehind.eq_nil
  rw [← hRest, hNone, List.filterMap_nil]

/-
  No numeral is reported, since what follows a digit is
  always cut as a numeral that can be read.
-/
theorem fault_ne_invalidNumeral
    {source : String}
    {e : LexicalError}
    (hMem : e ∈ (scan source).errors) :
    e.fault ≠ .invalidNumeral := by
  intro hInvalid
  rw [errors_scan] at hMem
  rcases List.mem_filterMap.mp hMem with
    ⟨p, hPlaced, hError⟩
  have hFault := ((p.error?_eq_some_iff e).mp hError).1
  rcases exists_of_mem_placed hPlaced with
    ⟨front, behind, hSplit, _⟩
  have hCuts := cuts_segments source.toList
  rw [hSplit] at hCuts
  rcases hCuts.exists_of_append with ⟨more, _, hNext, _⟩
  rw [hInvalid] at hFault
  cases hNext.cleans with
  | faultless hFaultless _ _ => exact hFaultless _ hFault
  | unexpected c _ hSegment =>
      rw [hSegment] at hFault
      exact nomatch hFault
  | isOpen fault hOther hOpen _ _ _ =>
      rw [hOther] at hFault
      cases hFault
      rcases hOpen with hNone | hNone <;> exact nomatch hNone

------------------------------------------------------------
-- Errors Stay Where They Are
------------------------------------------------------------

/-
  A cleaned source is scanned without errors to the tokens of
  the source, but for the end, which is further up by the
  line feeds that an open string or comment has swallowed.
  What is swallowed is the end of the source.  Something
  unterminated is reported last, so at most once, and a
  numeral is never reported.
-/
theorem faults_stay_local (source : String) :
    (∃ tokens,
      let line := 1 + (cleaned source).toList.count '\n'
      let lost := (swallowed source).count '\n'
      (scan source).tokens =
          tokens ++ [.endOfInput (line + lost)] ∧
        scan (cleaned source) =
          ⟨tokens ++ [.endOfInput line], []⟩) ∧
      swallowed source <:+ source.toList ∧
      (∀ before d behind,
        (scan source).diagnostics = before ++ d :: behind →
          "Unterminated ".toList <+: d.message.toList →
            behind = []) ∧
      ∀ d ∈ (scan source).diagnostics,
        d.message ≠ "Invalid number literal." := by
  have hCuts := cuts_segments source.toList
  refine ⟨?_, hCuts.swallowed_suffix, ?_, ?_⟩
  · rcases hCuts.exists_cleaned with
      ⟨cuts', hCuts', hFaultless, hTokens⟩
    have hText : (cleaned source).toList =
        (segments source.toList).flatMap Segment.cleaned :=
      String.toList_ofList
    have hFeeds := hCuts.count_cleaned_add_swallowed
    rw [← hText] at hCuts' hFeeds
    refine ⟨tokensOn 1 (segments source.toList), ?_, ?_⟩
    · rw [tokens_scan, lineAfter_eq, flatMap_text_segments,
        ← hFeeds, Nat.add_assoc]
      rfl
    · rw [scan_of_cuts hCuts' hFaultless, hTokens,
        lineAfter_eq, ← List.append_nil (cuts'.flatMap _),
        hCuts'.flatMap_text_append]
  · intro before d behind hReports hMessage
    rcases List.map_eq_append_iff.mp hReports with
      ⟨front, more, hErrors, _, hMore⟩
    rcases List.map_eq_cons_iff.mp hMore with
      ⟨e, rest, rfl, rfl, hRest⟩
    have hOpen := LexicalFault.isOpen_of_message hMessage
    rw [← hRest, eq_nil_of_isOpen hErrors hOpen, List.map_nil]
  · intro d hMem hMessage
    rcases List.mem_map.mp hMem with ⟨e, hError, rfl⟩
    refine fault_ne_invalidNumeral hError ?_
    exact LexicalFault.eq_invalidNumeral_of_message hMessage

/-
  Behind an equals sign, a character that no token has and a
  string that is left open are taken out.  The sign stays.
-/
theorem faults_stay_local_equal :
    let source := "=@\"\n"
    cleaned source = "= " ∧
      (scan source).diagnostics =
        [⟨1, "", "Unexpected character."⟩] ++
          ⟨2, "", "Unterminated string."⟩ :: [] ∧
      "Unterminated ".toList <+:
        "Unterminated string.".toList ∧
      (scan source).tokens =
        [⟨.equal, "=", none, 1⟩] ++ [.endOfInput 2] ∧
      scan "= " =
        ⟨[⟨.equal, "=", none, 1⟩] ++ [.endOfInput 1], []⟩ ∧
      ∀ behind,
        (scan source).diagnostics =
            [⟨1, "", "Unexpected character."⟩] ++
              ⟨2, "", "Unterminated string."⟩ :: behind →
          behind = [] := by
  intro source
  let string : Segment :=
    ⟨'"', ['\n'], .fault .unterminatedString⟩
  have hString : string.IsNext [] := .openString (by decide)
  have hCuts : Cuts "=@\"\n".toList
      [⟨'=', [], .token .equal none⟩,
       ⟨'@', [], .fault (.unexpectedCharacter '@')⟩,
       string] [] :=
    .next (Segment.isNext_first '=' ['@', '"', '\n'])
      (.next (Segment.isNext_first '@' ['"', '\n'])
        (.next hString .done))
  have hSegments := cuts_iff_segments.mp hCuts
  have hScan : scan source =
      ⟨[⟨.equal, "=", none, 1⟩, .endOfInput 2],
        [⟨1, .unexpectedCharacter '@'⟩,
         ⟨2, .unterminatedString⟩]⟩ := by
    rw [scan_eq_of_cuts hCuts]
    rfl
  have hCleaned : cleaned source = "= " := by
    rw [cleaned, ← hSegments]
    rfl
  have hSwallowed : swallowed source = ['"', '\n'] := by
    rw [swallowed, ← hSegments]
    rfl
  have hMessage : "Unterminated ".toList <+:
      "Unterminated string.".toList :=
    ⟨"string.".toList, by simp⟩
  rcases faults_stay_local source with
    ⟨⟨tokens, hTokens, hClean⟩, _, hLast, _⟩
  rw [hScan, hCleaned, hSwallowed] at hTokens
  rw [hCleaned] at hClean
  have hFront : [⟨.equal, "=", none, 1⟩] = tokens := by
    simpa using congrArg List.dropLast hTokens
  rw [← hFront] at hClean
  refine ⟨hCleaned, ?_, hMessage, ?_, hClean, ?_⟩
  · rw [hScan]
    rfl
  · rw [hScan]
    rfl
  · intro behind hReports
    exact hLast _ _ behind hReports hMessage

end LoxExpr
