import LoxExpr.Proofs.Lexical.Listing
import LoxExpr.Proofs.RoundTrip.Rendering

/-
  This file is about the layout between the tokens of a
  source.  Whatever layout is put around them, if it begins
  with a blank, the tokens stay the same but for their lines.

  Key definitions include:
    * `IsFilling`
    * `IsGap`
    * `Respaces`
    * `IsRespaced`
    * `ScansTo`

  Main statements:
    * `Segment.IsNext.of_keepsFronts`
    * `Respaces.scansTo`
    * `IsRespaced.scan`
-/

namespace LoxExpr

------------------------------------------------------------
-- Gaps
------------------------------------------------------------

/-
  A text of blanks, comments up to the end of a line with the
  line feed, and closed block comments.
-/
inductive IsFilling : List Char → Prop where
| done : IsFilling []
| blank {c more} :
    c ∈ blanks →
    IsFilling more →
    IsFilling (c :: more)
| lineComment {body more} :
    '\n' ∉ body →
    IsFilling more →
    IsFilling ('/' :: '/' :: (body ++ '\n' :: more))
| blockComment {body more} :
    ¬ HoldsClose (body ++ ['*']) →
    IsFilling more →
    IsFilling
      ('/' :: '*' :: (body ++ '*' :: '/' :: more))

/-
  What may be put before or behind a token: nothing, or a
  filling that begins with a blank.
-/
def IsGap (text : List Char) : Prop :=
  text = [] ∨
    IsFilling text ∧ ∃ c ∈ blanks, text.head? = some c

/-
  A text that has segments in their order, with gaps before
  and behind those that are tokens.
-/
inductive Respaces : List Segment → List Char → Prop where
| done : Respaces [] []
| other {s cuts text} :
    (∀ kind literal, s.content ≠ .token kind literal) →
    Respaces cuts text →
    Respaces (s :: cuts) (s.text ++ text)
| token {s kind literal before behind cuts text} :
    s.content = .token kind literal →
    IsGap before →
    IsGap behind →
    Respaces cuts text →
    Respaces (s :: cuts)
      (before ++ (s.text ++ (behind ++ text)))

/-
  A source with gaps put in at its start, and before and
  behind its tokens.
-/
def IsRespaced (source source' : String) : Prop :=
  ∃ start text, IsGap start ∧
    Respaces (segments source.toList) text ∧
    source'.toList = start ++ text

/- Every gap is a filling. -/
theorem IsGap.isFilling
    {text : List Char}
    (h : IsGap text) :
    IsFilling text := by
  rcases h with rfl | ⟨hFilling, _⟩
  · exact .done
  · exact hFilling

------------------------------------------------------------
-- Fronts without Blanks
------------------------------------------------------------

/-
  A text begins with no piece without blanks that another
  text does not begin with.
-/
def KeepsFronts (rest rest' : List Char) : Prop :=
  ∀ v, v <+: rest' → (∀ c ∈ v, c ∉ blanks) → v <+: rest

namespace KeepsFronts

/- The same characters may be put before both texts. -/
theorem append
    {rest rest' : List Char}
    (h : KeepsFronts rest rest')
    (w : List Char) :
    KeepsFronts (w ++ rest) (w ++ rest') := by
  intro v hPrefix hBlank
  rcases List.prefix_or_prefix_of_prefix hPrefix
      (List.prefix_append w rest') with hShort | hLong
  · exact hShort.trans (List.prefix_append w rest)
  · rcases hLong with ⟨more, rfl⟩
    rw [List.prefix_append_right_inj] at hPrefix ⊢
    apply h more hPrefix
    intro c hMem
    exact hBlank c (List.mem_append_right w hMem)

/- No piece without blanks is in front of a blank. -/
theorem of_head?
    {rest' : List Char}
    (hHead : ∀ c, rest'.head? = some c → c ∈ blanks)
    (rest : List Char) :
    KeepsFronts rest rest' := by
  intro v hPrefix hNone
  cases v with
  | nil => exact List.nil_prefix
  | cons c v =>
      rcases hPrefix with ⟨behind, rfl⟩
      exact absurd (hHead c rfl) (hNone c List.mem_cons_self)

/- A gap is no piece that has no blanks. -/
theorem gap
    {rest rest' gap : List Char}
    (h : KeepsFronts rest rest')
    (hGap : IsGap gap) :
    KeepsFronts rest (gap ++ rest') := by
  rcases hGap with rfl | ⟨_, c, hBlank, hHead⟩
  · exact h
  · refine of_head? (fun d hFirst => ?_) rest
    rw [List.head?_append, hHead, Option.some_or] at hFirst
    exact Option.some.inj hFirst ▸ hBlank

/- Longest pieces stay the longest, if they have no blanks. -/
theorem isLongest
    {rest rest' : List Char}
    (h : KeepsFronts rest rest')
    {piece : List Char → Prop}
    (hPieces : ∀ v, piece v → ∀ c ∈ v, c ∉ blanks)
    {w : List Char}
    (hLongest : IsLongest piece w rest) :
    IsLongest piece w rest' := by
  refine ⟨hLongest.1, ?_⟩
  intro v hPrefix hPiece
  exact hLongest.2 v
    (h.append w v hPrefix (hPieces v hPiece)) hPiece

/- Nothing but what has been there opens a comment. -/
theorem opensComment
    {text text' : List Char}
    (h : KeepsFronts text text')
    (hOpens : OpensComment text') :
    OpensComment text := by
  rcases hOpens with hLine | hBlock
  · exact Or.inl (h _ hLine (by simp [blanks]))
  · exact Or.inr (h _ hBlock (by simp [blanks]))

end KeepsFronts

------------------------------------------------------------
-- Tokens before Another Rest
------------------------------------------------------------

/-
  A token stays the next one before another rest, if the
  other rest begins with nothing new that has no blanks.
-/
theorem Segment.IsNext.of_keepsFronts
    {s : Segment}
    {rest rest' : List Char}
    (hNext : s.IsNext rest)
    (hKeeps : KeepsFronts rest rest')
    {kind : Kind}
    {literal : Option Literal}
    (hContent : s.content = .token kind literal) :
    s.IsNext rest' := by
  cases hNext with
  | string hBody => exact .string hBody
  | numeral hLongest =>
      exact .numeral
        (hKeeps.isLongest
          (fun _ h => h.not_mem_blanks) hLongest)
  | word hLongest hKind =>
      exact .word
        (hKeeps.isLongest
          (fun _ h => h.not_mem_blanks) hLongest) hKind
  | @operator c tail _ _ hEntry hLongest hComment =>
      refine .operator hEntry
        (hKeeps.isLongest
          (fun _ => not_mem_blanks_of_operator) hLongest) ?_
      intro hOpens
      exact hComment
        ((hKeeps.append (c :: tail)).opensComment hOpens)
  | _ => exact nomatch hContent

/- Gaps around tokens put nothing without blanks in front. -/
theorem Respaces.keepsFronts
    {cuts : List Segment}
    {text : List Char}
    (h : Respaces cuts text) :
    KeepsFronts (cuts.flatMap Segment.text) text := by
  induction h with
  | done =>
      intro v hPrefix _
      exact hPrefix
  | @other s cuts text _ _ ih =>
      rw [List.flatMap_cons]
      exact ih.append s.text
  | @token s _ _ before behind cuts text _ hBefore hBehind
      _ ih =>
      rw [List.flatMap_cons]
      exact ((ih.gap hBehind).append s.text).gap hBefore

------------------------------------------------------------
-- Tokens without Lines
------------------------------------------------------------

/- The token of a segment, on no particular line. -/
def Segment.token? (s : Segment) : Option Token :=
  s.tokenOn? 0

theorem Segment.map_offLine_tokenOn?
    (s : Segment)
    (line : Nat) :
    (s.tokenOn? line).map Token.offLine = s.token? := by
  unfold token? tokenOn?
  cases s.content <;> rfl

/- The tokens of cuts are those of the segments, on lines. -/
theorem map_offLine_tokensOn
    (line : Nat)
    (cuts : List Segment) :
    (tokensOn line cuts).map Token.offLine =
      cuts.filterMap Segment.token? := by
  induction cuts generalizing line with
  | nil => rfl
  | cons s cuts ih =>
      have hRest := ih (line + s.lineFeeds)
      have hFirst := s.map_offLine_tokenOn? line
      rw [tokensOn] at hRest ⊢
      rw [filterMap_placed_cons, List.map_append, hRest,
        List.filterMap_cons, ← hFirst, Placed.token?]
      cases s.tokenOn? line <;> rfl

/- Segments are faultless if nothing is reported. -/
theorem isFaultless_of_diagnostics
    {source : String}
    (hClean : (scan source).diagnostics = []) :
    ∀ s ∈ segments source.toList, s.IsFaultless := by
  intro s hMem fault hFault
  rcases exists_error_of_fault hMem hFault 1 with
    ⟨e, hError, _⟩
  rw [← errors_scan, List.map_eq_nil_iff.mp hClean] at hError
  exact nomatch hError

/-
  A text is cut without faults, and its tokens are the given
  ones, but for their lines.
-/
def ScansTo
    (text : List Char)
    (tokens : List Token) : Prop :=
  ∃ cuts, Cuts text cuts [] ∧
    (∀ s ∈ cuts, s.IsFaultless) ∧
    cuts.filterMap Segment.token? = tokens

namespace ScansTo

variable {text : List Char}
variable {tokens : List Token}

/- A segment that is next comes before the others. -/
theorem next
    {cuts : List Segment}
    (h : ScansTo text (cuts.filterMap Segment.token?))
    {s : Segment}
    (hNext : s.IsNext text)
    (hFaultless : s.IsFaultless) :
    ScansTo (s.text ++ text)
      ((s :: cuts).filterMap Segment.token?) := by
  rcases h with ⟨cuts', hCuts, hOthers, hTokens⟩
  refine ⟨s :: cuts', .next hNext hCuts, ?_, ?_⟩
  · rw [List.forall_mem_cons]
    exact ⟨hFaultless, hOthers⟩
  · rw [List.filterMap_cons, List.filterMap_cons, hTokens]

/- Layout that is next changes no tokens. -/
theorem layout
    (h : ScansTo text tokens)
    {c : Char}
    {tail : List Char}
    (hNext : Segment.IsNext ⟨c, tail, .layout⟩ text) :
    ScansTo (c :: (tail ++ text)) tokens := by
  rcases h with ⟨cuts, hCuts, hFaultless, rfl⟩
  have h : ScansTo text (cuts.filterMap Segment.token?) :=
    ⟨cuts, hCuts, hFaultless, rfl⟩
  exact h.next hNext (by simp [Segment.IsFaultless])

/- A filling changes no tokens. -/
theorem filling
    (h : ScansTo text tokens)
    {gap : List Char}
    (hFilling : IsFilling gap) :
    ScansTo (gap ++ text) tokens := by
  induction hFilling with
  | done => exact h
  | blank hBlank _ ih => exact ih.layout (.blank hBlank)
  | @lineComment body more hBody _ ih =>
      have hFeed := ih.layout (.blank (c := '\n') (by decide))
      simpa using
        hFeed.layout (.lineComment hBody (Or.inr rfl))
  | @blockComment body more hBody _ ih =>
      simpa using ih.layout (.blockComment hBody)

/- A text that scans to tokens is scanned to them. -/
theorem scan
    {source : String}
    (h : ScansTo source.toList tokens) :
    (scan source).diagnostics = [] ∧
      (scan source).tokens.map Token.offLine =
        tokens ++ [.endOfInput 0] := by
  rcases h with ⟨cuts, hCuts, hFaultless, rfl⟩
  rw [scan_of_cuts hCuts hFaultless]
  refine ⟨rfl, ?_⟩
  rw [List.map_append, map_offLine_tokensOn]
  rfl

end ScansTo

/- A source without reports scans to its tokens. -/
theorem scansTo_of_diagnostics
    {source : String}
    (hClean : (scan source).diagnostics = []) :
    ScansTo source.toList
      ((segments source.toList).filterMap
        Segment.token?) := by
  exact ⟨_, cuts_segments _,
    isFaultless_of_diagnostics hClean, rfl⟩

------------------------------------------------------------
-- Layout between the Gaps
------------------------------------------------------------

/- Where nothing was, nothing is put. -/
theorem Respaces.eq_nil
    {cuts : List Segment}
    {text : List Char}
    (h : Respaces cuts text)
    (hCuts : Cuts [] cuts []) :
    text = [] := by
  rw [cuts_iff_segments.mp hCuts, segments] at h
  cases h
  rfl

/- A line feed in front stays in front. -/
theorem Respaces.head?_lineFeed
    {source : List Char}
    {cuts : List Segment}
    {text : List Char}
    (h : Respaces cuts text)
    (hCuts : Cuts source cuts [])
    (hHead : source.head? = some '\n') :
    text.head? = some '\n' := by
  rcases List.head?_eq_some_iff.mp hHead with ⟨more, rfl⟩
  rw [cuts_iff_segments.mp hCuts, segments_cons,
    Segment.first_of_mem_blanks (by decide)] at h
  cases h with
  | other => rfl
  | token hContent => exact nomatch hContent

/- A faultless segment is layout or a token. -/
theorem Segment.IsFaultless.cases
    {s : Segment}
    (h : s.IsFaultless) :
    s.content = .layout ∨
      ∃ kind literal, s.content = .token kind literal := by
  cases hContent : s.content with
  | layout => exact Or.inl rfl
  | token kind literal => exact Or.inr ⟨_, _, rfl⟩
  | fault fault => exact absurd hContent (h fault)

/- Layout stays next when gaps are put in behind it. -/
theorem Segment.IsNext.layout_of_respaces
    {s : Segment}
    {more text : List Char}
    {cuts : List Segment}
    (hNext : s.IsNext more)
    (hContent : s.content = .layout)
    (hCuts : Cuts more cuts [])
    (hText : Respaces cuts text) :
    s.IsNext text := by
  cases hNext with
  | blank hBlank => exact .blank hBlank
  | lineComment hBody hBehind =>
      refine .lineComment hBody ?_
      rcases hBehind with rfl | hHead
      · exact Or.inl (hText.eq_nil hCuts)
      · exact Or.inr (hText.head?_lineFeed hCuts hHead)
  | blockComment hBody => exact .blockComment hBody
  | _ => exact nomatch hContent

------------------------------------------------------------
-- Scanning with Other Gaps
------------------------------------------------------------

/- Gaps around tokens leave the tokens as they are. -/
theorem Respaces.scansTo
    {source : List Char}
    {cuts : List Segment}
    {text : List Char}
    (h : Respaces cuts text)
    (hCuts : Cuts source cuts [])
    (hFaultless : ∀ s ∈ cuts, s.IsFaultless) :
    ScansTo text (cuts.filterMap Segment.token?) := by
  induction h generalizing source with
  | done => exact ⟨[], .done, hFaultless, rfl⟩
  | @other s cuts text hOther hText ih =>
      cases hCuts with
      | next hNext hMore =>
          rw [List.forall_mem_cons] at hFaultless
          rcases hFaultless with ⟨hFirst, hRest⟩
          have hLayout : s.content = .layout := by
            rcases hFirst.cases with
              hLayout | ⟨kind, literal, hToken⟩
            · exact hLayout
            · exact absurd hToken (hOther kind literal)
          exact (ih hMore hRest).next
            (hNext.layout_of_respaces hLayout hMore hText)
            hFirst
  | @token s kind literal before behind cuts text hToken
      hBefore hBehind hText ih =>
      cases hCuts with
      | next hNext hMore =>
          rw [List.forall_mem_cons] at hFaultless
          rcases hFaultless with ⟨hFirst, hRest⟩
          -- What is behind the token now begins with nothing
          -- that could have made it longer.
          have hKeeps := hText.keepsFronts.gap hBehind
          rw [← List.append_nil (cuts.flatMap _),
            hMore.flatMap_text_append] at hKeeps
          have hNext' := hNext.of_keepsFronts hKeeps hToken
          have hFilled :=
            (ih hMore hRest).filling hBehind.isFilling
          have hTokens := hFilled.next hNext' hFirst
          exact hTokens.filling hBefore.isFilling

/-
  A source with gaps put in is scanned to the same tokens on
  other lines, if there was nothing to report.
-/
theorem IsRespaced.scan
    {source source' : String}
    (h : IsRespaced source source')
    (hClean : (scan source).diagnostics = []) :
    (LoxExpr.scan source').diagnostics = [] ∧
      (LoxExpr.scan source').tokens.map Token.offLine =
        (LoxExpr.scan source).tokens.map Token.offLine := by
  rcases h with ⟨start, text, hStart, hText, hSource⟩
  have hScans := hText.scansTo (cuts_segments _)
    (isFaultless_of_diagnostics hClean)
  have hFilled := hScans.filling hStart.isFilling
  rw [← hSource] at hFilled
  rw [(scansTo_of_diagnostics hClean).scan.2]
  exact hFilled.scan

end LoxExpr
