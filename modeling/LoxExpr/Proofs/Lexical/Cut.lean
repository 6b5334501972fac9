import LoxExpr.Proofs.Lexical.Placed

/-
  This file shows that a source has exactly one cut into
  segments, that nothing is lost by it, and that scanning
  lists its tokens and errors.

  Main statements:
    * `segments_of_cuts`
    * `scan_lists_only_cut`
-/

namespace LoxExpr

------------------------------------------------------------
-- Cuts and Segments
------------------------------------------------------------

namespace Cuts

/- Nothing is lost by cutting. -/
theorem flatMap_text_append
    {source rest : List Char}
    {cuts : List Segment}
    (hCuts : Cuts source cuts rest) :
    cuts.flatMap Segment.text ++ rest = source := by
  induction hCuts with
  | done => rfl
  | @next s more cuts rest _ _ ih =>
      rw [List.flatMap_cons, List.append_assoc, ih]

/- A cut goes on where another one has stopped. -/
theorem append
    {source middle rest : List Char}
    {cuts cuts' : List Segment}
    (hCuts : Cuts source cuts middle)
    (hCuts' : Cuts middle cuts' rest) :
    Cuts source (cuts ++ cuts') rest := by
  induction hCuts with
  | done => exact hCuts'
  | next hNext _ ih => exact .next hNext (ih hCuts')

end Cuts

/- The segments behind one that is next. -/
theorem segments_of_isNext
    {s : Segment}
    {more : List Char}
    (hNext : Segment.IsNext s more) :
    segments (s.text ++ more) = s :: segments more := by
  have hFirst := Segment.first_of_isNext hNext
  rw [Segment.text, List.cons_append, segments_cons, hFirst,
    List.drop_left]

/- The segments of a source begin with any cut of its front. -/
theorem segments_of_cuts
    {source rest : List Char}
    {cuts : List Segment}
    (hCuts : Cuts source cuts rest) :
    segments source = cuts ++ segments rest := by
  induction hCuts with
  | done => rfl
  | next hNext _ ih =>
      rw [segments_of_isNext hNext, ih, List.cons_append]

/- The segments of a source are a cut of it. -/
theorem cuts_segments (source : List Char) :
    Cuts source (segments source) [] := by
  fun_induction segments source with
  | case1 => exact .done
  | case2 c rest s ih =>
      have hText : s.text ++ rest.drop s.tail.length =
          c :: rest := by
        rw [Segment.text, Segment.head_first,
          List.cons_append,
          drop_length_of_prefix
            (Segment.tail_first_prefix c rest)]
      have hCuts :=
        Cuts.next (Segment.isNext_first c rest) ih
      rwa [hText] at hCuts

/- A source has no other cut than its segments. -/
theorem cuts_iff_segments
    {source : List Char}
    {cuts : List Segment} :
    Cuts source cuts [] ↔ cuts = segments source := by
  constructor
  · intro hCuts
    rw [segments_of_cuts hCuts, segments, List.append_nil]
  · rintro rfl
    exact cuts_segments source

------------------------------------------------------------
-- Listings
------------------------------------------------------------

/- What is placed on lines is a listing. -/
theorem lists_placed
    (line : Nat)
    (cuts : List Segment) :
    Lists line cuts
      (tokensOn line cuts ++
        [.endOfInput (lineAfter line cuts)])
      (errorsOn line cuts) := by
  induction cuts generalizing line with
  | nil => exact .done
  | cons s cuts ih =>
      have hRest := ih (line + s.lineFeeds)
      rw [tokensOn, errorsOn, filterMap_placed_cons,
        filterMap_placed_cons, lineAfter, List.append_assoc]
      simp only [Placed.token?, Placed.error?,
        Segment.tokenOn?, Segment.errorOn?]
      cases hContent : s.content with
      | layout => exact Lists.layout hContent hRest
      | token kind literal =>
          exact Lists.token hContent hRest
      | fault fault => exact Lists.fault hContent hRest

/-
  A source has exactly one cut, which loses nothing, and
  scanning lists the tokens and the errors of that cut.
-/
theorem scan_lists_only_cut (source : String) :
    ∃ cuts, Cuts source.toList cuts [] ∧
      (∀ cuts', Cuts source.toList cuts' [] →
        cuts' = cuts) ∧
      cuts.flatMap Segment.text = source.toList ∧
      Lists 1 cuts (scan source).tokens
        (scan source).errors ∧
      (scan source).diagnostics =
        (scan source).errors.map fun e =>
          ⟨e.line, "", e.message⟩ := by
  have hCuts := cuts_segments source.toList
  rw [tokens_scan, errors_scan]
  refine ⟨_, hCuts, ?_, ?_, lists_placed 1 _, ?_⟩
  · intro cuts' hCuts'
    exact cuts_iff_segments.mp hCuts'
  · simpa using hCuts.flatMap_text_append
  · rw [Scan.diagnostics, errors_scan]
    rfl

end LoxExpr
