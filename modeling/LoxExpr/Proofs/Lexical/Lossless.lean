import LoxExpr.Lexical.Segment

/-
  This file cuts a whole source into segments, and shows that
  nothing is lost: every segment is the front of what is left
  of the source, so the segments joined are the source.

  Key definitions include:
    * `segments`

  Main statements:
    * `Segment.tail_first_prefix`
    * `flatMap_text_segments`
-/

namespace LoxExpr

namespace Segment

------------------------------------------------------------
-- Segments Are at the Front
------------------------------------------------------------

/- A comment that is closed is at the front. -/
theorem throughClose?_prefix
    {source body : List Char}
    (hBody : throughClose? source = some body) :
    body <+: source := by
  fun_induction throughClose? source generalizing body with
  | case1 => simp at hBody
  | case2 =>
      have hEq := Option.some.inj hBody
      subst hEq
      simp
  | case3 c rest _ ih =>
      rcases Option.map_eq_some_iff.mp hBody with
        ⟨more, hMore, rfl⟩
      simpa using ih hMore

/- The segment of a slash is at the front. -/
theorem tail_slash_prefix (rest : List Char) :
    (slash rest).tail <+: rest := by
  unfold slash
  split
  · simpa using List.takeWhile_prefix _
  · split
    · rename_i hBody
      simpa using throughClose?_prefix hBody
    · exact List.prefix_refl _
  · exact List.nil_prefix

/- The text before the first quote and the quote itself. -/
theorem takeWhile_quote_prefix
    {rest : List Char}
    (hQuote : '"' ∈ rest) :
    (rest.takeWhile fun c => c != '"') ++ ['"'] <+:
      rest := by
  induction rest with
  | nil => simp at hQuote
  | cons c rest ih =>
      by_cases hc : c = '"'
      · simp [hc]
      · have hRest : '"' ∈ rest := by
          simpa [Ne.symm hc] using hQuote
        simpa [hc] using ih hRest

/- The segment of a double quote is at the front. -/
theorem tail_string_prefix (rest : List Char) :
    (string rest).tail <+: rest := by
  unfold string
  split
  · rename_i hQuote
    exact takeWhile_quote_prefix hQuote
  · exact List.prefix_refl _

/- The digits of a numeral are at the front. -/
theorem numeralTail_prefix (rest : List Char) :
    numeralTail rest <+: rest := by
  unfold numeralTail
  dsimp only
  split
  · rename_i more hMore
    split
    · exact List.takeWhile_prefix _
    · have hRest :
          rest.takeWhile Char.isDigit ++ '.' :: more =
            rest := by
        rw [← hMore]
        exact List.takeWhile_append_dropWhile
      conv => rhs; rw [← hRest]
      rw [List.prefix_append_right_inj]
      simpa using List.takeWhile_prefix _
  · exact List.takeWhile_prefix _

/- The segment of a digit is at the front. -/
theorem tail_numeral_prefix
    (c : Char)
    (rest : List Char) :
    (numeral c rest).tail <+: rest := by
  unfold numeral
  dsimp only
  split
  · exact numeralTail_prefix rest
  · exact numeralTail_prefix rest

/- An operator or a faulty character is at the front. -/
theorem tail_symbol_prefix
    (c : Char)
    (rest : List Char) :
    (symbol c rest).tail <+: rest := by
  unfold symbol
  split
  · split
    · cases rest <;> simp_all
    · exact List.nil_prefix
  · split <;> exact List.nil_prefix

/- The next segment is at the front. -/
theorem tail_first_prefix
    (c : Char)
    (rest : List Char) :
    (first c rest).tail <+: rest := by
  unfold first
  split
  · exact List.nil_prefix
  split
  · exact tail_slash_prefix rest
  split
  · exact tail_string_prefix rest
  split
  · exact tail_numeral_prefix c rest
  split
  · exact List.takeWhile_prefix _
  · exact tail_symbol_prefix c rest

/- The next segment begins with the next character. -/
theorem head_first
    (c : Char)
    (rest : List Char) :
    (first c rest).head = c := by
  unfold first slash string numeral word symbol
  grind

end Segment

------------------------------------------------------------
-- Cutting a Source
------------------------------------------------------------

/- The segments of a source, from left to right. -/
def segments : List Char → List Segment
| [] => []
| c :: rest =>
    let s := Segment.first c rest
    s :: segments (rest.drop s.tail.length)
termination_by source => source.length
decreasing_by
  simp only [List.length_drop, List.length_cons]
  omega

/- The first segment of a source, and those behind it. -/
theorem segments_cons
    (c : Char)
    (rest : List Char) :
    segments (c :: rest) =
      Segment.first c rest ::
        segments
          (rest.drop (Segment.first c rest).tail.length) := by
  rw [segments]

/- The segments of a source joined are the source. -/
theorem flatMap_text_segments (source : List Char) :
    (segments source).flatMap Segment.text = source := by
  fun_induction segments source with
  | case1 => rfl
  | case2 c rest s ih =>
      have hRest :=
        List.prefix_iff_eq_append.mp
          (Segment.tail_first_prefix c rest)
      rw [List.flatMap_cons, ih, Segment.text,
        Segment.head_first, List.cons_append, hRest]

end LoxExpr
