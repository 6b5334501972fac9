import LoxExpr.Proofs.Lexical.First

/-
  This file says which segments are next before a rest of
  which only the first character is known.

  Main statements:
    * `Segment.isNext_numeral`
    * `Segment.isNext_word`
    * `Segment.isNext_punctuation`
    * `Segment.isNext_operator`
-/

namespace LoxExpr

namespace Segment

/- A numeral before neither a digit nor a point is next. -/
theorem isNext_numeral
    {c : Char}
    {tail rest : List Char}
    (hNumeral : IsNumeral (c :: tail))
    (hHead :
      ∀ d, rest.head? = some d →
        ¬ (d.isDigit = true ∨ d = '.')) :
    IsNext
      ⟨c, tail,
        .token .number
          (some (.number (Numeral.value (c :: tail))))⟩
      rest := by
  apply IsNext.numeral
  exact isLongest_of_head?
    (fun v hPiece => hPiece.isDigit_or_point) hNumeral hHead

/- A word before neither a letter nor a number is next. -/
theorem isNext_word
    {c : Char}
    {tail rest : List Char}
    {kind : Kind}
    (hWord : IsWord (c :: tail))
    (hKind : IsWordKind (String.ofList (c :: tail)) kind)
    (hHead :
      ∀ d, rest.head? = some d →
        ¬ (Text.isAlphabetic d = true ∨
          Text.isNumeric d = true)) :
    IsNext ⟨c, tail, .token kind none⟩ rest := by
  refine IsNext.word ?_ hKind
  exact isLongest_of_head?
    (fun v hPiece => hPiece.continues) hWord hHead

/- A token of a single character is always next. -/
theorem isNext_punctuation
    {c : Char}
    {kind : Kind}
    (hKind : punctuation? c = some kind)
    (rest : List Char) :
    IsNext ⟨c, [], .token kind none⟩ rest := by
  have hEntry := mem_operatorLexemes_of_punctuation? hKind
  have hAlone := equalsPair?_of_punctuation? hKind
  exact IsNext.operator hEntry
    (isLongest_operator ⟨_, hEntry⟩ (Or.inl hAlone.1))
    (not_opensComment hAlone.2 _)

/- An operator before an opening parenthesis is next. -/
theorem isNext_operator
    {c : Char}
    {tail rest : List Char}
    {kind : Kind}
    (hEntry : (c :: tail, kind) ∈ operatorLexemes)
    (hHead : rest.head? = some '(') :
    IsNext ⟨c, tail, .token kind none⟩ rest := by
  cases isOperator_of_mem hEntry with
  | slash =>
      refine IsNext.operator hEntry
        (isLongest_operator ⟨_, hEntry⟩ (Or.inl rfl)) ?_
      rw [List.nil_append, opensComment_slash_iff, hHead]
      decide
  | alone hPair =>
      refine IsNext.operator hEntry
        (isLongest_operator ⟨_, hEntry⟩ (Or.inr ?_))
        (not_opensComment ?_ _)
      · rw [hHead]
        decide
      · rintro rfl
        simp [equalsPair?] at hPair
  | withEquals hPair =>
      refine IsNext.operator hEntry
        (isLongest_operator_equals hEntry rest)
        (not_opensComment ?_ _)
      rintro rfl
      simp [equalsPair?] at hPair
  | punctuation hKind => exact isNext_punctuation hKind rest

end Segment

end LoxExpr
