import LoxExpr.Proofs.Lexical.Longest

/-
  This file relates the function that cuts the next segment
  to the lexical grammar: the segment that it cuts is next,
  and nothing else is.

  Main statements:
    * `Segment.isNext_first`
    * `Segment.first_of_isNext`
-/

namespace LoxExpr

------------------------------------------------------------
-- Classes of Characters
------------------------------------------------------------

theorem isLayout_iff (c : Char) :
    Segment.isLayout c = true ↔ c ∈ blanks := by
  simp [Segment.isLayout, blanks, or_assoc]

/- Digits are no letters. -/
theorem isAlphabetic_of_isDigit
    {c : Char}
    (hDigit : c.isDigit = true) :
    Text.isAlphabetic c = false := by
  have hRange : 48 ≤ c.toNat ∧ c.toNat ≤ 57 := by
    simpa [Char.isDigit, UInt32.le_iff_toNat_le]
      using hDigit
  have hSmall : c.toNat < 0x80 := by omega
  have hAlpha :
      c.isAlpha =
        (decide (c.val ≥ 'A'.val ∧ c.val ≤ 'Z'.val) ||
          (decide (c.val ≥ 'a'.val) &&
            decide (c.val ≤ 'z'.val))) := rfl
  rw [Text.isAlphabetic, if_pos hSmall, hAlpha]
  simp [UInt32.le_iff_toNat_le]
  omega

/- Blanks and quotes are neither letters nor digits. -/
theorem classes_of_mem_blanks
    {c : Char}
    (hBlank : c ∈ '"' :: blanks) :
    c ≠ '/' ∧ c.isDigit = false ∧
      Text.isAlphabetic c = false := by
  simp only [blanks, List.mem_cons, List.not_mem_nil,
    or_false] at hBlank
  rcases hBlank with rfl | rfl | rfl | rfl | rfl <;> decide

/-
  The characters that begin an operator are no blanks, no
  quotes, no digits and no letters.
-/
theorem classes_of_mem_operatorLexemes
    {c : Char}
    {tail : List Char}
    {kind : Kind}
    (hEntry : (c :: tail, kind) ∈ operatorLexemes) :
    c ∉ '"' :: blanks ∧ c.isDigit = false ∧
      Text.isAlphabetic c = false := by
  have hAll : ∀ entry ∈ operatorLexemes,
      entry.1.headD '/' ∉ '"' :: blanks ∧
        (entry.1.headD '/').isDigit = false ∧
          Text.isAlphabetic (entry.1.headD '/') = false := by
    decide
  exact hAll _ hEntry

/- A digit or a point is no blank. -/
theorem IsNumeral.not_mem_blanks
    {w : List Char}
    (hNumeral : IsNumeral w) :
    ∀ c ∈ w, c ∉ blanks := by
  intro c hMem hBlank
  rcases hNumeral.isDigit_or_point c hMem with
    hDigit | rfl
  · have hClasses :=
      classes_of_mem_blanks (List.mem_cons_of_mem _ hBlank)
    simp [hClasses.2.1] at hDigit
  · simp [blanks] at hBlank

/- No blank counts as a number. -/
theorem isNumeric_of_mem_blanks
    {c : Char}
    (hBlank : c ∈ blanks) :
    Text.isNumeric c = false := by
  simp only [blanks, List.mem_cons, List.not_mem_nil,
    or_false] at hBlank
  rcases hBlank with rfl | rfl | rfl | rfl <;> decide

/- A letter or a number is no blank. -/
theorem IsWord.not_mem_blanks
    {w : List Char}
    (hWord : IsWord w) :
    ∀ c ∈ w, c ∉ blanks := by
  intro c hMem hBlank
  rcases hWord.continues c hMem with hLetter | hNumber
  · have hClasses :=
      classes_of_mem_blanks (List.mem_cons_of_mem _ hBlank)
    simp [hClasses.2.2] at hLetter
  · simp [isNumeric_of_mem_blanks hBlank] at hNumber

/- Operators have no blanks. -/
theorem not_mem_blanks_of_operator
    {w : List Char}
    (hEntry : ∃ kind, (w, kind) ∈ operatorLexemes) :
    ∀ c ∈ w, c ∉ blanks := by
  have hAll : ∀ entry ∈ operatorLexemes,
      ∀ c ∈ entry.1, c ∉ blanks := by
    simp [operatorLexemes, blanks]
  rcases hEntry with ⟨kind, hEntry⟩
  exact hAll _ hEntry

------------------------------------------------------------
-- The First Character Decides
------------------------------------------------------------

namespace Segment

theorem first_of_mem_blanks
    {c : Char}
    (hBlank : c ∈ blanks)
    (rest : List Char) :
    first c rest = ⟨c, [], .layout⟩ := by
  rw [first, if_pos ((isLayout_iff c).mpr hBlank)]

theorem first_slash (rest : List Char) :
    first '/' rest = slash rest := rfl

theorem first_quote (rest : List Char) :
    first '"' rest = string rest := rfl

theorem first_of_isDigit
    {c : Char}
    (hDigit : c.isDigit = true)
    (rest : List Char) :
    first c rest = numeral c rest := by
  have hLayout : isLayout c ≠ true := by
    rw [ne_eq, isLayout_iff]
    intro hBlank
    have hClasses :=
      classes_of_mem_blanks (List.mem_cons_of_mem _ hBlank)
    simp [hDigit] at hClasses
  have hSlash : c ≠ '/' := by
    rintro rfl
    exact absurd hDigit (by decide)
  have hQuote : c ≠ '"' := by
    rintro rfl
    exact absurd hDigit (by decide)
  rw [first, if_neg hLayout, if_neg hSlash, if_neg hQuote,
    if_pos hDigit]

theorem first_of_isAlphabetic
    {c : Char}
    (hLetter : Text.isAlphabetic c = true)
    (rest : List Char) :
    first c rest = word c rest := by
  have hLayout : isLayout c ≠ true := by
    rw [ne_eq, isLayout_iff]
    intro hBlank
    have hClasses :=
      classes_of_mem_blanks (List.mem_cons_of_mem _ hBlank)
    simp [hLetter] at hClasses
  have hSlash : c ≠ '/' := by
    rintro rfl
    exact absurd hLetter (by decide)
  have hQuote : c ≠ '"' := by
    rintro rfl
    exact absurd hLetter (by decide)
  have hDigit : c.isDigit ≠ true := by
    intro hDigit
    simp [isAlphabetic_of_isDigit hDigit] at hLetter
  rw [first, if_neg hLayout, if_neg hSlash, if_neg hQuote,
    if_neg hDigit, if_pos hLetter]

theorem first_of_symbol
    {c : Char}
    (hBlank : c ∉ '"' :: blanks)
    (hSlash : c ≠ '/')
    (hDigit : c.isDigit = false)
    (hLetter : Text.isAlphabetic c = false)
    (rest : List Char) :
    first c rest = symbol c rest := by
  have hLayout : isLayout c ≠ true := by
    rw [ne_eq, isLayout_iff]
    exact fun h => hBlank (List.mem_cons_of_mem _ h)
  have hQuote : c ≠ '"' :=
    fun h => hBlank (h ▸ List.mem_cons_self)
  rw [first, if_neg hLayout, if_neg hSlash, if_neg hQuote,
    if_neg (by simp [hDigit]), if_neg (by simp [hLetter])]

end Segment

------------------------------------------------------------
-- Block Comments
------------------------------------------------------------

/- An end in a text begins at its front or behind it. -/
theorem holdsClose_cons_iff
    (c : Char)
    (text : List Char) :
    HoldsClose (c :: text) ↔
      (c = '*' ∧ text.head? = some '/') ∨
        HoldsClose text := by
  rw [HoldsClose, List.infix_cons_iff]
  refine or_congr ?_ Iff.rfl
  cases text with
  | nil => simp
  | cons d text => simp [eq_comm]

theorem not_holdsClose_nil : ¬ HoldsClose [] := by
  simp [HoldsClose]

/- There is no end if none is found. -/
theorem throughClose?_eq_none_iff (source : List Char) :
    Segment.throughClose? source = none ↔
      ¬ HoldsClose source := by
  fun_induction Segment.throughClose? source with
  | case1 => simp [not_holdsClose_nil]
  | case2 rest => simp [holdsClose_cons_iff]
  | case3 c rest hNot ih =>
      rw [Option.map_eq_none_iff, ih, holdsClose_cons_iff,
        not_or]
      refine ⟨fun hRest => ⟨?_, hRest⟩, And.right⟩
      rintro ⟨rfl, hHead⟩
      cases rest with
      | nil => simp at hHead
      | cons d more =>
          exact hNot more rfl
            (by rw [Option.some.inj hHead])

/- The first end is found. -/
theorem throughClose?_append
    {body : List Char}
    (hBody : ¬ HoldsClose (body ++ ['*']))
    (rest : List Char) :
    Segment.throughClose? (body ++ '*' :: '/' :: rest) =
      some (body ++ ['*', '/']) := by
  induction body with
  | nil => rfl
  | cons c body ih =>
      rw [List.cons_append, holdsClose_cons_iff, not_or]
        at hBody
      rw [List.cons_append, Segment.throughClose?,
        ih hBody.2]
      · rfl
      · intro more hStar hMore
        apply hBody.1
        refine ⟨hStar, ?_⟩
        cases body with
        | nil => simp at hMore
        | cons d body =>
            simpa using (List.cons.inj hMore).1

/- What is found ends with the first end. -/
theorem exists_of_throughClose?
    {source found : List Char}
    (hFound : Segment.throughClose? source = some found) :
    ∃ body, found = body ++ ['*', '/'] ∧
      ¬ HoldsClose (body ++ ['*']) := by
  fun_induction Segment.throughClose? source
    generalizing found with
  | case1 => simp at hFound
  | case2 rest =>
      refine ⟨[], (Option.some.inj hFound).symm, ?_⟩
      simp [holdsClose_cons_iff, not_holdsClose_nil]
  | case3 c rest hNot ih =>
      rcases Option.map_eq_some_iff.mp hFound with
        ⟨more, hMore, rfl⟩
      rcases ih hMore with ⟨body, rfl, hBody⟩
      refine ⟨c :: body, rfl, ?_⟩
      rw [List.cons_append, holdsClose_cons_iff]
      rintro (⟨rfl, hHead⟩ | hHolds)
      · -- The text behind `c` begins as `rest` does.
        have hPrefix := Segment.throughClose?_prefix hMore
        rcases hPrefix with ⟨behind, rfl⟩
        cases body with
        | nil => simp at hHead
        | cons d body =>
            have hSlash : d = '/' := by simpa using hHead
            exact hNot _ rfl (by rw [hSlash]; rfl)
      · exact hBody hHolds

------------------------------------------------------------
-- The Segment That Is Cut Is Next
------------------------------------------------------------

namespace Segment

/- A slash opens a comment or is an operator. -/
theorem isNext_slash (rest : List Char) :
    IsNext (slash rest)
      (rest.drop (slash rest).tail.length) := by
  unfold slash
  split
  · rename_i more
    have hRest :=
      drop_length_of_prefix
        (List.takeWhile_prefix (fun c => c != '\n')
          (l := more))
    apply IsNext.lineComment
    · intro hMem
      exact absurd (of_mem_takeWhile hMem) (by decide)
    · rw [List.length_cons, List.drop_succ_cons]
      have hHead := List.head?_dropWhile_not
        (fun c => c != '\n') more
      have hDrop :
          more.drop (more.takeWhile
              fun c => c != '\n').length =
            more.dropWhile fun c => c != '\n' := by
        have hSplit :=
          List.takeWhile_append_dropWhile
            (p := fun c => c != '\n') (l := more)
        exact List.append_cancel_left
          (hRest.trans hSplit.symm)
      rw [hDrop]
      cases hBehind :
          more.dropWhile fun c => c != '\n' with
      | nil => exact Or.inl rfl
      | cons d behind =>
          rw [hBehind] at hHead
          exact Or.inr (by simpa using hHead)
  · rename_i more
    cases hFound : throughClose? more with
    | none =>
        have hOpen := (throughClose?_eq_none_iff _).mp hFound
        simpa using IsNext.openComment hOpen
    | some found =>
        rcases exists_of_throughClose? hFound with
          ⟨body, rfl, hBody⟩
        exact IsNext.blockComment hBody
  · rename_i hLine hBlock
    apply IsNext.operator (by decide)
    · apply isLongest_operator ⟨.slash, by decide⟩
      exact Or.inl rfl
    · rw [opensComment_slash_iff]
      rintro (hHead | hHead)
      · rcases List.head?_eq_some_iff.mp hHead with
          ⟨more, hMore⟩
        exact hLine more hMore
      · rcases List.head?_eq_some_iff.mp hHead with
          ⟨more, hMore⟩
        exact hBlock more hMore

/- A quote opens a string, which may be open. -/
theorem isNext_string (rest : List Char) :
    IsNext (string rest)
      (rest.drop (string rest).tail.length) := by
  unfold string
  dsimp only
  split
  · apply IsNext.string
    intro hMem
    exact absurd (of_mem_takeWhile hMem) (by decide)
  · rename_i hQuote
    simpa using IsNext.openString hQuote

/- Any other character is an operator, or unexpected. -/
theorem isNext_symbol
    {c : Char}
    (hBlank : c ∉ '"' :: blanks)
    (hSlash : c ≠ '/')
    (hDigit : c.isDigit = false)
    (hLetter : Text.isAlphabetic c = false)
    (rest : List Char) :
    IsNext (symbol c rest)
      (rest.drop (symbol c rest).tail.length) := by
  unfold symbol
  split
  · rename_i alone withEquals hPair
    have hEntries := mem_operatorLexemes_of_equalsPair? hPair
    split
    · rename_i hHead
      exact IsNext.operator hEntries.2
        (isLongest_operator_equals hEntries.2 _)
        (not_opensComment hSlash _)
    · rename_i hHead
      exact IsNext.operator hEntries.1
        (isLongest_operator ⟨_, hEntries.1⟩ (Or.inr hHead))
        (not_opensComment hSlash _)
  · rename_i hNone
    split
    · rename_i kind hKind
      have hEntry := mem_operatorLexemes_of_punctuation? hKind
      exact IsNext.operator hEntry
        (isLongest_operator ⟨_, hEntry⟩ (Or.inl hNone))
        (not_opensComment hSlash _)
    · rename_i hNoKind
      apply IsNext.unexpected
        (fun h => hBlank (List.mem_cons_of_mem _ h))
        (fun h => hBlank (h ▸ List.mem_cons_self))
        hDigit hLetter
      rintro ⟨w, kind⟩ hEntry hHead
      rcases List.head?_eq_some_iff.mp hHead with
        ⟨tail, hLexeme⟩
      have hW : w = c :: tail := hLexeme
      subst hW
      cases isOperator_of_mem hEntry with
      | slash => exact hSlash rfl
      | alone hPair => simp [hNone] at hPair
      | withEquals hPair => simp [hNone] at hPair
      | punctuation hKind => simp [hNoKind] at hKind

/- The segment that is cut is next. -/
theorem isNext_first
    (c : Char)
    (rest : List Char) :
    IsNext (first c rest)
      (rest.drop (first c rest).tail.length) := by
  by_cases hBlank : c ∈ blanks
  · rw [first_of_mem_blanks hBlank]
    exact IsNext.blank hBlank
  by_cases hSlash : c = '/'
  · subst hSlash
    exact isNext_slash rest
  by_cases hQuote : c = '"'
  · subst hQuote
    exact isNext_string rest
  cases hDigit : c.isDigit with
  | true =>
      rw [first_of_isDigit hDigit, numeral_of_isDigit hDigit]
      exact IsNext.numeral (isLongest_numeral hDigit rest)
  | false =>
      cases hLetter : Text.isAlphabetic c with
      | true =>
          rw [first_of_isAlphabetic hLetter]
          exact IsNext.word (isLongest_word hLetter rest)
            ((isWordKind_iff _ _).mpr rfl)
      | false =>
          have hNone : c ∉ '"' :: blanks := by
            simp [hQuote, hBlank]
          rw [first_of_symbol hNone hSlash hDigit hLetter]
          exact isNext_symbol hNone hSlash hDigit hLetter
            rest

end Segment

------------------------------------------------------------
-- No Other Segment Is Next
------------------------------------------------------------

namespace Segment

/- A longest numeral is the one that is cut. -/
theorem first_of_isLongest_numeral
    {c : Char}
    {tail rest : List Char}
    (hLongest : IsLongest IsNumeral (c :: tail) rest) :
    first c (tail ++ rest) = numeral c (tail ++ rest) ∧
      numeralTail (tail ++ rest) = tail := by
  have hDigit := hLongest.1.isDigit_head
  have hTail := numeralTail_prefix (tail ++ rest)
  have hSame :=
    hLongest.unique (isLongest_numeral hDigit (tail ++ rest))
      (by
        rw [List.cons_append, List.cons_append,
          drop_length_of_prefix hTail])
  exact ⟨first_of_isDigit hDigit _,
    (List.cons.inj hSame).2.symm⟩

/- A longest word is the one that is cut. -/
theorem first_of_isLongest_word
    {c : Char}
    {tail rest : List Char}
    (hLongest : IsLongest IsWord (c :: tail) rest) :
    first c (tail ++ rest) = word c (tail ++ rest) ∧
      (tail ++ rest).takeWhile continuesWord = tail := by
  rcases hLongest.1 with ⟨d, more, hSplit, hLetter, _⟩
  rw [← (List.cons.inj hSplit).1] at hLetter
  have hSame :=
    hLongest.unique (isLongest_word hLetter (tail ++ rest))
      (by
        rw [List.cons_append, List.cons_append,
          drop_length_of_prefix (List.takeWhile_prefix _)])
  exact ⟨first_of_isAlphabetic hLetter _,
    (List.cons.inj hSame).2.symm⟩

/- A longest operator is the one that is cut. -/
theorem first_of_isLongest_operator
    {c : Char}
    {tail rest : List Char}
    {kind : Kind}
    (hEntry : (c :: tail, kind) ∈ operatorLexemes)
    (hLongest :
      IsLongest
        (fun w => ∃ kind, (w, kind) ∈ operatorLexemes)
        (c :: tail) rest)
    (hComment : ¬ OpensComment (c :: (tail ++ rest))) :
    first c (tail ++ rest) = ⟨c, tail, .token kind none⟩ := by
  rcases classes_of_mem_operatorLexemes hEntry with
    ⟨hBlank, hDigit, hLetter⟩
  cases isOperator_of_mem hEntry with
  | slash =>
      rw [List.nil_append, opensComment_slash_iff,
        not_or] at hComment
      rw [List.nil_append, first_slash]
      unfold slash
      split
      · exact absurd rfl hComment.1
      · exact absurd rfl hComment.2
      · rfl
  | @alone _ _ withEquals hPair =>
      have hSlash : c ≠ '/' := by
        rintro rfl
        simp [equalsPair?] at hPair
      have hAlone : rest.head? ≠ some '=' := by
        intro hHead
        rcases List.head?_eq_some_iff.mp hHead with
          ⟨behind, rfl⟩
        have hLength := hLongest.2 [c, '=']
          ⟨behind, rfl⟩
          ⟨withEquals,
            (mem_operatorLexemes_of_equalsPair? hPair).2⟩
        simp at hLength
      rw [first_of_symbol hBlank hSlash hDigit hLetter]
      simp [symbol, hPair, hAlone]
  | withEquals hPair =>
      have hSlash : c ≠ '/' := by
        rintro rfl
        simp [equalsPair?] at hPair
      rw [first_of_symbol hBlank hSlash hDigit hLetter]
      simp [symbol, hPair]
  | punctuation hKind =>
      rcases equalsPair?_of_punctuation? hKind with
        ⟨hNone, hSlash⟩
      rw [first_of_symbol hBlank hSlash hDigit hLetter]
      simp [symbol, hNone, hKind]

/- A segment that is next is the one that is cut. -/
theorem first_of_isNext
    {s : Segment}
    {more : List Char}
    (hNext : IsNext s more) :
    first s.head (s.tail ++ more) = s := by
  cases hNext with
  | blank hBlank => exact first_of_mem_blanks hBlank _
  | @lineComment body _ hBody hBehind =>
      have hAll : ∀ c ∈ body, (c != '\n') = true := by
        intro c hMem
        rw [bne_iff_ne]
        rintro rfl
        exact hBody hMem
      have hStop :
          more.takeWhile (fun c => c != '\n') = [] := by
        rcases hBehind with rfl | hHead
        · rfl
        · rcases List.head?_eq_some_iff.mp hHead with
            ⟨behind, rfl⟩
          rfl
      rw [first_slash, List.cons_append, slash,
        List.takeWhile_append_of_pos hAll, hStop,
        List.append_nil]
  | @blockComment body _ hBody =>
      have hFound := throughClose?_append hBody more
      rw [first_slash, List.cons_append, List.append_assoc]
      simp only [List.cons_append, List.nil_append, slash]
      rw [hFound]
  | @openComment body hBody =>
      have hNone := (throughClose?_eq_none_iff body).mpr hBody
      rw [first_slash, List.append_nil, slash, hNone]
  | @string body _ hBody =>
      have hAll : ∀ c ∈ body, (c != '"') = true := by
        intro c hMem
        rw [bne_iff_ne]
        rintro rfl
        exact hBody hMem
      have hTake :
          ((body ++ ['"']) ++ more).takeWhile
            (fun c => c != '"') = body := by
        rw [List.append_assoc,
          List.takeWhile_append_of_pos hAll]
        simp
      rw [first_quote, string, hTake, if_pos (by simp)]
  | openString hBody =>
      rw [first_quote, List.append_nil, string,
        if_neg hBody]
  | numeral hLongest =>
      have hFirst := first_of_isLongest_numeral hLongest
      have hDigit := hLongest.1.isDigit_head
      rw [hFirst.1, numeral_of_isDigit hDigit, hFirst.2]
  | word hLongest hKind =>
      have hFirst := first_of_isLongest_word hLongest
      rw [hFirst.1, word, hFirst.2,
        (isWordKind_iff _ _).mp hKind]
  | operator hEntry hLongest hComment =>
      exact first_of_isLongest_operator hEntry hLongest
        hComment
  | @unexpected c _ hBlank hQuote hDigit hLetter hNone =>
      have hSlash : c ≠ '/' := by
        rintro rfl
        exact hNone (['/'], .slash) (by decide) rfl
      have hPair : equalsPair? c = none := by
        cases hPair : equalsPair? c with
        | none => rfl
        | some pair =>
            exact absurd rfl (hNone _
              (mem_operatorLexemes_of_equalsPair? hPair).1)
      have hKind : punctuation? c = none := by
        cases hKind : punctuation? c with
        | none => rfl
        | some kind =>
            exact absurd rfl (hNone _
              (mem_operatorLexemes_of_punctuation? hKind))
      rw [first_of_symbol (by simp [hBlank, hQuote]) hSlash
        hDigit hLetter, symbol, hPair]
      simp only [hKind]

end Segment

end LoxExpr
