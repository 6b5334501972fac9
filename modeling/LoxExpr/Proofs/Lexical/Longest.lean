import LoxExpr.Proofs.Lexical.Lossless
import LoxExpr.Proofs.Lexical.Munch
import Mathlib.Data.List.TakeWhile

/-
  This file is about the longest pieces of the lexical
  grammar: the words, numerals and operators that are taken
  from the front of a source are the longest there.

  Key definitions include:
    * `IsOperator`

  Main statements:
    * `IsLongest.unique`
    * `isLongest_of_head?`
    * `isLongest_numeral`
    * `isOperator_of_mem`
-/

namespace LoxExpr

------------------------------------------------------------
-- Longest Pieces
------------------------------------------------------------

/- There is one longest piece at the front of a source. -/
theorem IsLongest.unique
    {piece : List Char → Prop}
    {w w' rest rest' : List Char}
    (hLongest : IsLongest piece w rest)
    (hLongest' : IsLongest piece w' rest')
    (hSource : w ++ rest = w' ++ rest') :
    w = w' := by
  have hPrefix : w <+: w' ++ rest' :=
    ⟨rest, hSource⟩
  have hPrefix' : w' <+: w ++ rest :=
    ⟨rest', hSource.symm⟩
  have hLe := hLongest'.2 w hPrefix hLongest.1
  have hLe' := hLongest.2 w' hPrefix' hLongest'.1
  have hLength : w.length = w'.length := by omega
  exact (List.append_inj hSource hLength).1

/- Characters of a class at the front are taken. -/
theorem length_le_takeWhile
    {p : Char → Bool}
    {v source : List Char}
    (hPrefix : v <+: source)
    (hAll : ∀ c ∈ v, p c = true) :
    v.length ≤ (source.takeWhile p).length := by
  rcases hPrefix with ⟨rest, rfl⟩
  rw [List.takeWhile_append_of_pos hAll,
    List.length_append]
  omega

/- Every character that is taken is of the class. -/
theorem of_mem_takeWhile
    {p : Char → Bool}
    {c : Char}
    {source : List Char}
    (hMem : c ∈ source.takeWhile p) :
    p c = true :=
  List.all_eq_true.mp List.all_takeWhile c hMem

/- The characters behind a front that is taken. -/
theorem drop_length_of_prefix
    {w source : List Char}
    (hPrefix : w <+: source) :
    w ++ source.drop w.length = source :=
  List.prefix_iff_eq_append.mp hPrefix

/-
  A piece is the longest if the character behind it is none
  of the characters that such pieces have.
-/
theorem isLongest_of_head?
    {piece : List Char → Prop}
    {allowed : Char → Prop}
    (hAllowed : ∀ v, piece v → ∀ c ∈ v, allowed c)
    {w rest : List Char}
    (hPiece : piece w)
    (hHead : ∀ c, rest.head? = some c → ¬ allowed c) :
    IsLongest piece w rest := by
  refine ⟨hPiece, ?_⟩
  intro v hPrefix hLonger
  rcases List.prefix_or_prefix_of_prefix hPrefix
      (List.prefix_append w rest) with hShort | hLong
  · exact hShort.length_le
  · rcases hLong with ⟨more, rfl⟩
    rw [List.prefix_append_right_inj] at hPrefix
    cases more with
    | nil => simp
    | cons c more =>
        rcases hPrefix with ⟨behind, rfl⟩
        exact absurd (hAllowed _ hLonger c (by simp))
          (hHead c rfl)

/-
  A piece of some characters ends where another character is
  behind it.
-/
theorem append_inj_of_head?
    {allowed : Char → Prop}
    {w w' rest rest' : List Char}
    (hWord : ∀ c ∈ w, allowed c)
    (hWord' : ∀ c ∈ w', allowed c)
    (hHead : ∀ c, rest.head? = some c → ¬ allowed c)
    (hHead' : ∀ c, rest'.head? = some c → ¬ allowed c)
    (hSource : w ++ rest = w' ++ rest') :
    w = w' ∧ rest = rest' := by
  let piece : List Char → Prop := fun v => ∀ c ∈ v, allowed c
  have hLongest : IsLongest piece w rest :=
    isLongest_of_head? (fun _ hPiece => hPiece) hWord hHead
  have hLongest' : IsLongest piece w' rest' :=
    isLongest_of_head? (fun _ hPiece => hPiece) hWord' hHead'
  have hSame := hLongest.unique hLongest' hSource
  rw [hSame] at hSource
  exact ⟨hSame, List.append_cancel_left hSource⟩

------------------------------------------------------------
-- Words and Numerals
------------------------------------------------------------

/- A numeral begins with a digit. -/
theorem IsNumeral.isDigit_head
    {c : Char}
    {tail : List Char}
    (hNumeral : IsNumeral (c :: tail)) :
    c.isDigit = true := by
  rcases hNumeral with
    hDigits | ⟨whole, fraction, hWhole, _, hSplit⟩
  · exact hDigits.2 c List.mem_cons_self
  · cases whole with
    | nil => exact absurd rfl hWhole.1
    | cons d whole =>
        rw [(List.cons.inj hSplit).1]
        exact hWhole.2 d List.mem_cons_self

/- Numerals have digits and points only. -/
theorem IsNumeral.isDigit_or_point
    {w : List Char}
    (hNumeral : IsNumeral w) :
    ∀ c ∈ w, c.isDigit = true ∨ c = '.' := by
  intro c hMem
  rcases hNumeral with
    hDigits | ⟨whole, fraction, hWhole, hFraction, rfl⟩
  · exact Or.inl (hDigits.2 c hMem)
  · rcases List.mem_append.mp hMem with hMem | hMem
    · exact Or.inl (hWhole.2 c hMem)
    · rcases List.mem_cons.mp hMem with hPoint | hMem
      · exact Or.inr hPoint
      · exact Or.inl (hFraction.2 c hMem)

/- Words have letters and numbers only. -/
theorem IsWord.continues
    {w : List Char}
    (hWord : IsWord w) :
    ∀ c ∈ w,
      Text.isAlphabetic c = true ∨
        Text.isNumeric c = true := by
  rcases hWord with ⟨first, more, rfl, hFirst, hMore⟩
  intro c hMem
  rcases List.mem_cons.mp hMem with rfl | hMem
  · exact Or.inl hFirst
  · exact hMore c hMem

/- The word at a letter is the longest. -/
theorem isLongest_word
    {c : Char}
    (hLetter : Text.isAlphabetic c = true)
    (rest : List Char) :
    IsLongest IsWord
      (c :: rest.takeWhile Segment.continuesWord)
      (rest.drop
        (rest.takeWhile Segment.continuesWord).length) := by
  constructor
  · refine ⟨c, _, rfl, hLetter, ?_⟩
    intro d hMem
    have hContinues := of_mem_takeWhile hMem
    simpa [Segment.continuesWord] using hContinues
  · intro v hPrefix hWord
    rw [List.cons_append,
      drop_length_of_prefix (List.takeWhile_prefix _)]
      at hPrefix
    rcases hWord with ⟨d, more, rfl, _, hMore⟩
    rw [List.cons_prefix_cons] at hPrefix
    have hLength := length_le_takeWhile
      (p := Segment.continuesWord) hPrefix.2
      (by simpa [Segment.continuesWord] using hMore)
    simpa using hLength

/- Digits are taken up to a character that is none. -/
theorem takeWhile_isDigit_append
    {whole : List Char}
    (hWhole : ∀ c ∈ whole, c.isDigit = true)
    {c : Char}
    (hc : c.isDigit = false)
    (rest : List Char) :
    (whole ++ c :: rest).takeWhile Char.isDigit = whole ∧
      (whole ++ c :: rest).dropWhile Char.isDigit =
        c :: rest := by
  rw [List.takeWhile_append_of_pos hWhole,
    List.dropWhile_append_of_pos hWhole]
  simp [hc]

/- The digits of a numeral, and its fraction if there is one. -/
theorem numeralTail_cases (rest : List Char) :
    (Segment.numeralTail rest =
        rest.takeWhile Char.isDigit ∧
      ∀ more, rest.dropWhile Char.isDigit = '.' :: more →
        more.takeWhile Char.isDigit = []) ∨
    ∃ more, rest.dropWhile Char.isDigit = '.' :: more ∧
      more.takeWhile Char.isDigit ≠ [] ∧
      Segment.numeralTail rest =
        rest.takeWhile Char.isDigit ++
          '.' :: more.takeWhile Char.isDigit := by
  unfold Segment.numeralTail
  dsimp only
  split
  · rename_i more hMore
    split
    · rename_i hEmpty
      refine Or.inl ⟨rfl, ?_⟩
      intro more' hMore'
      rw [← (List.cons.inj (hMore.symm.trans hMore')).2]
      simpa using hEmpty
    · rename_i hEmpty
      exact Or.inr ⟨more, hMore, by simpa using hEmpty, rfl⟩
  · rename_i hNone
    exact Or.inl ⟨rfl, fun more hMore =>
      absurd hMore (hNone more)⟩

/- What a digit begins is a numeral. -/
theorem isNumeral_numeralTail
    {c : Char}
    (hDigit : c.isDigit = true)
    (rest : List Char) :
    IsNumeral (c :: Segment.numeralTail rest) := by
  have hWhole :
      IsDigits (c :: rest.takeWhile Char.isDigit) := by
    refine ⟨by simp, ?_⟩
    intro d hMem
    rcases List.mem_cons.mp hMem with rfl | hMem
    · exact hDigit
    · exact of_mem_takeWhile hMem
  rcases numeralTail_cases rest with
    ⟨hTail, _⟩ | ⟨more, _, hFraction, hTail⟩
  · rw [hTail]
    exact Or.inl hWhole
  · rw [hTail]
    exact Or.inr ⟨_, _, hWhole,
      ⟨hFraction, fun d => of_mem_takeWhile⟩, rfl⟩

/- The number of a numeral is never refused. -/
theorem Numeral.read?_of_isNumeral
    {w : List Char}
    (hNumeral : IsNumeral w) :
    read? w = some (value w) := by
  have hValid : isValid w = true := by
    unfold isValid
    rcases hNumeral with
      hDigits | ⟨whole, fraction, hWhole, hFraction, rfl⟩
    · have hTaken : Numeral.whole w = w :=
        List.takeWhile_eq_self_iff.mpr hDigits.2
      rw [List.dropWhile_eq_nil_iff.mpr hDigits.2, hTaken]
      simpa using hDigits.1
    · have hSplit :=
        takeWhile_isDigit_append hWhole.2
          (show Char.isDigit '.' = false by decide) fraction
      rw [hSplit.2]
      simpa [hFraction.1] using hFraction.2
  rw [read?, if_pos hValid]

/- So the segment of a digit is always a numeral. -/
theorem Segment.numeral_of_isDigit
    {c : Char}
    (hDigit : c.isDigit = true)
    (rest : List Char) :
    numeral c rest =
      ⟨c, numeralTail rest,
        .token .number
          (some (.number
            (Numeral.value (c :: numeralTail rest))))⟩ := by
  have hRead := Numeral.read?_of_isNumeral
    (isNumeral_numeralTail hDigit rest)
  simp only [numeral, hRead]

/- No numeral at the front goes on behind the one taken. -/
theorem length_le_numeralTail
    {c : Char}
    (hDigit : c.isDigit = true)
    {rest v : List Char}
    (hPrefix : v <+: c :: rest)
    (hNumeral : IsNumeral v) :
    v.length ≤ (c :: Segment.numeralTail rest).length := by
  have hTake :
      (c :: rest).takeWhile Char.isDigit =
        c :: rest.takeWhile Char.isDigit := by
    simp [hDigit]
  have hDrop :
      (c :: rest).dropWhile Char.isDigit =
        rest.dropWhile Char.isDigit := by
    simp [hDigit]
  rcases hNumeral with
    hDigits | ⟨whole, fraction, hWhole, hFraction, rfl⟩
  · have hLength := length_le_takeWhile hPrefix hDigits.2
    rw [hTake, List.length_cons] at hLength
    rcases numeralTail_cases rest with
      ⟨hTail, _⟩ | ⟨more, _, _, hTail⟩ <;>
      rw [hTail] <;>
      simp only [List.length_cons, List.length_append] <;>
      omega
  · -- The digits before the point are all there are.
    rcases hPrefix with ⟨behind, hSource⟩
    have hSplit :=
      takeWhile_isDigit_append hWhole.2
        (show Char.isDigit '.' = false by decide)
        (fraction ++ behind)
    rw [show whole ++ '.' :: (fraction ++ behind) =
        c :: rest by simpa using hSource, hTake, hDrop]
      at hSplit
    have hTaken :
        (fraction ++ behind).takeWhile Char.isDigit =
          fraction ++ behind.takeWhile Char.isDigit :=
      List.takeWhile_append_of_pos hFraction.2
    rcases numeralTail_cases rest with
      ⟨_, hNone⟩ | ⟨more, hMore, _, hTail⟩
    · have hEmpty := hNone _ hSplit.2
      rw [hTaken, List.append_eq_nil_iff] at hEmpty
      exact absurd hEmpty.1 hFraction.1
    · rw [hSplit.2] at hMore
      rw [hTail, ← (List.cons.inj hMore).2, hTaken,
        ← List.cons_append, hSplit.1]
      simp only [List.length_append, List.length_cons]
      omega

theorem isLongest_numeral
    {c : Char}
    (hDigit : c.isDigit = true)
    (rest : List Char) :
    IsLongest IsNumeral
      (c :: Segment.numeralTail rest)
      (rest.drop (Segment.numeralTail rest).length) := by
  refine ⟨isNumeral_numeralTail hDigit rest, ?_⟩
  intro v hPrefix hNumeral
  have hTail := Segment.numeralTail_prefix rest
  rw [List.cons_append, drop_length_of_prefix hTail]
    at hPrefix
  exact length_le_numeralTail hDigit hPrefix hNumeral

------------------------------------------------------------
-- Operators
------------------------------------------------------------

/-
  The shapes of operators: the slash, a character that an
  equals sign may follow, alone or with that sign, and any
  other single character.
-/
inductive IsOperator : List Char → Kind → Prop where
| slash : IsOperator ['/'] .slash
| alone {c kind withEquals} :
    Segment.equalsPair? c = some (kind, withEquals) →
    IsOperator [c] kind
| withEquals {c alone kind} :
    Segment.equalsPair? c = some (alone, kind) →
    IsOperator [c, '='] kind
| punctuation {c kind} :
    Segment.punctuation? c = some kind →
    IsOperator [c] kind

theorem isOperator_of_mem
    {w : List Char}
    {kind : Kind}
    (hEntry : (w, kind) ∈ operatorLexemes) :
    IsOperator w kind := by
  have hAll : ∀ entry ∈ operatorLexemes,
      IsOperator entry.1 entry.2 := by
    simp only [operatorLexemes, List.forall_mem_cons]
    and_intros
    all_goals first
      | exact .punctuation rfl
      | exact .slash
      | exact .alone rfl
      | exact .withEquals rfl
      | simp
  exact hAll _ hEntry

/- No equals sign follows a single character. -/
theorem equalsPair?_of_punctuation?
    {c : Char}
    {kind : Kind}
    (hKind : Segment.punctuation? c = some kind) :
    Segment.equalsPair? c = none ∧ c ≠ '/' := by
  unfold Segment.punctuation? at hKind
  split at hKind
  all_goals first
    | exact ⟨rfl, by decide⟩
    | simp at hKind

/- Both lexemes of an operator before an equals sign. -/
theorem mem_operatorLexemes_of_equalsPair?
    {c : Char}
    {alone withEquals : Kind}
    (hPair :
      Segment.equalsPair? c = some (alone, withEquals)) :
    ([c], alone) ∈ operatorLexemes ∧
      ([c, '='], withEquals) ∈ operatorLexemes := by
  unfold Segment.equalsPair? at hPair
  split at hPair <;>
    simp only [Option.some.injEq, Prod.mk.injEq,
      reduceCtorEq] at hPair <;>
    obtain ⟨rfl, rfl⟩ := hPair <;> decide

theorem mem_operatorLexemes_of_punctuation?
    {c : Char}
    {kind : Kind}
    (hKind : Segment.punctuation? c = some kind) :
    ([c], kind) ∈ operatorLexemes := by
  unfold Segment.punctuation? at hKind
  split at hKind <;>
    simp only [Option.some.injEq, reduceCtorEq] at hKind <;>
    subst hKind <;> decide

/-
  An operator lexeme is one character, or one that an equals
  sign may follow and that sign.
-/
theorem operatorLexeme_cases
    {w : List Char}
    (hEntry : ∃ kind, (w, kind) ∈ operatorLexemes) :
    w.length ≤ 1 ∨ ∃ c pair, w = [c, '='] ∧
      Segment.equalsPair? c = some pair := by
  rcases hEntry with ⟨kind, hEntry⟩
  cases isOperator_of_mem hEntry with
  | slash => exact Or.inl (Nat.le_refl 1)
  | alone hPair => exact Or.inl (Nat.le_refl 1)
  | withEquals hPair => exact Or.inr ⟨_, _, rfl, hPair⟩
  | punctuation hKind => exact Or.inl (Nat.le_refl 1)

/-
  An operator of one character is the longest if no equals
  sign follows or none belongs to it.
-/
theorem isLongest_operator
    {c : Char}
    {rest : List Char}
    (hEntry : ∃ kind, ([c], kind) ∈ operatorLexemes)
    (hAlone :
      Segment.equalsPair? c = none ∨
        rest.head? ≠ some '=') :
    IsLongest
      (fun w => ∃ kind, (w, kind) ∈ operatorLexemes)
      [c] rest := by
  refine ⟨hEntry, ?_⟩
  intro v hPrefix hLexeme
  rcases operatorLexeme_cases hLexeme with
    hShort | ⟨d, pair, rfl, hPair⟩
  · exact hShort
  · rw [List.singleton_append, List.cons_prefix_cons]
      at hPrefix
    rcases hPrefix with ⟨rfl, hEquals⟩
    rcases hAlone with hNone | hHead
    · simp [hPair] at hNone
    · rcases hEquals with ⟨behind, rfl⟩
      exact absurd rfl hHead

/- An operator with an equals sign is the longest. -/
theorem isLongest_operator_equals
    {c : Char}
    {kind : Kind}
    (hEntry : ([c, '='], kind) ∈ operatorLexemes)
    (rest : List Char) :
    IsLongest
      (fun w => ∃ kind, (w, kind) ∈ operatorLexemes)
      [c, '='] rest := by
  refine ⟨⟨kind, hEntry⟩, ?_⟩
  intro v _ hLexeme
  rcases operatorLexeme_cases hLexeme with
    hShort | ⟨d, pair, rfl, _⟩
  · exact Nat.le_succ_of_le hShort
  · exact Nat.le_refl 2

/- Only a slash opens a comment. -/
theorem not_opensComment
    {c : Char}
    (hSlash : c ≠ '/')
    (text : List Char) :
    ¬ OpensComment (c :: text) := by
  rintro (hPrefix | hPrefix) <;>
    rw [List.cons_prefix_cons] at hPrefix <;>
    exact hSlash hPrefix.1.symm

/- A slash opens a comment before a slash or a star. -/
theorem opensComment_slash_iff (text : List Char) :
    OpensComment ('/' :: text) ↔
      text.head? = some '/' ∨ text.head? = some '*' := by
  cases text with
  | nil => simp [OpensComment]
  | cons c text => simp [OpensComment, eq_comm]

------------------------------------------------------------
-- Words
------------------------------------------------------------

/- A table without repetitions lists what is looked up. -/
theorem mem_or_absent_iff_lookup
    {entries : List (String × Kind)}
    (hNodup : (entries.map Prod.fst).Nodup)
    (word : String)
    (kind : Kind) :
    ((word, kind) ∈ entries ∨
      (kind = .identifier ∧
        ∀ entry ∈ entries, entry.1 ≠ word)) ↔
      (entries.lookup word).getD .identifier = kind := by
  induction entries with
  | nil => simp [eq_comm]
  | cons entry entries ih =>
      rcases entry with ⟨key, value⟩
      rw [List.map_cons, List.nodup_cons] at hNodup
      by_cases hKey : word = key
      · subst hKey
        have hAbsent : (word, kind) ∉ entries :=
          fun hMem =>
            hNodup.1 (List.mem_map.mpr ⟨_, hMem, rfl⟩)
        simp [hAbsent, eq_comm]
      · have hBeq : (word == key) = false := by
          simpa using hKey
        rw [List.lookup_cons, hBeq, ← ih hNodup.2]
        simp [hKey, Ne.symm hKey]

/- The words that are looked up are the keywords. -/
theorem keywords_perm :
    keywordLexemes.Perm Kind.keywords := by
  decide

/- The kind of a word is that of the grammar. -/
theorem isWordKind_iff
    (word : String)
    (kind : Kind) :
    IsWordKind word kind ↔ Kind.ofWord word = kind := by
  have hNodup : (Kind.keywords.map Prod.fst).Nodup := by
    decide
  rw [Kind.ofWord, ← mem_or_absent_iff_lookup hNodup,
    IsWordKind]
  simp only [keywords_perm.mem_iff]

end LoxExpr
