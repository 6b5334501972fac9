import LoxExpr.Proofs.Lexical.Listing

/-
  This file says where tokens come from: each token but the
  closing one is a segment of the source, and its line is
  counted by the line feeds before it.

  Key definitions include:
    * `Token.IsCutBehind`

  Main statements:
    * `exists_of_mem_placed`
    * `exists_isCutBehind`
    * `Token.IsCutBehind.mem_operatorLexemes`
-/

namespace LoxExpr

------------------------------------------------------------
-- Places of Segments
------------------------------------------------------------

/- A cut passes each of its segments. -/
theorem Cuts.exists_of_append
    {source rest : List Char}
    {front behind : List Segment}
    {s : Segment}
    (hCuts : Cuts source (front ++ s :: behind) rest) :
    ∃ more, Cuts source front (s.text ++ more) ∧
      s.IsNext more ∧ Cuts more behind rest := by
  induction front generalizing source with
  | nil =>
      rw [List.nil_append] at hCuts
      cases hCuts with
      | next hNext hMore => exact ⟨_, .done, hNext, hMore⟩
  | cons first front ih =>
      rw [List.cons_append] at hCuts
      cases hCuts with
      | next hFirst hMore =>
          rcases ih hMore with
            ⟨more, hFront, hNext, hBehind⟩
          exact ⟨more, .next hFirst hFront, hNext, hBehind⟩

/-
  Every placed segment is one of the cuts, and its line is
  counted by the line feeds before it.
-/
theorem exists_of_mem_placed
    {line : Nat}
    {cuts : List Segment}
    {p : Placed}
    (hMem : p ∈ placed line cuts) :
    ∃ front behind, cuts = front ++ p.segment :: behind ∧
      p.line =
        line + (front.flatMap Segment.text).count '\n' := by
  induction cuts generalizing line with
  | nil => exact nomatch hMem
  | cons s cuts ih =>
      rcases List.mem_cons.mp hMem with rfl | hMore
      · exact ⟨[], cuts, rfl, rfl⟩
      · rcases ih hMore with ⟨front, behind, rfl, hLine⟩
        refine ⟨s :: front, behind, rfl, ?_⟩
        rw [hLine, List.flatMap_cons, List.count_append,
          Nat.add_assoc]
        rfl

/- All line feeds count for the line behind the cuts. -/
theorem lineAfter_eq
    (line : Nat)
    (cuts : List Segment) :
    lineAfter line cuts =
      line + (cuts.flatMap Segment.text).count '\n' := by
  induction cuts generalizing line with
  | nil => rfl
  | cons s cuts ih =>
      rw [lineAfter, ih, List.flatMap_cons,
        List.count_append, Nat.add_assoc]
      rfl

/- What the token of a segment holds. -/
theorem Segment.tokenOn?_eq_some_iff
    (s : Segment)
    (line : Nat)
    (token : Token) :
    s.tokenOn? line = some token ↔
      s.content = .token token.kind token.literal ∧
        s.lexeme = token.lexeme ∧
        line = token.line := by
  rcases token with ⟨kind, lexeme, literal, line'⟩
  unfold tokenOn?
  split <;> simp_all [and_assoc, and_left_comm]

theorem Placed.token?_eq_some_iff
    (p : Placed)
    (token : Token) :
    p.token? = some token ↔
      p.segment.content =
          .token token.kind token.literal ∧
        p.segment.lexeme = token.lexeme ∧
        p.line = token.line :=
  p.segment.tokenOn?_eq_some_iff p.line token

/- What the error of a segment says, and where. -/
theorem Placed.error?_eq_some_iff
    (p : Placed)
    (e : LexicalError) :
    p.error? = some e ↔
      p.segment.content = .fault e.fault ∧
        p.line + p.segment.lineFeeds = e.line := by
  rcases e with ⟨line, fault⟩
  unfold error? Segment.errorOn?
  split <;> simp_all [and_comm]

/- Every token of cuts is one of them, on its line. -/
theorem exists_of_mem_tokensOn
    {line : Nat}
    {cuts : List Segment}
    {token : Token}
    (hMem : token ∈ tokensOn line cuts) :
    ∃ front s behind, cuts = front ++ s :: behind ∧
      s.content = .token token.kind token.literal ∧
      s.lexeme = token.lexeme ∧
      token.line =
        line + (front.flatMap Segment.text).count '\n' := by
  rcases List.mem_filterMap.mp hMem with
    ⟨p, hPlaced, hToken⟩
  rcases (Placed.token?_eq_some_iff _ _).mp hToken with
    ⟨hContent, hLexeme, hLine⟩
  rcases exists_of_mem_placed hPlaced with
    ⟨front, behind, hSplit, hFeeds⟩
  exact ⟨front, p.segment, behind, hSplit, hContent,
    hLexeme, hLine ▸ hFeeds⟩

------------------------------------------------------------
-- Places of Tokens
------------------------------------------------------------

/-
  Behind some characters of a source, the segment that is cut
  next is that of a token, but for its line.
-/
def Token.IsCutBehind
    (token : Token)
    (front source : List Char) : Prop :=
  ∃ (cuts : List Segment) (s : Segment) (more : List Char),
    Cuts source cuts (s.text ++ more) ∧
    cuts.flatMap Segment.text = front ∧
    s.IsNext more ∧
    s.content = .token token.kind token.literal ∧
    s.lexeme = token.lexeme

/-
  Every token before the end is cut behind some characters,
  and its line is counted by the line feeds among them.
-/
theorem exists_isCutBehind
    {source : String}
    {token : Token}
    (hMem : token ∈ (scan source).tokens)
    (hEnd : token.isEnd = false) :
    ∃ front, token.IsCutBehind front source.toList ∧
      token.line = 1 + front.count '\n' := by
  rw [tokens_scan] at hMem
  rcases List.mem_append.mp hMem with hToken | hClosing
  · rcases exists_of_mem_tokensOn hToken with
      ⟨front, s, behind, hSplit, hContent, hLexeme, hLine⟩
    have hCuts := cuts_segments source.toList
    rw [hSplit] at hCuts
    rcases hCuts.exists_of_append with
      ⟨more, hFront, hNext, _⟩
    exact ⟨_, ⟨front, s, more, hFront, rfl, hNext, hContent,
      hLexeme⟩, hLine⟩
  · rw [List.mem_singleton.mp hClosing] at hEnd
    simp [Token.endOfInput, Token.isEnd] at hEnd

/- No word has the kind of an operator. -/
theorem IsWordKind.not_mem_operatorKinds
    {word : String}
    {kind : Kind}
    (hWord : IsWordKind word kind) :
    kind ∉ operatorLexemes.map Prod.snd := by
  have hKeywords : ∀ entry ∈ keywordLexemes,
      entry.2 ∉ operatorLexemes.map Prod.snd := by
    decide
  rcases hWord with hKeyword | ⟨rfl, _⟩
  · exact hKeywords _ hKeyword
  · decide

/- A token with the kind of an operator has its lexeme. -/
theorem Segment.IsNext.mem_operatorLexemes
    {s : Segment}
    {more : List Char}
    (hNext : s.IsNext more)
    {kind : Kind}
    {literal : Option Literal}
    (hContent : s.content = .token kind literal)
    (hKind : kind ∈ operatorLexemes.map Prod.snd) :
    (s.text, kind) ∈ operatorLexemes := by
  cases hNext with
  | string _ =>
      cases hContent
      exact absurd hKind (by decide)
  | numeral _ =>
      cases hContent
      exact absurd hKind (by decide)
  | word _ hWord =>
      cases hContent
      exact absurd hKind hWord.not_mem_operatorKinds
  | operator hEntry _ _ =>
      cases hContent
      exact hEntry
  | _ => exact nomatch hContent

/- A token of an operator is cut with the lexeme of it. -/
theorem Token.IsCutBehind.mem_operatorLexemes
    {token : Token}
    {front source : List Char}
    (h : token.IsCutBehind front source)
    (hKind : token.kind ∈ operatorLexemes.map Prod.snd) :
    (token.lexeme.toList, token.kind) ∈
      operatorLexemes := by
  rcases h with
    ⟨cuts, s, more, _, _, hNext, hContent, hLexeme⟩
  rw [← hLexeme, Segment.toList_lexeme]
  exact hNext.mem_operatorLexemes hContent hKind

end LoxExpr
