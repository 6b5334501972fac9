import LoxExpr.Proofs.Layout.Respacing
import LoxExpr.Proofs.Lexical.Lines

/-
  This file says that lexemes are enough to tell the tokens:
  the lexeme of a token is scanned to that token, alone and
  with blanks to the next lexeme, also if the source that the
  token is from has errors.

  Key definitions include:
    * `Token.StandsAlone`

  Main statements:
    * `standsAlone_of_mem_scan`
    * `lexemes_rescan`
-/

namespace LoxExpr

------------------------------------------------------------
-- Tokens before a Blank
------------------------------------------------------------

/-
  The token is cut from its lexeme, if a blank or nothing is
  behind it.
-/
def Token.StandsAlone (token : Token) : Prop :=
  ∃ s : Segment,
    s.content = .token token.kind token.literal ∧
    s.lexeme = token.lexeme ∧
    ∀ rest, (∀ c, rest.head? = some c → c ∈ blanks) →
      s.IsNext rest

/- Every token of a source but the end stands alone. -/
theorem standsAlone_of_mem_scan
    {source : String}
    {token : Token}
    (hMem : token ∈ (scan source).tokens)
    (hEnd : token.isEnd = false) :
    token.StandsAlone := by
  rcases exists_isCutBehind hMem hEnd with
    ⟨_, ⟨_, s, more, _, _, hNext, hContent, hLexeme⟩, _⟩
  refine ⟨s, hContent, hLexeme, fun rest hHead => ?_⟩
  -- What was behind the token may be lost: it only kept the
  -- token from being longer, and a blank does so as well.
  exact hNext.of_keepsFronts (.of_head? hHead more) hContent

------------------------------------------------------------
-- Lexemes and Their Tokens
------------------------------------------------------------

namespace Token.StandsAlone

variable {token : Token}

/- The lexeme may come before what begins with a blank. -/
theorem scansTo_append
    (h : token.StandsAlone)
    {text : List Char}
    {tokens : List Token}
    (hText : ScansTo text tokens)
    (hHead : ∀ c, text.head? = some c → c ∈ blanks) :
    ScansTo (token.lexeme.toList ++ text)
      (token.offLine :: tokens) := by
  rcases h with ⟨s, hContent, hLexeme, hNext⟩
  rcases hText with ⟨cuts, hCuts, hFaultless, rfl⟩
  have hSelf : s.token? = some token.offLine := by
    rw [Segment.token?, Segment.tokenOn?_eq_some_iff]
    exact ⟨hContent, hLexeme, rfl⟩
  have hBoth :=
    ScansTo.next ⟨cuts, hCuts, hFaultless, rfl⟩
      (hNext text hHead)
      (Segment.isFaultless_of_token hContent)
  rw [List.filterMap_cons_some hSelf] at hBoth
  rwa [← hLexeme, Segment.toList_lexeme]

/- The lexeme alone is scanned to its one token. -/
theorem scan_lexeme (h : token.StandsAlone) :
    scan token.lexeme =
      ⟨[{ token with line := 1 },
        .endOfInput (1 + token.lexeme.toList.count '\n')],
        []⟩ := by
  rcases h with ⟨s, hContent, hLexeme, hNext⟩
  have hText : token.lexeme.toList = s.text := by
    rw [← hLexeme, Segment.toList_lexeme]
  have hCuts : Cuts token.lexeme.toList [s] [] := by
    rw [hText, ← List.append_nil s.text]
    exact .next (hNext [] (by simp)) .done
  have hFaultless : ∀ s' ∈ [s], s'.IsFaultless := by
    rw [List.forall_mem_singleton]
    exact Segment.isFaultless_of_token hContent
  rw [scan_of_cuts hCuts hFaultless, tokensOn_cons hContent,
    lineAfter_eq, hLexeme, hText, List.flatMap_singleton]
  rfl

end Token.StandsAlone

/- Lexemes with single blanks between are scanned to tokens. -/
theorem scansTo_intercalate
    {tokens : List Token}
    (hAlone : ∀ token ∈ tokens, token.StandsAlone) :
    ScansTo
      (" ".intercalate (tokens.map Token.lexeme)).toList
      (tokens.map Token.offLine) := by
  rw [String.toList_intercalate]
  induction tokens with
  | nil => exact ⟨[], .done, by simp, rfl⟩
  | cons token tokens ih =>
      rw [List.forall_mem_cons] at hAlone
      rcases hAlone with ⟨hFirst, hMore⟩
      have hText := ih hMore
      cases tokens with
      | nil =>
          have hOne := hFirst.scansTo_append hText (by simp)
          simpa using hOne
      | cons token' tokens =>
          have hBlank :=
            hText.layout (.blank (c := ' ') (by decide))
          have hBoth := hFirst.scansTo_append hBlank
            (by simp [blanks])
          simpa [List.intercalate_cons_cons] using hBoth

/-
  The lexemes of all tokens of a source but its end, joined
  by single blanks, are scanned without reports to the same
  tokens, but for their lines, and the end.  Each of the
  lexemes alone is scanned to its token and the end.
-/
theorem lexemes_rescan (source : String) :
    let tokens :=
      (scan source).tokens.filter fun token => !token.isEnd
    let joined :=
      scan (" ".intercalate (tokens.map Token.lexeme))
    joined.diagnostics = [] ∧
      joined.tokens.map Token.offLine =
        tokens.map Token.offLine ++ [.endOfInput 0] ∧
      ∀ token ∈ tokens,
        scan token.lexeme =
          ⟨[{ token with line := 1 },
            .endOfInput
              (1 + token.lexeme.toList.count '\n')], []⟩ := by
  intro tokens joined
  have hAlone : ∀ token ∈ tokens, token.StandsAlone := by
    intro token hMem
    rcases List.mem_filter.mp hMem with ⟨hToken, hEnd⟩
    exact standsAlone_of_mem_scan hToken (by simpa using hEnd)
  have hJoined := (scansTo_intercalate hAlone).scan
  exact ⟨hJoined.1, hJoined.2,
    fun token hMem => (hAlone token hMem).scan_lexeme⟩

end LoxExpr
