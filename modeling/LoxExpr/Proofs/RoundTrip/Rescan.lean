import LoxExpr.Proofs.Lexical.Follow
import LoxExpr.Proofs.Lexical.Listing
import LoxExpr.Proofs.RoundTrip.Rendering

/-
  This file shows that the text of a tree is cut into tokens
  that the grammar derives, and that the derivation gives the
  tree back but for groupings and lines.

  Key definitions include:
    * `Scans`
    * `ReadsAs`

  The main statement is `Expr.Renders.reads`.
-/

namespace LoxExpr

------------------------------------------------------------
-- Weaker Nonterminals
------------------------------------------------------------

namespace Derives

variable {w : List Token}
variable {tree : Expr}

/- A unary phrase is a phrase of every level. -/
theorem level_of_unary
    (h : Derives .unary w tree)
    (level : Level) :
    Derives (.level level) w tree := by
  have hFactor : Derives (.level .factor) w tree :=
    .operand h
  have hTerm : Derives (.level .term) w tree :=
    .operand hFactor
  have hComparison : Derives (.level .comparison) w tree :=
    .operand hTerm
  cases level with
  | factor => exact hFactor
  | term => exact hTerm
  | comparison => exact hComparison
  | equality => exact .operand hComparison

/- A unary phrase is an operand of every level. -/
theorem operand_of_unary
    (h : Derives .unary w tree)
    (level : Level) :
    Derives level.operandNonterminal w tree := by
  cases level with
  | factor => exact h
  | term => exact h.level_of_unary .factor
  | comparison => exact h.level_of_unary .term
  | equality => exact h.level_of_unary .comparison

/- A phrase of any level is a conditional. -/
theorem conditional_of_level
    {level : Level}
    (h : Derives (.level level) w tree) :
    Derives .conditional w tree := by
  apply Derives.condition
  cases level with
  | equality => exact h
  | comparison => exact .operand h
  | term =>
      have hComparison : Derives (.level .comparison) w tree :=
        .operand h
      exact .operand hComparison
  | factor =>
      have hTerm : Derives (.level .term) w tree :=
        .operand h
      have hComparison : Derives (.level .comparison) w tree :=
        .operand hTerm
      exact .operand hComparison

end Derives

------------------------------------------------------------
-- Texts That Are Scanned
------------------------------------------------------------

/-
  A text is cut in one way, without faults, before every rest
  that may follow it.
-/
structure Scans
    (text : List Char)
    (mayFollow : List Char → Prop)
    (cuts : List Segment) : Prop where
  cut : ∀ rest, mayFollow rest → Cuts (text ++ rest) cuts rest
  faultless : ∀ s ∈ cuts, s.IsFaultless

/- Anything may follow. -/
def Anything (_ : List Char) : Prop :=
  True

/- The end or a closing parenthesis follows. -/
def Closes (rest : List Char) : Prop :=
  ∀ c, rest.head? = some c → c = ')'

/- An opening parenthesis follows. -/
def Opens (rest : List Char) : Prop :=
  rest.head? = some '('

/- A text behind another that it may follow. -/
theorem Scans.append
    {text text' : List Char}
    {mayFollow mayFollow' : List Char → Prop}
    {cuts cuts' : List Segment}
    (h : Scans text mayFollow cuts)
    (h' : Scans text' mayFollow' cuts')
    (hFollow :
      ∀ rest, mayFollow' rest → mayFollow (text' ++ rest)) :
    Scans (text ++ text') mayFollow' (cuts ++ cuts') where
  cut := by
    intro rest hRest
    rw [List.append_assoc]
    exact (h.cut _ (hFollow rest hRest)).append
      (h'.cut rest hRest)
  faultless := by
    intro s hMem
    rcases List.mem_append.mp hMem with hMem | hMem
    · exact h.faultless s hMem
    · exact h'.faultless s hMem

/- A single token before what may follow it. -/
theorem scans_of_isNext
    {s : Segment}
    {kind : Kind}
    {literal : Option Literal}
    {mayFollow : List Char → Prop}
    (hContent : s.content = .token kind literal)
    (hNext : ∀ rest, mayFollow rest → s.IsNext rest) :
    Scans s.text mayFollow [s] where
  cut := by
    intro rest hFollow
    exact .next (hNext rest hFollow) .done
  faultless := by
    intro s' hMem fault hFault
    rw [List.mem_singleton.mp hMem, hContent] at hFault
    exact absurd hFault (by simp)

/- A segment of a token that has no literal. -/
def Segment.ofLexeme
    (c : Char)
    (tail : List Char)
    (kind : Kind) : Segment :=
  ⟨c, tail, .token kind none⟩

theorem tokensOn_ofLexeme
    (line : Nat)
    (c : Char)
    (tail : List Char)
    (kind : Kind) :
    tokensOn line [.ofLexeme c tail kind] =
      [⟨kind, String.ofList (c :: tail), none, line⟩] := rfl

theorem scans_punctuation
    {c : Char}
    {kind : Kind}
    (hKind : Segment.punctuation? c = some kind) :
    Scans [c] Anything [.ofLexeme c [] kind] :=
  scans_of_isNext (s := .ofLexeme c [] kind) rfl
    fun rest _ => Segment.isNext_punctuation hKind rest

theorem scans_operator
    {c : Char}
    {tail : List Char}
    {kind : Kind}
    (hEntry : (c :: tail, kind) ∈ operatorLexemes) :
    Scans (c :: tail) Opens [.ofLexeme c tail kind] :=
  scans_of_isNext (s := .ofLexeme c tail kind) rfl
    fun _ hOpens => Segment.isNext_operator hEntry hOpens

/- Less may follow a text. -/
theorem Scans.before
    {text : List Char}
    {mayFollow mayFollow' : List Char → Prop}
    {cuts : List Segment}
    (h : Scans text mayFollow cuts)
    (hFollow : ∀ rest, mayFollow' rest → mayFollow rest) :
    Scans text mayFollow' cuts where
  cut := fun rest hRest => h.cut rest (hFollow rest hRest)
  faultless := h.faultless

/- A text in parentheses is scanned before any rest. -/
theorem Scans.wrapped
    {text : List Char}
    {cuts : List Segment}
    (h : Scans text Closes cuts) :
    Scans (wrapped text) Anything
      ([.ofLexeme '(' [] .leftParen] ++
        (cuts ++ [.ofLexeme ')' [] .rightParen])) := by
  have hInner :=
    h.append (scans_punctuation (c := ')') rfl) (by
      intro rest _ c hHead
      exact (Option.some.inj hHead).symm)
  exact (scans_punctuation (c := '(') rfl).append hInner
    fun _ _ => trivial

------------------------------------------------------------
-- Texts That Are Read
------------------------------------------------------------

/-
  On every line, the tokens of the cuts are a word of the
  nonterminal, with a tree that is known but for groupings
  and lines.
-/
def ReadsAs
    (start : Nonterminal)
    (cuts : List Segment)
    (bare : Expr) : Prop :=
  ∀ line, ∃ tree,
    Derives start (tokensOn line cuts) tree ∧
      tree.bare = bare

/- A group is read as the expression inside. -/
theorem ReadsAs.wrapped
    {cuts : List Segment}
    {bare : Expr}
    (h : ReadsAs .expression cuts bare) :
    ReadsAs .primary
      ([.ofLexeme '(' [] .leftParen] ++
        (cuts ++ [.ofLexeme ')' [] .rightParen])) bare := by
  intro line
  rw [tokensOn_append, tokensOn_append]
  rcases h (lineAfter line [.ofLexeme '(' [] .leftParen])
    with ⟨tree, hDerives, hBare⟩
  exact ⟨.grouping tree, .grouping rfl hDerives rfl, hBare⟩

/- A token with a value is read as that value. -/
theorem readsAs_literal
    {s : Segment}
    {kind : Kind}
    {literal : Option Literal}
    {value : Value}
    (hContent : s.content = .token kind literal)
    (hValue :
      ∀ line,
        Value.ofToken? ⟨kind, s.lexeme, literal, line⟩ =
          some value) :
    ReadsAs .primary [s] (.literal value) := by
  intro line
  refine ⟨.literal value, ?_, rfl⟩
  rw [tokensOn_cons hContent]
  exact .literal (hValue line)

------------------------------------------------------------
-- Values
------------------------------------------------------------

/- A keyword is scanned before a closing parenthesis. -/
theorem scans_keyword
    {c : Char}
    {tail : List Char}
    (kind : Kind)
    (hKeyword :
      (String.ofList (c :: tail), kind) ∈ keywordLexemes)
    (hWord : (c :: tail).all Text.isAlphabetic = true) :
    Scans (c :: tail) Closes [.ofLexeme c tail kind] := by
  have hLetters := List.all_eq_true.mp hWord
  have hParen :
      Text.isAlphabetic ')' = false ∧
        Text.isNumeric ')' = false := by
    decide
  apply scans_of_isNext (s := .ofLexeme c tail kind) rfl
  intro rest hCloses
  apply Segment.isNext_word
  · refine ⟨c, tail, rfl, hLetters c List.mem_cons_self, ?_⟩
    intro d hMem
    exact Or.inl (hLetters d (List.mem_cons_of_mem c hMem))
  · exact Or.inl hKeyword
  · intro d hHead
    rw [hCloses d hHead]
    simp [hParen]

/- A negated `nil` is scanned to its two tokens. -/
theorem scans_minus_nil :
    Scans ['-', 'n', 'i', 'l'] Closes
      [.ofLexeme '-' [] .minus,
        .ofLexeme 'n' ['i', 'l'] .kwNil] :=
  (scans_punctuation rfl).append
    (scans_keyword .kwNil (by decide) (by decide))
    fun _ _ => trivial

/- Every text of a value is read as the value. -/
theorem Value.Renders.reads
    {value : Value}
    {text : List Char}
    (h : value.Renders text) :
    ∃ cuts, Scans text Closes cuts ∧
      ReadsAs .primary cuts (.literal value) := by
  cases h with
  | kwNil =>
      exact ⟨_,
        scans_keyword .kwNil (by decide) (by decide),
        readsAs_literal rfl fun _ => rfl⟩
  | kwTrue =>
      exact ⟨_,
        scans_keyword .kwTrue (by decide) (by decide),
        readsAs_literal rfl fun _ => rfl⟩
  | kwFalse =>
      exact ⟨_,
        scans_keyword .kwFalse (by decide) (by decide),
        readsAs_literal rfl fun _ => rfl⟩
  | number hNumeral =>
      cases text with
      | nil =>
          rcases hNumeral with
            hDigits | ⟨whole, fraction, _, _, hNil⟩
          · exact absurd rfl hDigits.1
          · simp at hNil
      | cons c tail =>
          let s : Segment := ⟨c, tail, .token .number
            (some (.number (Numeral.value (c :: tail))))⟩
          refine ⟨[s], scans_of_isNext (s := s) rfl ?_,
            readsAs_literal rfl fun _ => rfl⟩
          intro rest hCloses
          apply Segment.isNext_numeral hNumeral
          intro d hHead
          rw [hCloses d hHead]
          decide
  | @string text hQuote =>
      let s : Segment := ⟨'"', text.toList ++ ['"'],
        .token .string
          (some (.string (String.ofList text.toList)))⟩
      refine ⟨[s], scans_of_isNext (s := s) rfl ?_,
        readsAs_literal rfl fun _ => ?_⟩
      · intro rest _
        exact .string hQuote
      · rw [String.ofList_toList]
        rfl

------------------------------------------------------------
-- Trees
------------------------------------------------------------

/- The lexeme of an operator is not empty. -/
theorem Token.IsUsual.exists_cons
    {operator : Token}
    (hUsual : operator.IsUsual) :
    ∃ c tail, operator.lexeme.toList = c :: tail ∧
      (c :: tail, operator.kind) ∈ operatorLexemes ∧
      ∀ line,
        (⟨operator.kind, String.ofList (c :: tail), none,
          line⟩ : Token).offLine = operator.offLine := by
  have hLexeme := hUsual.lexeme
  cases hList : operator.lexeme.toList with
  | nil =>
      rw [hList] at hLexeme
      exact absurd hLexeme (by simp [operatorLexemes])
  | cons c tail =>
      refine ⟨c, tail, rfl, hList ▸ hLexeme, ?_⟩
      intro line
      rw [← hList, String.ofList_toList]
      simp [offLine, hUsual.literal]

/- A primary phrase is read as an expression. -/
theorem ReadsAs.expression
    {cuts : List Segment}
    {bare : Expr}
    (h : ReadsAs .primary cuts bare) :
    ReadsAs .expression cuts bare := by
  intro line
  rcases h line with ⟨tree, hDerives, hBare⟩
  have hFactor :=
    (Derives.primary hDerives).level_of_unary .factor
  exact ⟨tree, .expression hFactor.conditional_of_level,
    hBare⟩

/- An operator before a group is read with the group. -/
theorem readsAs_unary
    {operator : Token}
    (hKind : operator.kind ∈ unaryOperators)
    {c : Char}
    {tail : List Char}
    (hSame :
      ∀ line,
        (⟨operator.kind, String.ofList (c :: tail), none,
          line⟩ : Token).offLine = operator.offLine)
    {cuts : List Segment}
    {bare : Expr}
    (h : ReadsAs .primary cuts bare) :
    ReadsAs .expression
      ([.ofLexeme c tail operator.kind] ++ cuts)
      (.unary operator.offLine bare) := by
  intro line
  rw [tokensOn_append, tokensOn_ofLexeme]
  rcases h (lineAfter line [.ofLexeme c tail operator.kind])
    with ⟨tree, hDerives, hBare⟩
  let token : Token :=
    ⟨operator.kind, String.ofList (c :: tail), none, line⟩
  have hUnary : Derives .unary (token :: _)
      (.unary token tree) :=
    .unary hKind (.primary hDerives)
  have hFactor := hUnary.level_of_unary .factor
  refine ⟨_, .expression hFactor.conditional_of_level, ?_⟩
  rw [Expr.bare, hSame, hBare]

/- An operator between groups is read with both of them. -/
theorem readsAs_binary
    {operator : Token}
    {level : Level}
    (hKind : operator.kind ∈ level.operators)
    {c : Char}
    {tail : List Char}
    (hSame :
      ∀ line,
        (⟨operator.kind, String.ofList (c :: tail), none,
          line⟩ : Token).offLine = operator.offLine)
    {cuts cuts' : List Segment}
    {bare bare' : Expr}
    (h : ReadsAs .primary cuts bare)
    (h' : ReadsAs .primary cuts' bare') :
    ReadsAs .expression
      (cuts ++ ([.ofLexeme c tail operator.kind] ++ cuts'))
      (.binary bare operator.offLine bare') := by
  intro line
  rw [tokensOn_append, tokensOn_append, tokensOn_ofLexeme]
  rcases h line with ⟨left, hLeft, hBare⟩
  rcases h'
      (lineAfter (lineAfter line cuts)
        [.ofLexeme c tail operator.kind])
    with ⟨right, hRight, hBare'⟩
  let token : Token :=
    ⟨operator.kind, String.ofList (c :: tail), none,
      lineAfter line cuts⟩
  have hLevel : Derives (.level level) (_ ++ token :: _)
      (.binary left token right) :=
    .operator ((Derives.primary hLeft).level_of_unary level)
      hKind ((Derives.primary hRight).operand_of_unary level)
  refine ⟨_, .expression hLevel.conditional_of_level, ?_⟩
  rw [Expr.bare, hSame, hBare, hBare']

/- Groups around the marks of a conditional are its parts. -/
theorem readsAs_conditional
    {cuts₁ cuts₂ cuts₃ : List Segment}
    {bare₁ bare₂ bare₃ : Expr}
    (h₁ : ReadsAs .primary cuts₁ bare₁)
    (h₂ : ReadsAs .primary cuts₂ bare₂)
    (h₃ : ReadsAs .primary cuts₃ bare₃) :
    ReadsAs .expression
      (cuts₁ ++ ([.ofLexeme '?' [] .question] ++
        (cuts₂ ++ ([.ofLexeme ':' [] .colon] ++ cuts₃))))
      (.conditional bare₁ bare₂ bare₃) := by
  intro line
  simp only [tokensOn_append, tokensOn_ofLexeme]
  rcases h₁ line with ⟨condition, hCondition, hBare₁⟩
  rcases h₂.expression _ with ⟨thenBranch, hThen, hBare₂⟩
  rcases h₃.expression _ with ⟨elseBranch, hElse, hBare₃⟩
  cases hElse with
  | expression hElse =>
      refine ⟨_, .expression (.branches
        ((Derives.primary hCondition).level_of_unary
          .equality)
        rfl hThen rfl hElse), ?_⟩
      rw [Expr.bare, hBare₁, hBare₂, hBare₃]

/-
  Every text of a tree is scanned and read as the tree, but
  for groupings and lines.
-/
theorem Expr.Renders.reads
    {e : Expr}
    {text : List Char}
    (h : e.Renders text) :
    ∃ cuts, Scans text Closes cuts ∧
      ReadsAs .expression cuts e.bare := by
  induction h with
  | literal hValue =>
      rcases hValue.reads with ⟨cuts, hScans, hReads⟩
      exact ⟨cuts, hScans, hReads.expression⟩
  | grouping _ ih =>
      rcases ih with ⟨cuts, hScans, hReads⟩
      exact ⟨_, hScans.wrapped.before fun _ _ => trivial,
        hReads.wrapped.expression⟩
  | @unary operator right text hUsual hKind _ ih =>
      rcases ih with ⟨cuts, hScans, hReads⟩
      rcases hUsual.exists_cons with
        ⟨c, tail, hLexeme, hEntry, hSame⟩
      rw [hLexeme]
      have hText :=
        (scans_operator hEntry).append hScans.wrapped
          fun _ _ => rfl
      exact ⟨_, hText.before fun _ _ => trivial,
        readsAs_unary hKind hSame hReads.wrapped⟩
  | @binary left operator right text₁ text₂ level hUsual
      hKind _ _ ih₁ ih₂ =>
      rcases ih₁ with ⟨cuts₁, hScans₁, hReads₁⟩
      rcases ih₂ with ⟨cuts₂, hScans₂, hReads₂⟩
      rcases hUsual.exists_cons with
        ⟨c, tail, hLexeme, hEntry, hSame⟩
      rw [hLexeme]
      have hRight :=
        (scans_operator hEntry).append hScans₂.wrapped
          fun _ _ => rfl
      have hText :=
        hScans₁.wrapped.append hRight fun _ _ => trivial
      exact ⟨_, hText.before fun _ _ => trivial,
        readsAs_binary hKind hSame hReads₁.wrapped
          hReads₂.wrapped⟩
  | conditional _ _ _ ih₁ ih₂ ih₃ =>
      rcases ih₁ with ⟨cuts₁, hScans₁, hReads₁⟩
      rcases ih₂ with ⟨cuts₂, hScans₂, hReads₂⟩
      rcases ih₃ with ⟨cuts₃, hScans₃, hReads₃⟩
      have hElse :=
        (scans_punctuation (c := ':') rfl).append
          hScans₃.wrapped fun _ _ => trivial
      have hThen :=
        (scans_punctuation (c := '?') rfl).append
          (hScans₂.wrapped.append hElse fun _ _ => trivial)
          fun _ _ => trivial
      have hText :=
        hScans₁.wrapped.append hThen fun _ _ => trivial
      exact ⟨_, hText.before fun _ _ => trivial,
        readsAs_conditional hReads₁.wrapped hReads₂.wrapped
          hReads₃.wrapped⟩

end LoxExpr
