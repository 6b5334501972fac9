import LoxExpr.Command
import LoxExpr.Proofs.Lexical.Lines
import LoxExpr.Proofs.Number.Texts
import LoxExpr.Proofs.Program.Verdicts
import LoxExpr.Proofs.Text.Escapes

/-
  This file shows that the listing of tokens can be decoded.
  The line of a token determines all four fields of it, and
  it has no line break in it, so that the lines of a listing
  determine the tokens.

  Key definitions include:
    * `Token.IsListable`
    * `Literal.IsPlain`

  Main statements:
    * `Token.text_injective`
    * `Token.not_isBreak_of_mem_text`
    * `listing_decodes`
-/

namespace LoxExpr

open Text (IsBreak)

------------------------------------------------------------
-- Names of Kinds
------------------------------------------------------------

namespace Kind

/- The kind is found again by its name. -/
theorem ofName?_name (kind : Kind) :
    ofName? kind.name = some kind := by
  cases kind <;> decide

theorem name_injective
    {kind kind' : Kind}
    (hSame : kind.name = kind'.name) :
    kind = kind' := by
  have hFound := kind.ofName?_name
  rw [hSame, kind'.ofName?_name] at hFound
  exact (Option.some.inj hFound).symm

/- The names are written in capital letters. -/
def isNameChar (c : Char) : Bool :=
  c.isUpper || c == '_'

theorem all_isNameChar (kind : Kind) :
    kind.name.toList.all isNameChar = true := by
  cases kind <;> decide

theorem isNameChar_of_mem_name
    {kind : Kind}
    {c : Char}
    (hMem : c ∈ kind.name.toList) :
    isNameChar c = true :=
  List.all_eq_true.mp kind.all_isNameChar c hMem

end Kind

------------------------------------------------------------
-- Fields of a Line
------------------------------------------------------------

/- A literal, if there is one, is no pattern of no number. -/
def Token.IsListable (token : Token) : Prop :=
  ∀ x, token.literal = some (.number x) → x.isNaN = false

/- The characters of a token in a listing, field by field. -/
theorem Token.toList_text (token : Token) :
    token.text.toList =
      "Token(".toList ++ (token.kind.name.toList ++
        (", lexeme=".toList ++
          ((Text.quoted token.lexeme).toList ++
            (", literal=".toList ++
              (token.literalText.toList ++
                (", line=".toList ++
                  (Decimal.digitChars token.line ++
                    [')']))))))) := by
  simp [text, Decimal.natText, String.toList_append]

/- A comma is no part of a name or a number. -/
theorem Kind.ne_comma_of_mem_name
    {kind : Kind} :
    ∀ c ∈ kind.name.toList, c ≠ ',' := by
  rintro _ hMem rfl
  exact absurd (isNameChar_of_mem_name hMem) (by decide)

theorem IsNumberChar.ne_comma
    {c : Char}
    (hChar : IsNumberChar c) :
    c ≠ ',' := by
  rintro rfl
  exact absurd hChar (by decide)

namespace Literal

/- A literal in a listing, or the word for none. -/
def listed : Option Literal → String
| some literal => literal.text
| none => "nil"

/- There is no literal, or it is a number. -/
inductive IsPlain : Option Literal → Prop where
| absent : IsPlain none
| number (x : Float) :
    x.isNaN = false → IsPlain (some (.number x))

theorem isNumberChar_of_mem_text
    {x : Float}
    (hNumber : x.isNaN = false)
    {c : Char}
    (hMem : c ∈ (number x).text.toList) :
    IsNumberChar c :=
  Double.isForm_plain.isNumberChar_of_mem_textWith hNumber hMem

theorem text_number_ne_nil
    {x : Float}
    (hNumber : x.isNaN = false) :
    (number x).text ≠ "nil" :=
  Double.isForm_plain.textWith_ne hNumber (by decide)

/- A word ends before the comma behind it. -/
theorem IsPlain.ne_comma
    {literal : Option Literal}
    (hPlain : IsPlain literal) :
    ∀ c ∈ (listed literal).toList, c ≠ ',' := by
  cases hPlain with
  | absent =>
      have hNil :
          (listed none).toList.all fun c => c != ',' := by
        decide
      simpa using hNil
  | number x hNumber =>
      exact fun c hMem =>
        (isNumberChar_of_mem_text hNumber hMem).ne_comma

/- The word determines the literal. -/
theorem IsPlain.eq_of_listed_eq
    {literal literal' : Option Literal}
    (hPlain : IsPlain literal)
    (hPlain' : IsPlain literal')
    (hSame : listed literal = listed literal') :
    literal = literal' := by
  cases hPlain with
  | absent =>
      cases hPlain' with
      | absent => rfl
      | number x hNumber =>
          exact absurd hSame.symm (text_number_ne_nil hNumber)
  | number x hNumber =>
      cases hPlain' with
      | absent => exact absurd hSame (text_number_ne_nil hNumber)
      | number y hNumber' =>
          rw [Double.isForm_plain.textWith_injective hNumber
            hNumber' hSame]

/- No word begins with a quote. -/
theorem IsPlain.ne_quoted
    {literal : Option Literal}
    {text : String}
    {rest rest' : List Char}
    (hPlain : IsPlain literal) :
    (listed literal).toList ++ rest ≠
      (Text.quoted text).toList ++ rest' := by
  rw [Text.quoted, String.toList_ofList]
  intro hSame
  cases hPlain with
  | absent => exact absurd (List.cons.inj hSame).1 (by decide)
  | number x hNumber =>
      rcases Double.isForm_plain.exists_cons_textWith hNumber
        with ⟨c, more, hText, hChar⟩
      have hHead :
          (Literal.number x).text.toList = c :: more := hText
      rw [listed, hHead] at hSame
      rw [(List.cons.inj hSame).1] at hChar
      exact absurd hChar (by decide)

/- What is listed for a literal shows where it ends. -/
theorem listed_append_inj
    {literal literal' : Option Literal}
    {rest rest' : List Char}
    (hCase :
      IsPlain literal ∨ ∃ s, literal = some (.string s))
    (hCase' :
      IsPlain literal' ∨ ∃ s, literal' = some (.string s))
    (hSame :
      (listed literal).toList ++ ',' :: rest =
        (listed literal').toList ++ ',' :: rest') :
    literal = literal' ∧ rest = rest' := by
  rcases hCase with hPlain | ⟨s, rfl⟩
  · rcases hCase' with hPlain' | ⟨s', rfl⟩
    · rcases append_inj_of_head? hPlain.ne_comma
          hPlain'.ne_comma (by simp) (by simp) hSame with
        ⟨hListed, hRest⟩
      exact ⟨hPlain.eq_of_listed_eq hPlain'
        (String.toList_inj.mp hListed),
        (List.cons.inj hRest).2⟩
    · exact absurd hSame hPlain.ne_quoted
  · rcases hCase' with hPlain' | ⟨s', rfl⟩
    · exact absurd hSame.symm hPlain'.ne_quoted
    · rcases Text.quoted_append_inj hSame with ⟨rfl, hRest⟩
      exact ⟨rfl, (List.cons.inj hRest).2⟩

end Literal

------------------------------------------------------------
-- Lines of a Listing
------------------------------------------------------------

namespace Token

theorem IsListable.literal_cases
    {token : Token}
    (hListable : token.IsListable) :
    Literal.IsPlain token.literal ∨
      ∃ s, token.literal = some (.string s) := by
  cases hLiteral : token.literal with
  | none => exact Or.inl .absent
  | some literal =>
      cases literal with
      | number x =>
          exact Or.inl (.number x (hListable x hLiteral))
      | string s => exact Or.inr ⟨s, rfl⟩

/- The line of a token determines its four fields. -/
theorem text_injective
    {token token' : Token}
    (hListable : token.IsListable)
    (hListable' : token'.IsListable)
    (hSame : token.text = token'.text) :
    token = token' := by
  have hChars := congrArg String.toList hSame
  rw [toList_text, toList_text] at hChars
  -- The name ends before the first comma.
  rcases append_inj_of_head? Kind.ne_comma_of_mem_name
      Kind.ne_comma_of_mem_name (by simp) (by simp)
      (List.append_cancel_left hChars) with ⟨hName, hRest⟩
  rcases Text.quoted_append_inj
      (List.append_cancel_left hRest) with ⟨hLexeme, hRest⟩
  rcases Literal.listed_append_inj hListable.literal_cases
      hListable'.literal_cases
      (List.append_cancel_left hRest) with ⟨hLiteral, hRest⟩
  have hLine := List.append_cancel_right
    (List.append_cancel_left (List.cons.inj hRest).2)
  rcases token with ⟨kind, lexeme, literal, line⟩
  rcases token' with ⟨kind', lexeme', literal', line'⟩
  rw [mk.injEq]
  exact ⟨Kind.name_injective (String.toList_inj.mp hName),
    hLexeme, hLiteral, Decimal.digitChars_injective hLine⟩

end Token

------------------------------------------------------------
-- Line Breaks
------------------------------------------------------------

theorem not_isBreak_of_isDigit
    {c : Char}
    (hDigit : c.isDigit = true) :
    ¬ IsBreak c := by
  rintro (rfl | rfl)
  · exact absurd hDigit (by decide)
  · exact absurd hDigit (by decide)

theorem IsNumberChar.not_isBreak
    {c : Char}
    (hChar : IsNumberChar c) :
    ¬ IsBreak c := by
  rintro (rfl | rfl)
  · exact absurd hChar (by decide)
  · exact absurd hChar (by decide)

theorem Kind.not_isBreak_of_mem_name
    {kind : Kind}
    {c : Char}
    (hMem : c ∈ kind.name.toList) :
    ¬ IsBreak c := by
  have hChar := isNameChar_of_mem_name hMem
  rintro (rfl | rfl)
  · exact absurd hChar (by decide)
  · exact absurd hChar (by decide)

/- A fixed text without line breaks has none. -/
theorem not_isBreak_of_all
    {text : String}
    (hAll : (text.toList.all fun c => ¬ IsBreak c) = true) :
    ∀ c ∈ text.toList, ¬ IsBreak c :=
  List.all_iff_forall_prop.mp hAll

theorem Literal.not_isBreak_of_mem_listed
    {literal : Option Literal}
    {c : Char}
    (hMem : c ∈ (listed literal).toList) :
    ¬ IsBreak c := by
  cases literal with
  | none => exact not_isBreak_of_all (by decide) c hMem
  | some literal =>
      cases literal with
      | string s => exact Text.not_isBreak_of_mem_quoted hMem
      | number x =>
          cases hNumber : x.isNaN with
          | false =>
              exact (isNumberChar_of_mem_text hNumber
                hMem).not_isBreak
          | true =>
              have hText : (number x).text = "NaN" :=
                if_pos ((Double.isNaN_iff x).mp hNumber)
              rw [listed, hText] at hMem
              exact not_isBreak_of_all (by decide) c hMem

/- A token is listed on one line, whatever it holds. -/
theorem Token.not_isBreak_of_mem_text
    {token : Token}
    {c : Char}
    (hMem : c ∈ token.text.toList) :
    ¬ IsBreak c := by
  rw [toList_text] at hMem
  simp only [List.mem_append] at hMem
  rcases hMem with hMark | hName | hMark | hLexeme | hMark |
    hLiteral | hMark | hLine | hMark
  · exact not_isBreak_of_all (by decide) c hMark
  · exact Kind.not_isBreak_of_mem_name hName
  · exact not_isBreak_of_all (by decide) c hMark
  · exact Text.not_isBreak_of_mem_quoted hLexeme
  · exact not_isBreak_of_all (by decide) c hMark
  · exact Literal.not_isBreak_of_mem_listed hLiteral
  · exact not_isBreak_of_all (by decide) c hMark
  · exact not_isBreak_of_isDigit
      ((Decimal.isDigits_digitChars token.line).2 c hLine)
  · rw [List.mem_singleton.mp hMark]
    decide

------------------------------------------------------------
-- Whole Listings
------------------------------------------------------------

theorem toList_unlines_cons
    (text : String)
    (texts : List String) :
    (unlines (text :: texts)).toList =
      text.toList ++ '\n' :: (unlines texts).toList := by
  simp [unlines, String.join_cons, String.toList_append]

/- The lines of a listing determine its tokens. -/
theorem eq_of_unlines_eq
    {tokens tokens' : List Token}
    (hListable : ∀ t ∈ tokens, t.IsListable)
    (hListable' : ∀ t ∈ tokens', t.IsListable)
    (hSame :
      unlines (tokens.map Token.text) =
        unlines (tokens'.map Token.text)) :
    tokens = tokens' := by
  have hFeed (token : Token) :
      ∀ c ∈ token.text.toList, c ≠ '\n' := fun c hMem hFeed =>
    Token.not_isBreak_of_mem_text hMem (Or.inl hFeed)
  induction tokens generalizing tokens' with
  | nil =>
      cases tokens' with
      | nil => rfl
      | cons token' tokens' =>
          have hChars := congrArg String.toList hSame
          rw [List.map_cons, toList_unlines_cons] at hChars
          simp [unlines, String.join] at hChars
  | cons token tokens ih =>
      cases tokens' with
      | nil =>
          have hChars := congrArg String.toList hSame
          rw [List.map_cons, toList_unlines_cons] at hChars
          simp [unlines, String.join] at hChars
      | cons token' tokens' =>
          have hChars := congrArg String.toList hSame
          rw [List.map_cons, List.map_cons,
            toList_unlines_cons, toList_unlines_cons] at hChars
          rcases append_inj_of_head? (hFeed token)
              (hFeed token') (by simp) (by simp) hChars with
            ⟨hText, hMore⟩
          rw [List.forall_mem_cons] at hListable hListable'
          have hFirst := Token.text_injective hListable.1
            hListable'.1 (String.toList_inj.mp hText)
          have hRest := ih hListable.2 hListable'.2
            (String.toList_inj.mp (List.cons.inj hMore).2)
          rw [hFirst, hRest]

/- Every token is the end of the input or has been cut. -/
theorem exists_isNext_of_mem_scan
    {source : String}
    {token : Token}
    (hMem : token ∈ (scan source).tokens) :
    token.literal = none ∨
      ∃ s more, Segment.IsNext s more ∧
        s.content = .token token.kind token.literal := by
  rw [tokens_scan] at hMem
  rcases List.mem_append.mp hMem with hToken | hClosing
  · rcases exists_of_mem_tokensOn hToken with
      ⟨front, s, behind, hSplit, hContent, _⟩
    have hCuts := cuts_segments source.toList
    rw [hSplit] at hCuts
    rcases hCuts.exists_of_append with ⟨more, _, hNext, _⟩
    exact Or.inr ⟨s, more, hNext, hContent⟩
  · rw [List.mem_singleton.mp hClosing]
    exact Or.inl rfl

/- The number of a numeral is one. -/
theorem Segment.IsNext.isNaN_eq
    {s : Segment}
    {more : List Char}
    (hNext : s.IsNext more)
    {kind : Kind}
    {x : Float}
    (hContent : s.content = .token kind (some (.number x))) :
    x.isNaN = false := by
  cases hNext with
  | numeral _ =>
      cases hContent
      exact Double.isNaN_value _
  | _ => exact nomatch hContent

theorem isListable_of_mem_scan
    {source : String}
    {token : Token}
    (hMem : token ∈ (scan source).tokens) :
    token.IsListable := by
  intro x hLiteral
  rcases exists_isNext_of_mem_scan hMem with
    hNone | ⟨s, more, hNext, hContent⟩
  · rw [hNone] at hLiteral
    exact nomatch hLiteral
  · rw [hLiteral] at hContent
    exact hNext.isNaN_eq hContent

/- The tokens of a source, if it is tokenized at all. -/
theorem Program.tokens_of_tokenize
    {source : String}
    {tokens : List Token}
    (hOk : (tokenize source).result = .ok tokens) :
    tokens = (scan source).tokens ∧
      (FileAction.tokens.perform source).screen.out =
        unlines (tokens.map Token.text) := by
  constructor
  · rcases tokenize_cases source with hTokens | hReports
    · rw [hTokens] at hOk
      exact (Except.ok.inj hOk).symm
    · rw [hReports] at hOk
      exact nomatch hOk
  · simp [FileAction.perform, Verdict.effect, Verdict.screen,
      hOk, Screen.ofErr, Screen.ofOut]

/-
  The listing of tokens can be decoded.  The line of a token
  determines the token, unless its literal is the pattern of
  no number; no line of a token has a line break in it; and
  sources with the same listing have the same tokens.
-/
theorem listing_decodes :
    (∀ token token' : Token,
      token.IsListable →
      token'.IsListable →
      token.text = token'.text →
        token = token') ∧
    (∀ token : Token,
      '\n' ∉ token.text.toList ∧ '\r' ∉ token.text.toList) ∧
    ∀ (source source' : String) (tokens tokens' : List Token),
      (Program.tokenize source).result = .ok tokens →
      (Program.tokenize source').result = .ok tokens' →
      (FileAction.tokens.perform source).screen.out =
        (FileAction.tokens.perform source').screen.out →
      tokens = tokens' := by
  refine ⟨fun _ _ => Token.text_injective, ?_, ?_⟩
  · intro token
    exact ⟨fun hMem =>
        Token.not_isBreak_of_mem_text hMem (Or.inl rfl),
      fun hMem =>
        Token.not_isBreak_of_mem_text hMem (Or.inr rfl)⟩
  · intro source source' tokens tokens' hOk hOk' hOut
    rcases Program.tokens_of_tokenize hOk with ⟨rfl, hLines⟩
    rcases Program.tokens_of_tokenize hOk' with ⟨rfl, hLines'⟩
    rw [hLines, hLines'] at hOut
    exact eq_of_unlines_eq (fun _ => isListable_of_mem_scan)
      (fun _ => isListable_of_mem_scan) hOut

/-
  A lexeme that looks like the rest of a line is told from
  it, and layout does not show in a listing.
-/
theorem listing_decodes_paren :
    let token : Token :=
      ⟨.string, "\", literal=nil\n", some (.string ")"), 3⟩
    let text :=
      "Token(STRING, lexeme=\"\\\", literal=nil\\n\", " ++
        "literal=\")\", line=3)"
    token.IsListable ∧ token.text = text ∧
      (∀ token' : Token,
        token'.IsListable → token'.text = text →
          token' = token) ∧
      (Program.tokenize "(").result =
        .ok (scan "(").tokens ∧
      (Program.tokenize " (").result =
        .ok (scan " (").tokens ∧
      (scan "(").tokens = (scan " (").tokens := by
  intro token text
  have hListable : token.IsListable := fun x hLiteral =>
    nomatch hLiteral
  have hText : token.text = text := by decide
  have hScan : scan "(" =
      ⟨[⟨.leftParen, "(", none, 1⟩, .endOfInput 1], []⟩ := by
    have hCuts : Cuts "(".toList
        [⟨'(', [], .token .leftParen none⟩] [] :=
      .next (Segment.isNext_first '(' []) .done
    rw [scan_eq_of_cuts hCuts]
    rfl
  have hScan' : scan " (" =
      ⟨[⟨.leftParen, "(", none, 1⟩, .endOfInput 1], []⟩ := by
    have hCuts : Cuts " (".toList
        [⟨' ', [], .layout⟩,
         ⟨'(', [], .token .leftParen none⟩] [] :=
      .next (Segment.isNext_first ' ' ['('])
        (.next (Segment.isNext_first '(' []) .done)
    rw [scan_eq_of_cuts hCuts]
    rfl
  have hOk : (Program.tokenize "(").result =
      .ok (scan "(").tokens := by
    rw [Program.tokenize, hScan]
    rfl
  have hOk' : (Program.tokenize " (").result =
      .ok (scan " (").tokens := by
    rw [Program.tokenize, hScan']
    rfl
  have hOut : (FileAction.tokens.perform "(").screen.out =
      (FileAction.tokens.perform " (").screen.out := by
    rw [FileAction.perform, FileAction.perform,
      Program.tokenize, Program.tokenize, hScan, hScan']
  refine ⟨hListable, hText, ?_, hOk, hOk', ?_⟩
  · intro token' hListable' hText'
    exact listing_decodes.1 token' token hListable' hListable
      (hText'.trans hText.symm)
  · exact listing_decodes.2.2 "(" " (" _ _ hOk hOk' hOut

end LoxExpr
