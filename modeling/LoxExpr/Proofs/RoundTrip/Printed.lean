import LoxExpr.Proofs.Grammar.Language
import LoxExpr.Proofs.Number.Sizes
import LoxExpr.Proofs.Program.FrontEnds
import LoxExpr.Proofs.RoundTrip.Rescan

/-
  This file shows that printed values read back as
  themselves: numbers of moderate size, with their sign, and
  strings between quotes.  In a listing, numbers of any size
  read back.

  Main statements:
    * `scan_numeral`
    * `printed_values_read_back`
    * `small_number_does_not_read_back`
-/

namespace LoxExpr

------------------------------------------------------------
-- Sources of One Value
------------------------------------------------------------

/- The segment of a numeral. -/
def Segment.ofNumeral
    (c : Char)
    (tail : List Char) : Segment :=
  ⟨c, tail,
    .token .number
      (some (.number (Numeral.value (c :: tail))))⟩

/- The token of a numeral. -/
def Token.ofNumeral
    (w : List Char)
    (line : Nat) : Token :=
  ⟨.number, String.ofList w,
    some (.number (Numeral.value w)), line⟩

theorem scans_numeral
    {c : Char}
    {tail : List Char}
    (hNumeral : IsNumeral (c :: tail)) :
    Scans (c :: tail) Closes [.ofNumeral c tail] := by
  apply scans_of_isNext (s := .ofNumeral c tail) rfl
  intro rest hCloses
  apply Segment.isNext_numeral hNumeral
  intro d hHead
  rw [hCloses d hHead]
  decide

/- A numeral has digits and a point, and no line feed. -/
theorem lineFeeds_ofNumeral
    {c : Char}
    {tail : List Char}
    (hNumeral : IsNumeral (c :: tail)) :
    (Segment.ofNumeral c tail).lineFeeds = 0 := by
  apply List.count_eq_zero.mpr
  intro hMem
  exact absurd (hNumeral.isDigit_or_point '\n' hMem)
    (by decide)

/- A text that may stand at the end is scanned as a source. -/
theorem Scans.scan_eq
    {text : List Char}
    {cuts : List Segment}
    (h : Scans text Closes cuts) :
    scan (String.ofList text) =
      ⟨tokensOn 1 cuts ++
        [.endOfInput (lineAfter 1 cuts)], []⟩ := by
  have hCut := h.cut [] (by simp [Closes])
  rw [List.append_nil] at hCut
  rw [← String.toList_ofList (l := text)] at hCut
  exact scan_of_cuts hCut h.faultless

/- A source that is a numeral is scanned to its token. -/
theorem scan_numeral
    {w : List Char}
    (hNumeral : IsNumeral w) :
    scan (String.ofList w) =
      ⟨[.ofNumeral w 1, .endOfInput 1], []⟩ := by
  rcases hNumeral.exists_cons with ⟨c, tail, rfl, _⟩
  rw [(scans_numeral hNumeral).scan_eq, lineAfter,
    lineFeeds_ofNumeral hNumeral]
  rfl

/- Behind a minus sign, there is one token more. -/
theorem scan_minus_numeral
    {w : List Char}
    (hNumeral : IsNumeral w) :
    scan (String.ofList ('-' :: w)) =
      ⟨[⟨.minus, "-", none, 1⟩, .ofNumeral w 1,
        .endOfInput 1], []⟩ := by
  rcases hNumeral.exists_cons with ⟨c, tail, rfl, _⟩
  have hScans : Scans ('-' :: c :: tail) Closes
      [.ofLexeme '-' [] .minus, .ofNumeral c tail] :=
    (scans_punctuation rfl).append (scans_numeral hNumeral)
      fun _ _ => trivial
  rw [hScans.scan_eq, lineAfter, lineAfter,
    lineFeeds_ofNumeral hNumeral]
  rfl

/- A text between quotes is scanned to the token of it. -/
theorem scan_string
    {s : String}
    (hQuote : '"' ∉ s.toList) :
    ∃ lexeme line,
      scan ("\"" ++ s ++ "\"") =
        ⟨[⟨.string, lexeme, some (.string s), 1⟩,
          .endOfInput line], []⟩ := by
  let piece : Segment := ⟨'"', s.toList ++ ['"'],
    .token .string (some (.string (String.ofList s.toList)))⟩
  have hScans : Scans piece.text Closes [piece] :=
    scans_of_isNext rfl fun _ _ => .string hQuote
  have hSource :
      "\"" ++ s ++ "\"" = String.ofList piece.text := by
    apply String.toList_inj.mp
    simp [piece, Segment.text, String.toList_append]
  refine ⟨piece.lexeme, lineAfter 1 [piece], ?_⟩
  rw [hSource, hScans.scan_eq, tokensOn_cons rfl,
    String.ofList_toList]
  rfl

/- A tree that is read without errors is the one parsed. -/
theorem Program.parse_of_scan
    {source : String}
    {tokens : List Token}
    (hScan : scan source = ⟨tokens, []⟩)
    {tree : Expr}
    {c : Cursor}
    (hRead : (Cursor.ofTokens tokens).parse = (some tree, c))
    (hNone : c.errors = []) :
    parse source = ⟨[], .ok tree⟩ := by
  simp [parse, analyze, hScan, hRead, hNone, Scan.diagnostics,
    Cursor.diagnostics, treeResult, Verdict.ofReports]

/- So is an operand that is the whole source. -/
theorem Program.parse_of_operand
    {source : String}
    {w : List Token}
    {line : Nat}
    (hScan : scan source = ⟨w ++ [.endOfInput line], []⟩)
    {tree : Expr}
    (hDerives : Derives .unary w tree) :
    parse source = ⟨[], .ok tree⟩ := by
  have hExpression : Derives .expression w tree :=
    .expression (hDerives.level_of_unary
      .equality).conditional_of_level
  exact parse_of_scan hScan
    (parse_of_derives hExpression line) rfl

------------------------------------------------------------
-- Printed Numbers
------------------------------------------------------------

namespace Double

/- A positional text is a numeral behind its sign. -/
theorem exists_numeral
    {x : Float}
    (hFinite : x.isFinite = true) :
    ∃ w, IsNumeral w ∧
      plainText x = String.ofList (signChars x ++ w) ∧
      x = if isNegative x then -Numeral.value w
        else Numeral.value w := by
  have hBits := (isFinite_iff x).mp hFinite
  have hNumber : x.isNaN = false := by
    rw [← Bool.not_eq_true, isNaN_iff]
    exact Nat.not_lt.mpr hBits.le
  refine ⟨_, (shortest (magnitude x)).isNumeral_plain,
    plainText_of_isFinite hFinite, ?_⟩
  rw [value_plain_shortest hBits.le]
  exact eq_ofMagnitude hNumber

/- Without a sign, the text is scanned to one token. -/
theorem scan_plainText
    {x : Float}
    (hFinite : x.isFinite = true)
    (hSign : isNegative x = false) :
    scan (plainText x) =
      ⟨[⟨.number, plainText x, some (.number x), 1⟩,
        .endOfInput 1], []⟩ := by
  rcases exists_numeral hFinite with
    ⟨w, hNumeral, hText, hValue⟩
  rw [hSign] at hValue
  rw [signChars, hSign] at hText
  have hSame : x = Numeral.value w := hValue
  have hSource : plainText x = String.ofList w := hText
  rw [hSource, scan_numeral hNumeral, hSame]
  rfl

/- A positional text is parsed to its number. -/
theorem parse_plainText
    {x : Float}
    (hFinite : x.isFinite = true) :
    ∃ tree,
      Program.parse (plainText x) = ⟨[], .ok tree⟩ ∧
        tree.eval = .ok (.number x) ∧
        (isNegative x = true →
          ∃ operator operand, operator.kind = .minus ∧
            tree = .unary operator (.literal operand)) := by
  rcases exists_numeral hFinite with
    ⟨w, hNumeral, hText, hValue⟩
  rw [signChars] at hText
  cases hSign : isNegative x with
  | false =>
      rw [hSign] at hText hValue
      have hSource : plainText x = String.ofList w := hText
      have hSame : x = Numeral.value w := hValue
      have hParse := Program.parse_of_operand
        (scan_numeral hNumeral) (.primary (.literal rfl))
      refine ⟨_, by rw [hSource, hParse], ?_,
        fun hNegative => absurd hNegative Bool.false_ne_true⟩
      rw [hSame]
      rfl
  | true =>
      rw [hSign] at hText hValue
      have hSource :
          plainText x = String.ofList ('-' :: w) := hText
      have hSame : x = -Numeral.value w := hValue
      have hParse := Program.parse_of_operand
        (scan_minus_numeral hNumeral)
        (.unary (by decide) (.primary (.literal rfl)))
      refine ⟨_, by rw [hSource, hParse], ?_,
        fun _ => ⟨_, _, rfl, rfl⟩⟩
      rw [hSame]
      rfl

end Double

------------------------------------------------------------
-- Printed Values
------------------------------------------------------------

namespace Program

/- A source runs to the text of the value of its tree. -/
theorem run_of_eval
    {source : String}
    {tree : Expr}
    {value : Value}
    (hParse : parse source = ⟨[], .ok tree⟩)
    (hEval : tree.eval = .ok value) :
    run source = ⟨[], .ok value.text⟩ := by
  rw [run_of_parse hParse, Expr.interpret, hEval]
  rfl

/- A text between quotes runs to the text. -/
theorem run_string
    {s : String}
    (hQuote : '"' ∉ s.toList) :
    run ("\"" ++ s ++ "\"") = ⟨[], .ok s⟩ := by
  rcases scan_string hQuote with ⟨lexeme, line, hScan⟩
  have hDerives : Derives .unary
      [⟨.string, lexeme, some (.string s), 1⟩]
      (.literal (.string s)) :=
    .primary (.literal rfl)
  exact run_of_eval (parse_of_operand hScan hDerives) rfl

end Program

/-
  Printed values read back as themselves.  The text of a
  number that is zero, or whose size is from a ten-thousandth
  up to ten to the power 16, is evaluated to that number, with
  its sign, and runs to itself; the sign of a negative number
  is the unary minus.  A listed number without a sign, of any
  size, is scanned to one token with that number.  A string
  without quotes runs to itself from between quotes.
-/
theorem printed_values_read_back :
    (∀ x : Float,
      x.isFinite = true →
      (Double.size x = 0 ∨
        (1 / 10 ^ 4 ≤ Double.size x ∧
          Double.size x < 10 ^ 16)) →
      let text := (Value.number x).text
      (∃ tree,
        Program.parse text = ⟨[], .ok tree⟩ ∧
          tree.eval = .ok (.number x) ∧
          (Double.isNegative x = true →
            ∃ operator operand, operator.kind = .minus ∧
              tree = .unary operator (.literal operand))) ∧
        Program.run text = ⟨[], .ok text⟩) ∧
    (∀ x : Float,
      x.isFinite = true →
      Double.isNegative x = false →
      let text := (Literal.number x).text
      scan text =
        ⟨[⟨.number, text, some (.number x), 1⟩,
          .endOfInput 1], []⟩) ∧
    ∀ s : String,
      '"' ∉ s.toList →
      Program.run ("\"" ++ s ++ "\"") = ⟨[], .ok s⟩ := by
  refine ⟨?_, ?_, fun _ => Program.run_string⟩
  · intro x hFinite hSize text
    have hText : text = Double.plainText x :=
      Double.text_of_isModerate
        ((Double.isModerate_iff x).mpr hSize)
    rcases Double.parse_plainText hFinite with
      ⟨tree, hParse, hEval, hMinus⟩
    rw [← hText] at hParse
    exact ⟨⟨tree, hParse, hEval, hMinus⟩,
      Program.run_of_eval hParse hEval⟩
  · intro x hFinite hSign
    exact Double.scan_plainText hFinite hSign

/- A tenth below zero, its opposite, and a text. -/
theorem printed_values_read_back_tenth :
    let tenth := Double.ofMagnitude 0x3FB999999999999A
    let s := "a tenth\n// of \\ it"
    (-tenth).isFinite = true ∧
      1 / 10 ^ 4 ≤ Double.size (-tenth) ∧
      Double.size (-tenth) < 10 ^ 16 ∧
      (Value.number (-tenth)).text = "-0.1" ∧
      Program.run "-0.1" = ⟨[], .ok "-0.1"⟩ ∧
      scan "0.1" =
        ⟨[⟨.number, "0.1", some (.number tenth), 1⟩,
          .endOfInput 1], []⟩ ∧
      '"' ∉ s.toList ∧
      Program.run ("\"" ++ s ++ "\"") = ⟨[], .ok s⟩ := by
  intro tenth s
  have hBits : 0x3FB999999999999A < Double.infinity := by
    decide
  have hTenth := Double.magnitude_ofMagnitude hBits.le
  have hFinite : tenth.isFinite = true := by
    rw [Double.isFinite_iff, hTenth.1]
    exact hBits
  have hNumber : tenth.isNaN = false := by
    rw [← Bool.not_eq_true, Double.isNaN_iff, hTenth.1]
    exact Nat.not_lt.mpr hBits.le
  have hMagnitude :
      Double.magnitude (-tenth) = 0x3FB999999999999A :=
    (Double.magnitude_neg hNumber).1.trans hTenth.1
  have hNegFinite : (-tenth).isFinite = true := by
    rw [Double.isFinite_iff, hMagnitude]
    exact hBits
  have hLower : 1 / 10 ^ 4 ≤ Double.size (-tenth) := by
    rw [Double.le_size_iff, hMagnitude]
    decide +kernel
  have hUpper : Double.size (-tenth) < 10 ^ 16 := by
    rw [Double.size_lt_iff, hMagnitude]
    decide +kernel
  have hText : (Value.number (-tenth)).text = "-0.1" := by
    decide +kernel
  have hListed : (Literal.number tenth).text = "0.1" := by
    decide +kernel
  have hQuote : '"' ∉ s.toList := by
    decide +kernel
  rcases printed_values_read_back with
    ⟨hValue, hLiteral, hString⟩
  have hRun :=
    (hValue _ hNegFinite (Or.inr ⟨hLower, hUpper⟩)).2
  have hScan := hLiteral _ hFinite hTenth.2
  rw [hText] at hRun
  rw [hListed] at hScan
  exact ⟨hNegFinite, hLower, hUpper, hText, hRun, hScan,
    hQuote, hString s hQuote⟩

/- The front of the tokens that is an expression is parsed. -/
theorem Cursor.parse_of_isExpressionOf
    {tokens w : List Token}
    {tree : Expr}
    (hExpression : IsExpressionOf tokens w)
    (hDerives : Derives .expression w tree) :
    (ofTokens tokens).parse =
      (some tree, ⟨closeTokens tokens, w.length, []⟩) := by
  rcases hExpression.firstOutcome_eq hDerives with
    ⟨rest, hSplit, hDone⟩
  rw [parse_ofTokens, hDone, hSplit]
  simp [Outcome.errors, Outcome.tree?]

/-
  A number below a ten-thousandth does not read back.  It is
  written with a power of ten, of which only the digits are
  the expression.
-/
theorem small_number_does_not_read_back :
    let x := Double.ofMagnitude 0x3F0A36E2EB1C432D
    x.isFinite = true ∧
      1 / 10 ^ 5 ≤ Double.size x ∧ Double.size x < 10 ^ 16 ∧
      (Value.number x).text = "5e-5" ∧
      Program.run (Value.number x).text = ⟨[], .ok "5"⟩ ∧
      Program.run (Value.number x).text ≠
        ⟨[], .ok (Value.number x).text⟩ := by
  intro x
  have hBits : 0x3F0A36E2EB1C432D < Double.infinity := by
    decide
  have hMagnitude :=
    (Double.magnitude_ofMagnitude hBits.le).1
  have hFinite : x.isFinite = true := by
    rw [Double.isFinite_iff, hMagnitude]
    exact hBits
  have hLower : 1 / 10 ^ 5 ≤ Double.size x := by
    rw [Double.le_size_iff, hMagnitude]
    decide +kernel
  have hUpper : Double.size x < 10 ^ 16 := by
    rw [Double.size_lt_iff, hMagnitude]
    decide +kernel
  have hText : (Value.number x).text = "5e-5" := by
    decide +kernel
  let five := Token.ofNumeral ['5'] 1
  let rest : List Token :=
    [⟨.identifier, "e", none, 1⟩, ⟨.minus, "-", none, 1⟩, five]
  have hScan : scan "5e-5" =
      ⟨five :: (rest ++ [.endOfInput 1]), []⟩ := by
    have hCuts : Cuts "5e-5".toList
        [.ofNumeral '5' [], .ofLexeme 'e' [] .identifier,
         .ofLexeme '-' [] .minus, .ofNumeral '5' []] [] :=
      .next (Segment.isNext_first '5' ['e', '-', '5'])
        (.next (Segment.isNext_first 'e' ['-', '5'])
          (.next (Segment.isNext_first '-' ['5'])
            (.next (Segment.isNext_first '5' []) .done)))
    rw [scan_eq_of_cuts hCuts]
    rfl
  have hDerives : Derives .expression [five]
      (.literal (.number (Numeral.value ['5']))) :=
    .expression (.condition (.operand (.operand (.operand
      (.operand (.primary (.literal rfl)))))))
  have hStops : ¬ Kind.identifier.GoesOn := by
    rintro (hQuestion | ⟨level, hOperator⟩)
    · cases hQuestion
    · cases (level.mem_operators_iff _).mp hOperator
  have hExpression :
      IsExpressionOf (five :: (rest ++ [.endOfInput 1]))
        [five] :=
    ⟨⟨rest, rfl⟩, ⟨_, hDerives⟩, ⟨_, rfl, hStops⟩⟩
  have hParse := Program.parse_of_scan hScan
    (Cursor.parse_of_isExpressionOf hExpression hDerives) rfl
  have hFive :
      (Value.number (Numeral.value ['5'])).text = "5" := by
    decide +kernel
  have hRun : Program.run "5e-5" = ⟨[], .ok "5"⟩ := by
    rw [Program.run_of_eval hParse rfl, hFive]
  rw [hText, hRun]
  refine ⟨hFinite, hLower, hUpper, rfl, rfl, ?_⟩
  intro hSame
  injection hSame with _ hResult
  exact absurd (Except.ok.inj hResult) (by decide)

end LoxExpr
