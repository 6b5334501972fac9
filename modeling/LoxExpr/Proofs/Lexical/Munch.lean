import LoxExpr.Lexical.Scan

/-
  This file states the lexical grammar on its own: which
  segment comes next before the rest of a source, and what
  it stands for.  Numerals, words and operators are as long
  as they can be; comments and strings end at their first
  closing mark.

  Key definitions include:
    * `IsNumeral`
    * `IsWord`
    * `keywordLexemes`
    * `IsWordKind`
    * `operatorLexemes`
    * `Segment.IsNext`
    * `Cuts`
    * `Lists`
-/

namespace LoxExpr

------------------------------------------------------------
-- Lexemes
------------------------------------------------------------

/- The characters between tokens. -/
def blanks : List Char :=
  [' ', '\r', '\t', '\n']

/- One digit or more. -/
def IsDigits (w : List Char) : Prop :=
  w ≠ [] ∧ ∀ c ∈ w, c.isDigit = true

/- Digits, or digits with a point and digits behind. -/
def IsNumeral (w : List Char) : Prop :=
  IsDigits w ∨
    ∃ whole fraction, IsDigits whole ∧ IsDigits fraction ∧
      w = whole ++ '.' :: fraction

/-
  A letter, and characters that are letters or count as
  numbers.
-/
def IsWord (w : List Char) : Prop :=
  ∃ c more, w = c :: more ∧ Text.isAlphabetic c = true ∧
    ∀ d ∈ more,
      Text.isAlphabetic d = true ∨ Text.isNumeric d = true

/- The words that are keywords. -/
def keywordLexemes : List (String × Kind) :=
  [("nil", .kwNil), ("true", .kwTrue), ("false", .kwFalse),
   ("and", .kwAnd), ("or", .kwOr), ("if", .kwIf),
   ("else", .kwElse), ("while", .kwWhile), ("for", .kwFor),
   ("var", .kwVar), ("fun", .kwFun), ("return", .kwReturn),
   ("class", .kwClass), ("this", .kwThis),
   ("super", .kwSuper), ("print", .kwPrint)]

/- A keyword has a kind of its own, other words have not. -/
def IsWordKind (word : String) (kind : Kind) : Prop :=
  (word, kind) ∈ keywordLexemes ∨
    (kind = .identifier ∧
      ∀ entry ∈ keywordLexemes, entry.1 ≠ word)

/- The lexemes of operators and punctuation. -/
def operatorLexemes : List (List Char × Kind) :=
  [(['('], .leftParen), ([')'], .rightParen),
   (['\x7b'], .leftBrace), (['\x7d'], .rightBrace),
   ([','], .comma), (['?'], .question), ([':'], .colon),
   (['.'], .dot), (['-'], .minus), (['+'], .plus),
   ([';'], .semicolon), (['*'], .star), (['/'], .slash),
   (['!'], .bang), (['!', '='], .bangEqual),
   (['='], .equal), (['=', '='], .equalEqual),
   (['<'], .less), (['<', '='], .lessEqual),
   (['>'], .greater), (['>', '='], .greaterEqual)]

/- The text opens a comment. -/
def OpensComment (text : List Char) : Prop :=
  ['/', '/'] <+: text ∨ ['/', '*'] <+: text

/- The text holds the end of a block comment. -/
def HoldsClose (text : List Char) : Prop :=
  ['*', '/'] <:+: text

/-
  A piece of a kind is at the front of a source, and no
  longer piece of the kind is.
-/
def IsLongest
    (piece : List Char → Prop)
    (w rest : List Char) : Prop :=
  piece w ∧
    ∀ v, v <+: w ++ rest → piece v → v.length ≤ w.length

------------------------------------------------------------
-- The Next Segment
------------------------------------------------------------

/-
  A segment is the next one of a source that has some rest
  behind it.
-/
inductive Segment.IsNext : Segment → List Char → Prop where
| blank {c rest} :
    c ∈ blanks →
    IsNext ⟨c, [], .layout⟩ rest
| lineComment {body rest} :
    '\n' ∉ body →
    (rest = [] ∨ rest.head? = some '\n') →
    IsNext ⟨'/', '/' :: body, .layout⟩ rest
| blockComment {body rest} :
    ¬ HoldsClose (body ++ ['*']) →
    IsNext ⟨'/', '*' :: (body ++ ['*', '/']), .layout⟩ rest
| openComment {body} :
    ¬ HoldsClose body →
    IsNext
      ⟨'/', '*' :: body, .fault .unterminatedComment⟩ []
| string {body rest} :
    '"' ∉ body →
    IsNext
      ⟨'"', body ++ ['"'],
        .token .string
          (some (.string (String.ofList body)))⟩ rest
| openString {body} :
    '"' ∉ body →
    IsNext ⟨'"', body, .fault .unterminatedString⟩ []
| numeral {c tail rest} :
    IsLongest IsNumeral (c :: tail) rest →
    IsNext
      ⟨c, tail,
        .token .number
          (some (.number (Numeral.value (c :: tail))))⟩ rest
| word {c tail kind rest} :
    IsLongest IsWord (c :: tail) rest →
    IsWordKind (String.ofList (c :: tail)) kind →
    IsNext ⟨c, tail, .token kind none⟩ rest
| operator {c tail kind rest} :
    (c :: tail, kind) ∈ operatorLexemes →
    IsLongest
      (fun w => ∃ kind, (w, kind) ∈ operatorLexemes)
      (c :: tail) rest →
    ¬ OpensComment (c :: (tail ++ rest)) →
    IsNext ⟨c, tail, .token kind none⟩ rest
| unexpected {c rest} :
    c ∉ blanks → c ≠ '"' → c.isDigit = false →
    Text.isAlphabetic c = false →
    (∀ entry ∈ operatorLexemes, entry.1.head? ≠ some c) →
    IsNext ⟨c, [], .fault (.unexpectedCharacter c)⟩ rest

------------------------------------------------------------
-- Cuts and Listings
------------------------------------------------------------

/-
  A source is cut, from left to right, into segments and a
  rest that is not cut yet.
-/
inductive Cuts :
    List Char → List Segment → List Char → Prop where
| done {rest} : Cuts rest [] rest
| next {s more cuts rest} :
    Segment.IsNext s more →
    Cuts more cuts rest →
    Cuts (s.text ++ more) (s :: cuts) rest

/-
  What segments from a line on amount to, in order: a token
  for each segment that is one, on the line of its first
  character; an error for each faulty segment, on the line of
  its last; and the end of the input.
-/
inductive Lists :
    Nat → List Segment → List Token → List LexicalError →
      Prop where
| done {line} : Lists line [] [.endOfInput line] []
| layout {line s cuts tokens errors} :
    s.content = .layout →
    Lists (line + s.text.count '\n') cuts tokens errors →
    Lists line (s :: cuts) tokens errors
| token {line s cuts kind literal tokens errors} :
    s.content = .token kind literal →
    Lists (line + s.text.count '\n') cuts tokens errors →
    Lists line (s :: cuts)
      (⟨kind, String.ofList s.text, literal, line⟩ ::
        tokens) errors
| fault {line s cuts fault tokens errors} :
    s.content = .fault fault →
    Lists (line + s.text.count '\n') cuts tokens errors →
    Lists line (s :: cuts) tokens
      (⟨line + s.text.count '\n', fault⟩ :: errors)

end LoxExpr
