import LoxExpr.Lexical.Error
import LoxExpr.Number.Numeral
import LoxExpr.Text.Alphabetic
import LoxExpr.Text.Numeric

/-
  This file cuts the next segment of a source.  The characters
  at the head of the remaining source decide it: layout, a
  token, or a faulty piece.  Tokens are as long as they can
  be.  Lines are counted while a segment is read.

  Key definitions include:
    * `Segment`
    * `Segment.text`
    * `Segment.first`
    * `Segment.lineThrough`
-/

namespace LoxExpr

------------------------------------------------------------
-- Segments
------------------------------------------------------------

/- What a segment stands for. -/
inductive Segment.Content where
| layout
| token : Kind → Option Literal → Segment.Content
| fault : LexicalFault → Segment.Content

/- A piece of the source, which is never empty. -/
structure Segment where
  head : Char
  tail : List Char
  content : Segment.Content

namespace Segment

/- The characters of a segment. -/
def text (s : Segment) : List Char :=
  s.head :: s.tail

/- The characters of a segment as a string. -/
def lexeme (s : Segment) : String :=
  String.ofList s.text

------------------------------------------------------------
-- Layout and Comments
------------------------------------------------------------

/- The blanks between tokens. -/
def isLayout (c : Char) : Bool :=
  c = ' ' || c = '\r' || c = '\t' || c = '\n'

/- The characters up to the first end of a block comment. -/
def throughClose? : List Char → Option (List Char)
| [] => none
| '*' :: '/' :: _ => some ['*', '/']
| c :: rest => (throughClose? rest).map fun body => c :: body

/-
  The segment of a slash: a comment to the end of the line, a
  block comment, or the operator.  An open block comment
  takes the whole rest.
-/
def slash (rest : List Char) : Segment :=
  match rest with
  | '/' :: more =>
      let body := more.takeWhile fun c => c != '\n'
      ⟨'/', '/' :: body, .layout⟩
  | '*' :: more =>
      match throughClose? more with
      | some body => ⟨'/', '*' :: body, .layout⟩
      | none => ⟨'/', rest, .fault .unterminatedComment⟩
  | _ => ⟨'/', [], .token .slash none⟩

------------------------------------------------------------
-- Literals and Words
------------------------------------------------------------

/-
  The segment of a double quote: the text up to the next
  one.  An open string takes the whole rest.
-/
def string (rest : List Char) : Segment :=
  let body := rest.takeWhile fun c => c != '"'
  if '"' ∈ rest then
    let literal := Literal.string (String.ofList body)
    ⟨'"', body ++ ['"'], .token .string (some literal)⟩
  else
    ⟨'"', rest, .fault .unterminatedString⟩

/-
  The digits that continue a numeral.  A point belongs to it
  only with a digit behind.
-/
def numeralTail (rest : List Char) : List Char :=
  let whole := rest.takeWhile Char.isDigit
  match rest.dropWhile Char.isDigit with
  | '.' :: more =>
      let fraction := more.takeWhile Char.isDigit
      if fraction.isEmpty then whole
      else whole ++ '.' :: fraction
  | _ => whole

/-
  The segment of a digit: the longest numeral, if its number
  can be read.
-/
def numeral
    (c : Char)
    (rest : List Char) : Segment :=
  let tail := numeralTail rest
  match Numeral.read? (c :: tail) with
  | some x => ⟨c, tail, .token .number (some (.number x))⟩
  | none => ⟨c, tail, .fault .invalidNumeral⟩

/- The characters that continue a word. -/
def continuesWord (c : Char) : Bool :=
  Text.isAlphabetic c || Text.isNumeric c

/- The segment of a letter: the longest word. -/
def word
    (c : Char)
    (rest : List Char) : Segment :=
  let tail := rest.takeWhile continuesWord
  let kind := Kind.ofWord (String.ofList (c :: tail))
  ⟨c, tail, .token kind none⟩

------------------------------------------------------------
-- Punctuation and Operators
------------------------------------------------------------

/-
  The operators that an equals sign may follow, alone and
  together with it.
-/
def equalsPair? : Char → Option (Kind × Kind)
| '!' => some (.bang, .bangEqual)
| '=' => some (.equal, .equalEqual)
| '<' => some (.less, .lessEqual)
| '>' => some (.greater, .greaterEqual)
| _ => none

/- The tokens of a single character. -/
def punctuation? : Char → Option Kind
| '(' => some .leftParen
| ')' => some .rightParen
| '\x7b' => some .leftBrace
| '\x7d' => some .rightBrace
| ',' => some .comma
| '?' => some .question
| ':' => some .colon
| '.' => some .dot
| '-' => some .minus
| '+' => some .plus
| ';' => some .semicolon
| '*' => some .star
| _ => none

/- The segment of any other character. -/
def symbol
    (c : Char)
    (rest : List Char) : Segment :=
  match equalsPair? c with
  | some (alone, withEquals) =>
      if rest.head? = some '=' then
        ⟨c, ['='], .token withEquals none⟩
      else
        ⟨c, [], .token alone none⟩
  | none =>
      match punctuation? c with
      | some kind => ⟨c, [], .token kind none⟩
      | none => ⟨c, [], .fault (.unexpectedCharacter c)⟩

------------------------------------------------------------
-- The Next Segment
------------------------------------------------------------

/- The segment at the head of a source. -/
def first
    (c : Char)
    (rest : List Char) : Segment :=
  if isLayout c then ⟨c, [], .layout⟩
  else if c = '/' then slash rest
  else if c = '"' then string rest
  else if c.isDigit then numeral c rest
  else if Text.isAlphabetic c then word c rest
  else symbol c rest

------------------------------------------------------------
-- Lines
------------------------------------------------------------

/-
  The line reached behind a block comment whose text begins
  on a line.
-/
def lineThroughComment (line : Nat) : List Char → Nat
| [] => line
| '*' :: '/' :: _ => line
| c :: rest =>
    if c = '\n' then lineThroughComment (line + 1) rest
    else lineThroughComment line rest

/- The line reached behind a string, in the same way. -/
def lineThroughString (line : Nat) : List Char → Nat
| [] => line
| c :: rest =>
    if c = '"' then line
    else if c = '\n' then lineThroughString (line + 1) rest
    else lineThroughString line rest

/-
  The line reached behind the segment at the head of a source
  that begins on a line.  Only a line feed, a string and a
  block comment can reach another one.
-/
def lineThrough
    (line : Nat)
    (c : Char)
    (rest : List Char) : Nat :=
  if c = '\n' then line + 1
  else if c = '"' then lineThroughString line rest
  else if c = '/' then
    match rest with
    | '*' :: more => lineThroughComment line more
    | _ => line
  else line

end Segment

end LoxExpr
