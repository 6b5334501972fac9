import LoxExpr.Lexical.Segment

/-
  This file turns a source into tokens and errors, each with
  its line.  Lines are counted from one.

  Key definitions include:
    * `Segment.tokenOn?`
    * `Segment.errorOn?`
    * `Scan`
    * `scanFrom`
    * `scan`
-/

namespace LoxExpr

------------------------------------------------------------
-- Tokens and Errors of Segments
------------------------------------------------------------

namespace Segment

/- The token of a segment, if it is one, on a line. -/
def tokenOn? (s : Segment) (line : Nat) : Option Token :=
  match s.content with
  | .token kind literal =>
      some ⟨kind, s.lexeme, literal, line⟩
  | _ => none

/- The error of a segment, if it is faulty, on a line. -/
def errorOn?
    (s : Segment)
    (line : Nat) : Option LexicalError :=
  match s.content with
  | .fault fault => some ⟨line, fault⟩
  | _ => none

end Segment

------------------------------------------------------------
-- Scanning
------------------------------------------------------------

/-
  The tokens of a source, closed by the end of the input,
  and its lexical errors, both in the order of the source.
-/
structure Scan where
  tokens : List Token
  errors : List LexicalError

/-
  Scan what is left of a source, which begins on a line.  A
  token is on the line where it begins, an error on the line
  that is reached when it is found.
-/
def scanFrom (line : Nat) : List Char → Scan
| [] => ⟨[Token.endOfInput line], []⟩
| c :: rest =>
    let s := Segment.first c rest
    let reached := Segment.lineThrough line c rest
    let more := scanFrom reached (rest.drop s.tail.length)
    ⟨(s.tokenOn? line).toList ++ more.tokens,
      (s.errorOn? reached).toList ++ more.errors⟩
termination_by source => source.length
decreasing_by
  simp only [List.length_drop, List.length_cons]
  omega

/- Scan a source. -/
def scan (source : String) : Scan :=
  scanFrom 1 source.toList

/- The reports of the lexical errors. -/
def Scan.diagnostics (s : Scan) : List Diagnostic :=
  s.errors.map LexicalError.diagnostic

end LoxExpr
