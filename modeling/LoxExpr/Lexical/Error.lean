import LoxExpr.Diagnostic

/-
  This file defines the errors in the characters of a
  source.

  Key definitions include:
    * `LexicalFault`
    * `LexicalFault.message`
    * `LexicalError`
-/

namespace LoxExpr

------------------------------------------------------------
-- Lexical Errors
------------------------------------------------------------

/- What can be wrong with the characters of a source. -/
inductive LexicalFault where
| unterminatedComment
| unterminatedString
| invalidNumeral
| unexpectedCharacter : Char → LexicalFault
deriving DecidableEq, Repr

/- The wording of a lexical fault. -/
def LexicalFault.message : LexicalFault → String
| .unterminatedComment => "Unterminated C-style comment."
| .unterminatedString => "Unterminated string."
| .invalidNumeral => "Invalid number literal."
| .unexpectedCharacter _ => "Unexpected character."

/- A lexical fault and the line where it was detected. -/
structure LexicalError where
  line : Nat
  fault : LexicalFault
deriving DecidableEq, Repr

namespace LexicalError

/- The wording of a lexical error. -/
def message (e : LexicalError) : String :=
  e.fault.message

/- A lexical error with its line. -/
def text (e : LexicalError) : String :=
  "line " ++ Decimal.natText e.line ++ ": " ++ e.message

/- The report of a lexical error. -/
def diagnostic (e : LexicalError) : Diagnostic :=
  Diagnostic.atLine e.line e.message

end LexicalError

end LoxExpr
