import LoxExpr.Token

/-
  This file defines the report of one static error: the
  line, the place on it, and the message.

  Key definitions include:
    * `Diagnostic`
    * `Diagnostic.atLine`
    * `Diagnostic.atToken`
    * `Diagnostic.text`
-/

namespace LoxExpr

------------------------------------------------------------
-- Places
------------------------------------------------------------

/- The tag of a line at the head of an error text. -/
def lineTag (line : Nat) : String :=
  "[line " ++ Decimal.natText line ++ "] Error"

/- A place given by a lexeme. -/
def lexemePlace (lexeme : String) : String :=
  " at '" ++ lexeme ++ "'"

/- The place of a token.  The end has a name of its own. -/
def Token.place (token : Token) : String :=
  if token.isEnd then " at end"
  else lexemePlace token.lexeme

------------------------------------------------------------
-- Diagnostics
------------------------------------------------------------

/- One reported error. -/
structure Diagnostic where
  line : Nat
  location : String
  message : String
deriving DecidableEq, Repr

namespace Diagnostic

/- A report that concerns a line as a whole. -/
def atLine
    (line : Nat)
    (message : String) : Diagnostic :=
  ⟨line, "", message⟩

/- A report that concerns a token. -/
def atToken
    (token : Token)
    (message : String) : Diagnostic :=
  ⟨token.line, token.place, message⟩

/- The line that shows a report. -/
def text (d : Diagnostic) : String :=
  lineTag d.line ++ d.location ++ ": " ++ d.message

end Diagnostic

end LoxExpr
