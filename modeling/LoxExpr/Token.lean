import LoxExpr.Number.Notation
import LoxExpr.Text.Quoted
import LoxExpr.Token.Kind

/-
  This file defines tokens and the line that shows a token
  in a listing.

  Key definitions include:
    * `Literal`
    * `Token`
    * `Token.endOfInput`
    * `Token.isEnd`
    * `Token.text`
-/

namespace LoxExpr

------------------------------------------------------------
-- Literals
------------------------------------------------------------

/- The value that a numeral or a string token stands for. -/
inductive Literal where
| number : Float → Literal
| string : String → Literal
deriving BEq

/- A literal in a listing. -/
def Literal.text : Literal → String
| .number x => Double.plainText x
| .string s => Text.quoted s

------------------------------------------------------------
-- Tokens
------------------------------------------------------------

/-
  A token: its kind, its characters in the source, its
  literal if it has one, and the line of its first
  character.  Tokens are compared in all fields, numbers as
  numbers.
-/
structure Token where
  kind : Kind
  lexeme : String
  literal : Option Literal
  line : Nat
deriving BEq

namespace Token

/- The token that closes a list of tokens. -/
def endOfInput (line : Nat) : Token :=
  ⟨.endOfInput, "", none, line⟩

/- The token marks the end of the input. -/
def isEnd (token : Token) : Bool :=
  token.kind = .endOfInput

/- The literal of a token in a listing. -/
def literalText (token : Token) : String :=
  match token.literal with
  | some literal => literal.text
  | none => "nil"

/- A token in a listing. -/
def text (token : Token) : String :=
  "Token(" ++ token.kind.name ++
    ", lexeme=" ++ Text.quoted token.lexeme ++
    ", literal=" ++ token.literalText ++
    ", line=" ++ Decimal.natText token.line ++ ")"

end Token

end LoxExpr
