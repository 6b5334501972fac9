/-
  This file defines the kinds of tokens, their names, the
  keywords, and the kinds that open a statement.

  Key definitions include:
    * `Kind`
    * `Kind.name`
    * `Kind.ofName?`
    * `Kind.ofWord`
    * `Kind.startsStatement`
-/

namespace LoxExpr

------------------------------------------------------------
-- Kinds of Tokens
------------------------------------------------------------

/-
  The kinds of tokens.  Keywords begin with `kw`, and
  `endOfInput` closes every list of tokens.
-/
inductive Kind where
| leftParen
| rightParen
| leftBrace
| rightBrace
| comma
| dot
| minus
| plus
| semicolon
| slash
| star
| question
| colon
| bang
| bangEqual
| equal
| equalEqual
| greater
| greaterEqual
| less
| lessEqual
| identifier
| string
| number
| kwAnd
| kwClass
| kwElse
| kwFalse
| kwFun
| kwFor
| kwIf
| kwNil
| kwOr
| kwPrint
| kwReturn
| kwSuper
| kwThis
| kwTrue
| kwVar
| kwWhile
| endOfInput
deriving DecidableEq, Repr

namespace Kind

/- The name of a kind in listings. -/
def name : Kind → String
| .leftParen => "LEFT_PAREN"
| .rightParen => "RIGHT_PAREN"
| .leftBrace => "LEFT_BRACE"
| .rightBrace => "RIGHT_BRACE"
| .comma => "COMMA"
| .dot => "DOT"
| .minus => "MINUS"
| .plus => "PLUS"
| .semicolon => "SEMICOLON"
| .slash => "SLASH"
| .star => "STAR"
| .question => "QUESTION"
| .colon => "COLON"
| .bang => "BANG"
| .bangEqual => "BANG_EQUAL"
| .equal => "EQUAL"
| .equalEqual => "EQUAL_EQUAL"
| .greater => "GREATER"
| .greaterEqual => "GREATER_EQUAL"
| .less => "LESS"
| .lessEqual => "LESS_EQUAL"
| .identifier => "IDENTIFIER"
| .string => "STRING"
| .number => "NUMBER"
| .kwAnd => "AND"
| .kwClass => "CLASS"
| .kwElse => "ELSE"
| .kwFalse => "FALSE"
| .kwFun => "FUN"
| .kwFor => "FOR"
| .kwIf => "IF"
| .kwNil => "NIL"
| .kwOr => "OR"
| .kwPrint => "PRINT"
| .kwReturn => "RETURN"
| .kwSuper => "SUPER"
| .kwThis => "THIS"
| .kwTrue => "TRUE"
| .kwVar => "VAR"
| .kwWhile => "WHILE"
| .endOfInput => "EOF"

/- Every kind. -/
def all : List Kind :=
  [.leftParen, .rightParen, .leftBrace, .rightBrace, .comma,
   .dot, .minus, .plus, .semicolon, .slash, .star, .question,
   .colon, .bang, .bangEqual, .equal, .equalEqual, .greater,
   .greaterEqual, .less, .lessEqual, .identifier, .string,
   .number, .kwAnd, .kwClass, .kwElse, .kwFalse, .kwFun,
   .kwFor, .kwIf, .kwNil, .kwOr, .kwPrint, .kwReturn,
   .kwSuper, .kwThis, .kwTrue, .kwVar, .kwWhile, .endOfInput]

/- The kind with a given name. -/
def ofName? (text : String) : Option Kind :=
  all.find? fun kind => kind.name == text

------------------------------------------------------------
-- Keywords
------------------------------------------------------------

/- The words that are no identifiers. -/
def keywords : List (String × Kind) :=
  [("and", .kwAnd), ("class", .kwClass), ("else", .kwElse),
   ("false", .kwFalse), ("for", .kwFor), ("fun", .kwFun),
   ("if", .kwIf), ("nil", .kwNil), ("or", .kwOr),
   ("print", .kwPrint), ("return", .kwReturn),
   ("super", .kwSuper), ("this", .kwThis), ("true", .kwTrue),
   ("var", .kwVar), ("while", .kwWhile)]

/- The kind of a word: its keyword, or an identifier. -/
def ofWord (word : String) : Kind :=
  (keywords.lookup word).getD .identifier

/- Keywords that open a declaration or a statement. -/
def startsStatement : Kind → Bool
| .kwClass | .kwFun | .kwVar | .kwFor => true
| .kwIf | .kwWhile | .kwPrint | .kwReturn => true
| _ => false

end Kind

end LoxExpr
