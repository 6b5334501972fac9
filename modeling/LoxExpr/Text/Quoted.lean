import LoxExpr.Text.Hidden

/-
  This file writes a text between double quotes so that it
  stays on one line and can be read back: the quote, the
  backslash and four controls have a letter of their own,
  and hidden characters are written by number.

  Key definitions include:
    * `escapeLetter?`
    * `escapeChar`
    * `escape`
    * `quoted`
-/

namespace LoxExpr

namespace Text

------------------------------------------------------------
-- One Character
------------------------------------------------------------

/- The letter that stands for a character, if it has one. -/
def escapeLetter? : Char → Option Char
| '"' => some '"'
| '\\' => some '\\'
| '\t' => some 't'
| '\r' => some 'r'
| '\n' => some 'n'
| '\x00' => some '0'
| _ => none

/- A character by its number, in lowercase hexadecimal. -/
def escapeNumber (c : Char) : List Char :=
  '\\' :: 'u' :: '\x7b' ::
    (Nat.toDigits 16 c.toNat ++ ['\x7d'])

/- The form of one character inside the quotes. -/
def escapeChar (c : Char) : List Char :=
  match escapeLetter? c with
  | some letter => ['\\', letter]
  | none => if isHidden c then escapeNumber c else [c]

------------------------------------------------------------
-- Whole Texts
------------------------------------------------------------

/- The form of a text inside the quotes. -/
def escape (text : List Char) : List Char :=
  text.flatMap escapeChar

/- A text between double quotes. -/
def quoted (text : String) : String :=
  String.ofList ('"' :: (escape text.toList ++ ['"']))

end Text

end LoxExpr
