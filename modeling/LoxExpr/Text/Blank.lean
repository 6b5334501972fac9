import LoxExpr.Text.Ranges

/-
  This file defines the white space of Unicode and cuts it
  off both ends of a text.

  Key definitions include:
    * `blankRanges`
    * `isBlank`
    * `trim`
-/

namespace LoxExpr

namespace Text

------------------------------------------------------------
-- White Space
------------------------------------------------------------

/- The code points with the property White_Space. -/
def blankRanges : Ranges :=
  [(0x9, 0xD), (0x20, 0x20), (0x85, 0x85), (0xA0, 0xA0),
   (0x1680, 0x1680), (0x2000, 0x200A), (0x2028, 0x2029),
   (0x202F, 0x202F), (0x205F, 0x205F), (0x3000, 0x3000)]

/- A character of white space. -/
def isBlank (c : Char) : Bool :=
  blankRanges.has c

------------------------------------------------------------
-- Trimming
------------------------------------------------------------

/- Drop the white space at both ends. -/
def trimChars (text : List Char) : List Char :=
  let front := text.dropWhile isBlank
  (front.reverse.dropWhile isBlank).reverse

/- Drop the white space at both ends of a string. -/
def trim (text : String) : String :=
  String.ofList (trimChars text.toList)

end Text

end LoxExpr
