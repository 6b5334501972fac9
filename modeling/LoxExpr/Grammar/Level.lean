import LoxExpr.Token.Kind

/-
  This file defines the levels of the expression grammar and
  the part that each kind of token plays in it.

    conditional  one equality, and the two branches if any
    equality     comparisons between `!=` and `==`
    comparison   terms between `>`, `>=`, `<` and `<=`
    term         factors between `-` and `+`
    factor       unary phrases between `/` and `*`
    unary        `!` and `-` before an operand, or an operand

  Key definitions include:
    * `Level`
    * `Phrase`
    * `Level.operand`
    * `Kind.level?`
-/

namespace LoxExpr

------------------------------------------------------------
-- Levels and Phrases
------------------------------------------------------------

/- The levels of the binary operators, the weakest first. -/
inductive Level where
| equality
| comparison
| term
| factor
deriving DecidableEq, Repr

/- The phrases of the grammar. -/
inductive Phrase where
| conditional
| binary : Level → Phrase
| unary
deriving DecidableEq, Repr

/- The operands of a level: the next stronger phrase. -/
def Level.operand : Level → Phrase
| .equality => .binary .comparison
| .comparison => .binary .term
| .term => .binary .factor
| .factor => .unary

/- The number of phrases at most as weak as a phrase. -/
def Phrase.rank : Phrase → Nat
| .conditional => 6
| .binary .equality => 5
| .binary .comparison => 4
| .binary .term => 3
| .binary .factor => 2
| .unary => 1

/- Operands are stronger than the level itself. -/
theorem Level.rank_operand_lt (level : Level) :
    level.operand.rank < (Phrase.binary level).rank := by
  cases level <;> decide

/- A conditional is weaker than all levels. -/
theorem Level.rank_lt_conditional (level : Level) :
    (Phrase.binary level).rank < Phrase.rank .conditional := by
  cases level <;> decide

/- Every phrase is at most as weak as itself. -/
theorem Phrase.rank_pos (phrase : Phrase) :
    0 < phrase.rank := by
  rcases phrase with _ | level | _
  · decide
  · cases level <;> decide
  · decide

------------------------------------------------------------
-- Parts of Tokens
------------------------------------------------------------

namespace Kind

/- The level of a binary operator. -/
def level? : Kind → Option Level
| .bangEqual | .equalEqual => some .equality
| .greater | .greaterEqual => some .comparison
| .less | .lessEqual => some .comparison
| .minus | .plus => some .term
| .slash | .star => some .factor
| _ => none

/- The operators that stand before their operand. -/
def isUnary : Kind → Bool
| .bang | .minus => true
| _ => false

/- The kinds that stand for a value. -/
def isLiteral : Kind → Bool
| .number | .string => true
| .kwTrue | .kwFalse | .kwNil => true
| _ => false

end Kind

end LoxExpr
