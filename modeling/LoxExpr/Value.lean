import LoxExpr.Token

/-
  This file defines the values of expressions and the
  operations on them.

  Key definitions include:
    * `Value`
    * `Value.text`
    * `Value.ofToken?`
    * `Value.isTruthy`
    * `Value.plus?`
    * `Value.numeric?`
    * `Value.equals`
-/

namespace LoxExpr

------------------------------------------------------------
-- Values
------------------------------------------------------------

/- The values that expressions have. -/
inductive Value where
| nil
| bool : Bool → Value
| number : Float → Value
| string : String → Value

namespace Value

/- The text of a value.  Strings stand without quotes. -/
def text : Value → String
| .nil => "nil"
| .bool true => "true"
| .bool false => "false"
| .number x => Double.text x
| .string s => s

/-
  The value that a literal token stands for.  A numeral or a
  string needs a literal of its kind; every other token that
  is no literal has no value.
-/
def ofToken? (token : Token) : Option Value :=
  match token.kind, token.literal with
  | .number, some (.number x) => some (.number x)
  | .string, some (.string s) => some (.string s)
  | .kwTrue, _ => some (.bool true)
  | .kwFalse, _ => some (.bool false)
  | .kwNil, _ => some .nil
  | _, _ => none

------------------------------------------------------------
-- Operations
------------------------------------------------------------

/- Everything counts as true but `nil` and `false`. -/
def isTruthy : Value → Bool
| .nil => false
| .bool b => b
| _ => true

/- The sum of two numbers, or two strings joined. -/
def plus? : Value → Value → Option Value
| .number x, .number y => some (.number (x + y))
| .string s, .string t => some (.string (s ++ t))
| _, _ => none

/- A function of two numbers. -/
def numeric?
    (f : Float → Float → Value) :
    Value → Value → Option Value
| .number x, .number y => some (f x y)
| _, _ => none

/-
  Equality of values.  Values of different types differ, and
  numbers are compared as numbers.
-/
def equals : Value → Value → Bool
| .nil, .nil => true
| .bool a, .bool b => a == b
| .number x, .number y => x == y
| .string s, .string t => s == t
| _, _ => false

end Value

end LoxExpr
