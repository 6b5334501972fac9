import LoxExpr.Proofs.Grammar.Derivation
import LoxExpr.Proofs.Lexical.Munch

/-
  This file says how a tree is written as a source: every
  operand of an operator, and every part of a conditional,
  stands in parentheses.  The tree may have any shape.

  Key definitions include:
    * `Expr.Writable`
    * `Expr.Renders`
    * `Expr.bare`

  The main statement is `Expr.exists_renders`.
-/

namespace LoxExpr

------------------------------------------------------------
-- What Can Be Written
------------------------------------------------------------

/-
  Values that can be written: a number that some numeral
  stands for, and a string without quotes.
-/
def Value.Writable : Value → Prop
| .nil => True
| .bool _ => True
| .number x => ∃ w, IsNumeral w ∧ Numeral.value w = x
| .string s => '"' ∉ s.toList

/-
  An operator with the lexeme of its kind, and without a
  literal.  Its line may be any.
-/
structure Token.IsUsual (operator : Token) : Prop where
  lexeme :
    (operator.lexeme.toList, operator.kind) ∈
      operatorLexemes
  literal : operator.literal = none

namespace Expr

/- The operators and values of the tree can be written. -/
def Writable : Expr → Prop
| .literal value => value.Writable
| .grouping inner => inner.Writable
| .unary operator right =>
    operator.IsUsual ∧ operator.kind ∈ unaryOperators ∧
      right.Writable
| .binary left operator right =>
    operator.IsUsual ∧
      (∃ level : Level, operator.kind ∈ level.operators) ∧
      left.Writable ∧ right.Writable
| .conditional condition thenBranch elseBranch =>
    condition.Writable ∧ thenBranch.Writable ∧
      elseBranch.Writable

end Expr

------------------------------------------------------------
-- Renderings
------------------------------------------------------------

/- A text in parentheses. -/
def wrapped (text : List Char) : List Char :=
  '(' :: (text ++ [')'])

/- A value is written as a text. -/
inductive Value.Renders : Value → List Char → Prop where
| kwNil : Renders .nil ['n', 'i', 'l']
| kwTrue : Renders (.bool true) ['t', 'r', 'u', 'e']
| kwFalse : Renders (.bool false) ['f', 'a', 'l', 's', 'e']
| number {w} :
    IsNumeral w →
    Renders (.number (Numeral.value w)) w
| string {s : String} :
    '"' ∉ s.toList →
    Renders (.string s) ('"' :: (s.toList ++ ['"']))

namespace Expr

/- A tree is written as a text. -/
inductive Renders : Expr → List Char → Prop where
| literal {value text} :
    value.Renders text →
    Renders (.literal value) text
| grouping {inner text} :
    Renders inner text →
    Renders (.grouping inner) (wrapped text)
| unary {operator right text} :
    operator.IsUsual →
    operator.kind ∈ unaryOperators →
    Renders right text →
    Renders (.unary operator right)
      (operator.lexeme.toList ++ wrapped text)
| binary
    {left operator right text₁ text₂}
    {level : Level} :
    operator.IsUsual →
    operator.kind ∈ level.operators →
    Renders left text₁ →
    Renders right text₂ →
    Renders (.binary left operator right)
      (wrapped text₁ ++
        (operator.lexeme.toList ++ wrapped text₂))
| conditional
    {condition thenBranch elseBranch text₁ text₂ text₃} :
    Renders condition text₁ →
    Renders thenBranch text₂ →
    Renders elseBranch text₃ →
    Renders (.conditional condition thenBranch elseBranch)
      (wrapped text₁ ++
        '?' :: (wrapped text₂ ++ ':' :: wrapped text₃))

end Expr

/- Every value that can be written has a text. -/
theorem Value.exists_renders
    {value : Value}
    (hWritable : value.Writable) :
    ∃ text, value.Renders text := by
  cases value with
  | nil => exact ⟨_, .kwNil⟩
  | bool b =>
      cases b with
      | true => exact ⟨_, .kwTrue⟩
      | false => exact ⟨_, .kwFalse⟩
  | number x =>
      rcases hWritable with ⟨w, hNumeral, rfl⟩
      exact ⟨w, .number hNumeral⟩
  | string s => exact ⟨_, .string hWritable⟩

/- Every tree that can be written has a text. -/
theorem Expr.exists_renders
    {e : Expr}
    (hWritable : e.Writable) :
    ∃ text, e.Renders text := by
  induction e with
  | literal value =>
      rcases Value.exists_renders hWritable with
        ⟨text, hText⟩
      exact ⟨text, .literal hText⟩
  | grouping inner ih =>
      rcases ih hWritable with ⟨text, hText⟩
      exact ⟨_, .grouping hText⟩
  | unary operator right ih =>
      rcases hWritable with ⟨hUsual, hKind, hRight⟩
      rcases ih hRight with ⟨text, hText⟩
      exact ⟨_, .unary hUsual hKind hText⟩
  | binary left operator right ihLeft ihRight =>
      rcases hWritable with
        ⟨hUsual, ⟨level, hKind⟩, hLeft, hRight⟩
      rcases ihLeft hLeft with ⟨text₁, hText₁⟩
      rcases ihRight hRight with ⟨text₂, hText₂⟩
      exact ⟨_, .binary hUsual hKind hText₁ hText₂⟩
  | conditional condition thenBranch elseBranch
      ihCondition ihThen ihElse =>
      rcases hWritable with ⟨hCondition, hThen, hElse⟩
      rcases ihCondition hCondition with ⟨text₁, hText₁⟩
      rcases ihThen hThen with ⟨text₂, hText₂⟩
      rcases ihElse hElse with ⟨text₃, hText₃⟩
      exact ⟨_, .conditional hText₁ hText₂ hText₃⟩

------------------------------------------------------------
-- Trees without Groupings and Lines
------------------------------------------------------------

/- A token on no particular line. -/
def Token.offLine (token : Token) : Token :=
  { token with line := 0 }

/- A tree without groupings and without lines. -/
def Expr.bare : Expr → Expr
| .literal value => .literal value
| .grouping inner => inner.bare
| .unary operator right =>
    .unary operator.offLine right.bare
| .binary left operator right =>
    .binary left.bare operator.offLine right.bare
| .conditional condition thenBranch elseBranch =>
    .conditional condition.bare thenBranch.bare
      elseBranch.bare

end LoxExpr
