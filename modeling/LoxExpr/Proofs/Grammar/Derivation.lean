import LoxExpr.Expr
import LoxExpr.Grammar.Level

/-
  This file states the expression grammar on its own, as the
  words that each nonterminal derives and the trees of their
  derivations:

    expression  = conditional
    conditional = equality [ `?` expression `:` conditional ]
    level       = operand { operator operand }
    unary       = ( `!` | `-` ) unary | primary
    primary     = literal | `(` expression `)`

  A level is one of equality, comparison, term and factor,
  and its repetition is grouped to the left.

  Key definitions include:
    * `Level.operators`
    * `Nonterminal`
    * `Derives`
    * `Kind.GoesOn`
    * `Expr.operators`

  The main statement is `Derives.operators_eq`.
-/

namespace LoxExpr

------------------------------------------------------------
-- Terminals
------------------------------------------------------------

/- The operators of each level. -/
def Level.operators : Level → List Kind
| .equality => [.bangEqual, .equalEqual]
| .comparison => [.greater, .greaterEqual, .less, .lessEqual]
| .term => [.minus, .plus]
| .factor => [.slash, .star]

/- The operators that stand before an operand. -/
def unaryOperators : List Kind :=
  [.bang, .minus]

/- The operators of a level are the kinds with that level. -/
theorem Level.mem_operators_iff
    (level : Level)
    (kind : Kind) :
    kind ∈ level.operators ↔ kind.level? = some level := by
  cases level <;> cases kind <;> decide

/- The unary operators are the kinds that are unary. -/
theorem mem_unaryOperators_iff (kind : Kind) :
    kind ∈ unaryOperators ↔ kind.isUnary = true := by
  cases kind <;> decide

/-
  A kind that goes on with an expression behind it: a
  question mark, or a binary operator.
-/
def Kind.GoesOn (kind : Kind) : Prop :=
  kind = .question ∨ ∃ level : Level, kind ∈ level.operators

------------------------------------------------------------
-- Derivations
------------------------------------------------------------

/- The nonterminals of the grammar. -/
inductive Nonterminal where
| expression
| conditional
| level : Level → Nonterminal
| unary
| primary
deriving DecidableEq, Repr

/- The operands of a level are of the next stronger one. -/
def Level.operandNonterminal : Level → Nonterminal
| .equality => .level .comparison
| .comparison => .level .term
| .term => .level .factor
| .factor => .unary

/-
  A nonterminal derives a word, and the derivation has a tree.
  Operators in the tree are the tokens of the word.
-/
inductive Derives : Nonterminal → List Token → Expr → Prop where
| expression {w tree} :
    Derives .conditional w tree →
    Derives .expression w tree
| condition {w tree} :
    Derives (.level .equality) w tree →
    Derives .conditional w tree
| branches
    {w₁ w₂ w₃ condition thenBranch elseBranch}
    {question colon : Token} :
    Derives (.level .equality) w₁ condition →
    question.kind = .question →
    Derives .expression w₂ thenBranch →
    colon.kind = .colon →
    Derives .conditional w₃ elseBranch →
    Derives .conditional
      (w₁ ++ question :: (w₂ ++ colon :: w₃))
      (.conditional condition thenBranch elseBranch)
| operand {level : Level} {w tree} :
    Derives level.operandNonterminal w tree →
    Derives (.level level) w tree
| operator
    {level : Level}
    {w₁ w₂ left right}
    {operator : Token} :
    Derives (.level level) w₁ left →
    operator.kind ∈ level.operators →
    Derives level.operandNonterminal w₂ right →
    Derives (.level level) (w₁ ++ operator :: w₂)
      (.binary left operator right)
| unary {w right} {operator : Token} :
    operator.kind ∈ unaryOperators →
    Derives .unary w right →
    Derives .unary (operator :: w) (.unary operator right)
| primary {w tree} :
    Derives .primary w tree →
    Derives .unary w tree
| literal {token : Token} {value : Value} :
    Value.ofToken? token = some value →
    Derives .primary [token] (.literal value)
| grouping {w inner} {opening closing : Token} :
    opening.kind = .leftParen →
    Derives .expression w inner →
    closing.kind = .rightParen →
    Derives .primary (opening :: (w ++ [closing]))
      (.grouping inner)

------------------------------------------------------------
-- Operators of a Tree
------------------------------------------------------------

/- The operators of a tree, from left to right. -/
def Expr.operators : Expr → List Token
| .literal _ => []
| .grouping inner => inner.operators
| .unary operator right => operator :: right.operators
| .binary left operator right =>
    left.operators ++ operator :: right.operators
| .conditional condition thenBranch elseBranch =>
    condition.operators ++
      (thenBranch.operators ++ elseBranch.operators)

/- A token is a unary or a binary operator. -/
def Token.isOperator (token : Token) : Bool :=
  token.kind.isUnary || token.kind.level?.isSome

/- The operators of a level are operators. -/
theorem Token.isOperator_of_mem_operators
    {token : Token}
    {level : Level}
    (hOperator : token.kind ∈ level.operators) :
    token.isOperator = true := by
  simp [isOperator, (level.mem_operators_iff _).mp hOperator]

/- The unary operators are operators. -/
theorem Token.isOperator_of_mem_unaryOperators
    {token : Token}
    (hOperator : token.kind ∈ unaryOperators) :
    token.isOperator = true := by
  simp [isOperator, (mem_unaryOperators_iff _).mp hOperator]

/- A literal is no operator. -/
theorem Token.isOperator_of_ofToken?
    {token : Token}
    {value : Value}
    (hValue : Value.ofToken? token = some value) :
    token.isOperator = false := by
  unfold Value.ofToken? at hValue
  split at hValue <;>
    simp_all [isOperator, Kind.isUnary, Kind.level?]

/-
  The operators of the tree are those of the word, one by one
  and in the same order.
-/
theorem Derives.operators_eq
    {start : Nonterminal}
    {w : List Token}
    {tree : Expr}
    (h : Derives start w tree) :
    tree.operators = w.filter Token.isOperator := by
  induction h with
  | expression _ ih => exact ih
  | condition _ ih => exact ih
  | branches _ hQuestion _ hColon _ ih₁ ih₂ ih₃ =>
      simp [Expr.operators, ih₁, ih₂, ih₃,
        Token.isOperator, hQuestion, hColon, Kind.isUnary,
        Kind.level?]
  | operand _ ih => exact ih
  | operator _ hOperator _ ihLeft ihRight =>
      simp [Expr.operators, ihLeft, ihRight,
        Token.isOperator_of_mem_operators hOperator]
  | unary hOperator _ ih =>
      simp [Expr.operators, ih,
        Token.isOperator_of_mem_unaryOperators hOperator]
  | primary _ ih => exact ih
  | literal hValue =>
      simp [Expr.operators,
        Token.isOperator_of_ofToken? hValue]
  | grouping hOpening _ hClosing ih =>
      simp [Expr.operators, ih, Token.isOperator, hOpening,
        hClosing, Kind.isUnary, Kind.level?]

------------------------------------------------------------
-- Words without an End
------------------------------------------------------------

/- No derived word holds the end of the input. -/
theorem Derives.isEnd_of_mem
    {start : Nonterminal}
    {w : List Token}
    {tree : Expr}
    (h : Derives start w tree)
    {token : Token}
    (hMem : token ∈ w) :
    token.isEnd = false := by
  induction h with
  | expression _ ih => exact ih hMem
  | condition _ ih => exact ih hMem
  | branches _ hQuestion _ hColon _ ih₁ ih₂ ih₃ =>
      simp only [List.mem_append, List.mem_cons] at hMem
      rcases hMem with h₁ | rfl | h₂ | rfl | h₃
      · exact ih₁ h₁
      · simp [Token.isEnd, hQuestion]
      · exact ih₂ h₂
      · simp [Token.isEnd, hColon]
      · exact ih₃ h₃
  | operand _ ih => exact ih hMem
  | @operator level w₁ w₂ left right operator _ hOperator _
      ihLeft ihRight =>
      rcases List.mem_append.mp hMem with h₁ | h₂
      · exact ihLeft h₁
      · rcases List.mem_cons.mp h₂ with rfl | h₂
        · cases hKind : token.kind <;>
            simp_all [Level.mem_operators_iff, Kind.level?,
              Token.isEnd]
        · exact ihRight h₂
  | @unary w right operator hOperator _ ih =>
      rcases List.mem_cons.mp hMem with rfl | hMem
      · cases hKind : token.kind <;>
          simp_all [unaryOperators, Token.isEnd]
      · exact ih hMem
  | primary _ ih => exact ih hMem
  | literal hValue =>
      rw [List.mem_singleton.mp hMem]
      unfold Value.ofToken? at hValue
      split at hValue <;> simp_all [Token.isEnd]
  | grouping hOpening _ hClosing ih =>
      simp only [List.mem_cons, List.mem_append,
        List.not_mem_nil, or_false] at hMem
      rcases hMem with rfl | hInner | rfl
      · simp [Token.isEnd, hOpening]
      · exact ih hInner
      · simp [Token.isEnd, hClosing]

end LoxExpr
