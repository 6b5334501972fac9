import LoxExpr.Expr
import LoxExpr.Grammar.Error

/-
  This file defines what reading a phrase of the grammar
  comes to, and the steps that read a single token.

  A binary operator where an operand should begin does not
  stop the reading.  It is noted, the operand behind it is
  read and dropped, and the phrase has no tree.  Every other
  fault ends the reading at once.

  Key definitions include:
    * `Ending`
    * `Outcome`
    * `Outcome.andThen`
    * `passKind`
    * `readLiteral`
-/

namespace LoxExpr

------------------------------------------------------------
-- Outcomes
------------------------------------------------------------

/- The token behind the last one, and its position. -/
structure Ending where
  token : Token
  position : Nat

/- The error at the first of the remaining tokens. -/
def Ending.errorAt
    (ending : Ending)
    (fault : SyntaxFault)
    (tokens : List Token) : SyntaxError :=
  ⟨tokens.headD ending.token, fault,
    ending.position - tokens.length⟩

/-
  The outcome of reading a phrase: a failure, or the tree if
  there is one; the operators that lack a left operand, in
  order; and the tokens that remain.
-/
structure Outcome where
  result : Except SyntaxError (Option Expr)
  missing : List SyntaxError
  rest : List Token

namespace Outcome

/- Reading is done, with or without a tree. -/
def done
    (tree : Option Expr)
    (rest : List Token) : Outcome :=
  ⟨.ok tree, [], rest⟩

/- Reading failed. -/
def failed
    (e : SyntaxError)
    (rest : List Token) : Outcome :=
  ⟨.error e, [], rest⟩

/- Go on with the tree and the rest, unless reading failed. -/
def andThen
    (o : Outcome)
    (next : Option Expr → List Token → Outcome) : Outcome :=
  match o.result with
  | .error _ => o
  | .ok tree =>
      let o' := next tree o.rest
      ⟨o'.result, o.missing ++ o'.missing, o'.rest⟩

/- Going on from what is done. -/
theorem andThen_done
    (tree : Option Expr)
    (rest : List Token)
    (next : Option Expr → List Token → Outcome) :
    (done tree rest).andThen next = next tree rest := by
  simp [andThen, done]

/- Nothing goes on from a failure. -/
theorem andThen_failed
    (e : SyntaxError)
    (rest : List Token)
    (next : Option Expr → List Token → Outcome) :
    (failed e rest).andThen next = failed e rest := rfl

/- Going on twice is going on once with both in order. -/
theorem andThen_assoc
    (o : Outcome)
    (next next' : Option Expr → List Token → Outcome) :
    (o.andThen next).andThen next' =
      o.andThen fun tree rest =>
        (next tree rest).andThen next' := by
  rcases o with ⟨_ | tree, missing, rest⟩
  · rfl
  · cases hNext : (next tree rest).result with
    | error e => simp [andThen, hNext]
    | ok tree' => simp [andThen, hNext]

/- The tree, if reading gave one. -/
def tree? (o : Outcome) : Option Expr :=
  match o.result with
  | .error _ => none
  | .ok tree => tree

/- Every error, the failure at the end. -/
def errors (o : Outcome) : List SyntaxError :=
  match o.result with
  | .error e => o.missing ++ [e]
  | .ok _ => o.missing

end Outcome

------------------------------------------------------------
-- Single Tokens
------------------------------------------------------------

/- Pass a token of a required kind. -/
def passKind
    (ending : Ending)
    (kind : Kind)
    (message : String)
    (tokens : List Token) : Outcome :=
  match tokens with
  | [] => .failed (ending.errorAt (.expected message) []) []
  | token :: more =>
      if token.kind = kind then
        .done none more
      else
        .failed (ending.errorAt (.expected message) tokens)
          tokens

/- Pass the colon between the branches of a conditional. -/
def passColon
    (ending : Ending)
    (tokens : List Token) : Outcome :=
  passKind ending .colon
    "Expect ':' after then branch of conditional expression."
    tokens

/- Pass the parenthesis that closes a group. -/
def passClose
    (ending : Ending)
    (tokens : List Token) : Outcome :=
  passKind ending .rightParen
    "Expect ')' after expression." tokens

/- Note an operator without left operand, and pass it. -/
def passOperator
    (ending : Ending)
    (operator : Token)
    (more : List Token) : Outcome :=
  let e := ending.errorAt .missingLeftOperand
    (operator :: more)
  ⟨.ok none, [e], more⟩

/-
  Read a literal.  A token without the value of its kind is a
  failure, and it has been passed nevertheless.
-/
def readLiteral
    (ending : Ending)
    (token : Token)
    (more : List Token) : Outcome :=
  match Value.ofToken? token with
  | some value => .done (some (.literal value)) more
  | none =>
      .failed
        (ending.errorAt .expectedExpression (token :: more))
        more

------------------------------------------------------------
-- Trees of Phrases
------------------------------------------------------------

/- The tree of a binary operator, if both operands have one. -/
def binaryTree
    (left : Option Expr)
    (operator : Token)
    (right : Option Expr) : Option Expr := do
  return .binary (← left) operator (← right)

/- The tree of a conditional, if all its parts have one. -/
def conditionalTree
    (condition thenBranch elseBranch : Option Expr) :
    Option Expr := do
  return .conditional (← condition) (← thenBranch)
    (← elseBranch)

------------------------------------------------------------
-- Outcomes That Put Nothing Back
------------------------------------------------------------

/- A token that is passed is not put back. -/
theorem length_rest_passKind_le
    (ending : Ending)
    (kind : Kind)
    (message : String)
    (tokens : List Token) :
    (passKind ending kind message tokens).rest.length ≤
      tokens.length := by
  unfold passKind
  split
  · simp [Outcome.failed]
  · split <;> simp [Outcome.failed, Outcome.done]

/- A literal is never put back. -/
theorem rest_readLiteral
    (ending : Ending)
    (token : Token)
    (more : List Token) :
    (readLiteral ending token more).rest = more := by
  unfold readLiteral
  split <;> rfl

end LoxExpr
