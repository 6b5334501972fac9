import LoxExpr.Proofs.Evaluation.Refusals
import LoxExpr.Proofs.Evaluation.Rejections

/-
  This file says which failure of a tree is the one that its
  evaluation reports: of all operators that are reached and
  refuse the values of their operands, the first one in the
  order of evaluation.

  Key definitions include:
    * `Expr.Enters`
    * `Expr.Reaches`
    * `Expr.Fails`
    * `Before`

  Main statements:
    * `Expr.Reaches.eval_error`
    * `Expr.exists_isFirstFailure`
    * `Expr.eval_reports_first_failure`
-/

namespace LoxExpr

------------------------------------------------------------
-- Places in a Tree
------------------------------------------------------------

/- Where a child stands below its node. -/
inductive Turn where
| inner
| operand
| left
| right
| condition
| thenBranch
| elseBranch

/- Siblings of which one is evaluated before the other. -/
inductive Turn.Precedes : Turn → Turn → Prop
| operands : Precedes .left .right
| thenBranch : Precedes .condition .thenBranch
| elseBranch : Precedes .condition .elseBranch

/-
  The order of evaluation, on the turns that lead from the
  root to nodes: what is below a node comes before it, and
  siblings come in their order.
-/
inductive Before : List Turn → List Turn → Prop
| descendant (turn : Turn) (path : List Turn) :
    Before (turn :: path) []
| siblings {turn turn' : Turn} (path path' : List Turn) :
    turn.Precedes turn' →
    Before (turn :: path) (turn' :: path')
| within (turn : Turn) {path path' : List Turn} :
    Before path path' →
    Before (turn :: path) (turn :: path')

/- No place is before another one and behind it. -/
theorem Before.asymm
    {path path' : List Turn}
    (h : Before path path') :
    ¬Before path' path := by
  induction h with
  | descendant turn path => exact nofun
  | siblings path path' hTurns =>
      intro hBack
      cases hTurns <;> cases hBack with
      | siblings _ _ hTurns' => exact nomatch hTurns'
  | within turn hPaths ih =>
      intro hBack
      cases hBack with
      | siblings _ _ hTurns => exact nomatch hTurns
      | within _ hPaths' => exact ih hPaths'

namespace Expr

------------------------------------------------------------
-- Nodes That Are Reached
------------------------------------------------------------

/-
  A child that is evaluated if all before it have values.  Of
  the branches of a conditional, it is the one that the value
  of the condition selects.
-/
inductive Enters : Expr → Turn → Expr → Prop
| inner (inner : Expr) :
    Enters (.grouping inner) .inner inner
| operand (operator : Token) (right : Expr) :
    Enters (.unary operator right) .operand right
| left (left : Expr) (operator : Token) (right : Expr) :
    Enters (.binary left operator right) .left left
| right (left : Expr) (operator : Token) (right : Expr) :
    Enters (.binary left operator right) .right right
| condition (condition thenBranch elseBranch : Expr) :
    Enters (.conditional condition thenBranch elseBranch)
      .condition condition
| thenBranch {condition : Expr} {value : Value}
    (thenBranch elseBranch : Expr) :
    condition.eval = .ok value →
    value.isTruthy = true →
    Enters (.conditional condition thenBranch elseBranch)
      .thenBranch thenBranch
| elseBranch {condition : Expr} {value : Value}
    (thenBranch elseBranch : Expr) :
    condition.eval = .ok value →
    value.isTruthy = false →
    Enters (.conditional condition thenBranch elseBranch)
      .elseBranch elseBranch

/- A node that is reached from the root by turns. -/
inductive Reaches : Expr → List Turn → Expr → Prop
| here (e : Expr) : Reaches e [] e
| turn {e child node : Expr}
    {turn : Turn} {path : List Turn} :
    e.Enters turn child →
    child.Reaches path node →
    Reaches e (turn :: path) node

/- An operator that refuses the values of its operands. -/
inductive Fails : Expr → RuntimeError → Prop
| unary {operator : Token} {right : Expr}
    {value : Value} {err : RuntimeError} :
    right.eval = .ok value →
    operator.RefusesOne value err →
    Fails (.unary operator right) err
| binary {left : Expr} {operator : Token} {right : Expr}
    {x y : Value} {err : RuntimeError} :
    left.eval = .ok x →
    right.eval = .ok y →
    operator.RefusesTwo x y err →
    Fails (.binary left operator right) err

/- A failure at a place before those of all others. -/
structure IsFirstFailure
    (e : Expr)
    (path : List Turn)
    (node : Expr)
    (err : RuntimeError) : Prop where
  reaches : e.Reaches path node
  fails : node.Fails err
  first : ∀ path' node' err',
    e.Reaches path' node' → node'.Fails err' →
      path' = path ∨ Before path path'

variable {e child node : Expr}
variable {turn : Turn}
variable {path : List Turn}
variable {err : RuntimeError}

/- A turn leads to one child only. -/
theorem Enters.child_eq
    {child' : Expr}
    (h : e.Enters turn child)
    (h' : e.Enters turn child') :
    child = child' := by
  cases h <;> cases h' <;> rfl

/- Turns lead to one node only. -/
theorem Reaches.node_eq
    {node' : Expr}
    (h : e.Reaches path node)
    (h' : e.Reaches path node') :
    node = node' := by
  induction h with
  | here e =>
      cases h' with
      | here => rfl
  | turn hEnters _ ih =>
      cases h' with
      | turn hEnters' hReaches' =>
          cases hEnters.child_eq hEnters'
          exact ih hReaches'

/- No condition has a value that selects both branches. -/
theorem false_of_truthy_of_falsy
    {condition : Expr}
    {value value' : Value}
    (hValue : condition.eval = .ok value)
    (hTruthy : value.isTruthy = true)
    (hValue' : condition.eval = .ok value')
    (hFalsy : value'.isTruthy = false) :
    False := by
  rw [hValue] at hValue'
  cases hValue'
  rw [hTruthy] at hFalsy
  exact nomatch hFalsy

/- Children that are evaluated are so in an order. -/
theorem Enters.ordered
    {turn' : Turn}
    {child' : Expr}
    (h : e.Enters turn child)
    (h' : e.Enters turn' child') :
    turn = turn' ∨ turn.Precedes turn' ∨
      turn'.Precedes turn := by
  cases h with
  | inner | operand =>
      cases h'
      exact Or.inl rfl
  | left =>
      cases h' with
      | left => exact Or.inl rfl
      | right => exact Or.inr (Or.inl .operands)
  | right =>
      cases h' with
      | left => exact Or.inr (Or.inr .operands)
      | right => exact Or.inl rfl
  | condition =>
      cases h' with
      | condition => exact Or.inl rfl
      | thenBranch => exact Or.inr (Or.inl .thenBranch)
      | elseBranch => exact Or.inr (Or.inl .elseBranch)
  | thenBranch _ _ hValue hTruthy =>
      cases h' with
      | condition => exact Or.inr (Or.inr .thenBranch)
      | thenBranch => exact Or.inl rfl
      | elseBranch _ _ hValue' hFalsy =>
          exact (false_of_truthy_of_falsy hValue hTruthy
            hValue' hFalsy).elim
  | elseBranch _ _ hValue hFalsy =>
      cases h' with
      | condition => exact Or.inr (Or.inr .elseBranch)
      | thenBranch _ _ hValue' hTruthy =>
          exact (false_of_truthy_of_falsy hValue' hTruthy
            hValue hFalsy).elim
      | elseBranch => exact Or.inl rfl

/- Nodes that are reached are evaluated in an order. -/
theorem Reaches.ordered
    {path' : List Turn}
    {node' : Expr}
    (h : e.Reaches path node)
    (h' : e.Reaches path' node') :
    path = path' ∨ Before path path' ∨
      Before path' path := by
  induction h generalizing path' with
  | here e =>
      cases h' with
      | here => exact Or.inl rfl
      | turn _ _ => exact Or.inr (Or.inr (.descendant _ _))
  | turn hEnters _ ih =>
      cases h' with
      | here => exact Or.inr (Or.inl (.descendant _ _))
      | turn hEnters' hReaches' =>
          rcases hEnters.ordered hEnters' with
            rfl | hTurns | hTurns
          · cases hEnters.child_eq hEnters'
            rcases ih hReaches' with rfl | hPaths | hPaths
            · exact Or.inl rfl
            · exact Or.inr (Or.inl (.within _ hPaths))
            · exact Or.inr (Or.inr (.within _ hPaths))
          · exact Or.inr (Or.inl (.siblings _ _ hTurns))
          · exact Or.inr (Or.inr (.siblings _ _ hTurns))

------------------------------------------------------------
-- Failures That Are Reached
------------------------------------------------------------

/- An operator that refuses its operands fails. -/
theorem Fails.eval_eq
    (h : e.Fails err) :
    e.eval = .error err := by
  cases h with
  | unary hRight hRefuses =>
      have hErr := Token.applyUnary_eq_error_iff.mpr hRefuses
      rw [eval, hRight]
      exact hErr
  | binary hLeft hRight hRefuses =>
      have hErr := Token.applyBinary_eq_error_iff.mpr hRefuses
      rw [eval, hLeft, hRight]
      exact hErr

/- Below an operator that refuses, everything has a value. -/
theorem Fails.exists_eval_eq
    (h : e.Fails err)
    (hEnters : e.Enters turn child) :
    ∃ value, child.eval = .ok value := by
  cases h with
  | unary hRight _ =>
      cases hEnters
      exact ⟨_, hRight⟩
  | binary hLeft hRight _ =>
      cases hEnters with
      | left => exact ⟨_, hLeft⟩
      | right => exact ⟨_, hRight⟩

/- A failure of the operand is one of the node. -/
theorem eval_unary_of_error
    {right : Expr}
    (hErr : right.eval = .error err)
    (operator : Token) :
    (unary operator right).eval = .error err := by
  rw [eval, hErr]
  rfl

/- A failure of the left operand is one of the node. -/
theorem eval_binary_of_left
    {left : Expr}
    (hErr : left.eval = .error err)
    (operator : Token)
    (right : Expr) :
    (binary left operator right).eval = .error err := by
  rw [eval, hErr]
  rfl

/- Behind a value, so is a failure of the right operand. -/
theorem eval_binary_of_right
    {left right : Expr}
    {value : Value}
    (hLeft : left.eval = .ok value)
    (hErr : right.eval = .error err)
    (operator : Token) :
    (binary left operator right).eval = .error err := by
  rw [eval, hLeft, hErr]
  rfl

/- The value of the condition selects a branch. -/
theorem eval_conditional
    {condition : Expr}
    {value : Value}
    (hValue : condition.eval = .ok value)
    (thenBranch elseBranch : Expr) :
    (conditional condition thenBranch elseBranch).eval =
      if value.isTruthy = true then thenBranch.eval
      else elseBranch.eval := by
  rw [eval, hValue]
  rfl

/- If a child that is entered fails, so does its node. -/
theorem Enters.eval_error
    (h : e.Enters turn child)
    (hChild : ∃ err, child.eval = .error err) :
    ∃ err, e.eval = .error err := by
  rcases hChild with ⟨err, hErr⟩
  cases h with
  | inner => exact ⟨err, hErr⟩
  | operand => exact ⟨err, eval_unary_of_error hErr _⟩
  | left => exact ⟨err, eval_binary_of_left hErr _ _⟩
  | right left operator right =>
      cases hLeft : left.eval with
      | ok x => exact ⟨err, eval_binary_of_right hLeft hErr _⟩
      | error err' =>
          exact ⟨err', eval_binary_of_left hLeft _ _⟩
  | condition =>
      refine ⟨err, ?_⟩
      rw [eval, hErr]
      rfl
  | thenBranch _ _ hValue hTruthy =>
      refine ⟨err, ?_⟩
      rw [eval_conditional hValue, if_pos hTruthy, hErr]
  | elseBranch _ _ hValue hFalsy =>
      refine ⟨err, ?_⟩
      rw [eval_conditional hValue, hFalsy,
        if_neg Bool.false_ne_true, hErr]

/- If an operator that is reached fails, so does the tree. -/
theorem Reaches.eval_error
    (h : e.Reaches path node)
    (hFails : node.Fails err) :
    ∃ err, e.eval = .error err := by
  induction h with
  | here e => exact ⟨err, hFails.eval_eq⟩
  | turn hEnters _ ih => exact hEnters.eval_error (ih hFails)

------------------------------------------------------------
-- The First Failure
------------------------------------------------------------

/- An operator is the first failure if it fails itself. -/
theorem Fails.isFirstFailure
    (h : e.Fails err) :
    e.IsFirstFailure [] e err := by
  refine ⟨.here e, h, ?_⟩
  intro path' node' err' hReaches hFails
  cases hReaches with
  | here => exact Or.inl rfl
  | turn hEnters hReaches =>
      rcases h.exists_eval_eq hEnters with ⟨value, hValue⟩
      rcases hReaches.eval_error hFails with ⟨err, hErr⟩
      rw [hValue] at hErr
      exact nomatch hErr

/-
  The first failure below a child is the first of the node,
  if all children before that child have values.
-/
theorem IsFirstFailure.of_child
    (h : child.IsFirstFailure path node err)
    (hEnters : e.Enters turn child)
    (hBefore : ∀ turn' child', e.Enters turn' child' →
      turn'.Precedes turn →
        ∃ value, child'.eval = .ok value) :
    e.IsFirstFailure (turn :: path) node err := by
  refine ⟨.turn hEnters h.reaches, h.fails, ?_⟩
  intro path' node' err' hReaches hFails
  cases hReaches with
  | here => exact Or.inr (.descendant _ _)
  | turn hEnters' hReaches =>
      rcases hEnters.ordered hEnters' with
        rfl | hTurns | hTurns
      · cases hEnters.child_eq hEnters'
        rcases h.first _ _ _ hReaches hFails with
          rfl | hPaths
        · exact Or.inl rfl
        · exact Or.inr (.within _ hPaths)
      · exact Or.inr (.siblings _ _ hTurns)
      · rcases hBefore _ _ hEnters' hTurns with
          ⟨value, hValue⟩
        rcases hReaches.eval_error hFails with ⟨err, hErr⟩
        rw [hValue] at hErr
        exact nomatch hErr

/- What evaluation reports is a first failure. -/
theorem exists_isFirstFailure
    (hErr : e.eval = .error err) :
    ∃ path node, e.IsFirstFailure path node err := by
  induction e with
  | literal value => exact nomatch hErr
  | grouping inner ih =>
      rcases ih hErr with ⟨path, node, hFirst⟩
      refine ⟨_, node, hFirst.of_child (.inner inner) ?_⟩
      intro turn' child' _ hTurns
      exact nomatch hTurns
  | unary operator right ih =>
      rcases error_of_bind hErr with
        hErr | ⟨value, hValue, hErr⟩
      · rcases ih hErr with ⟨path, node, hFirst⟩
        refine ⟨_, node, hFirst.of_child (.operand _ _) ?_⟩
        intro turn' child' _ hTurns
        exact nomatch hTurns
      · have hRefuses :=
          Token.applyUnary_eq_error_iff.mp hErr
        exact ⟨_, _,
          (Fails.unary hValue hRefuses).isFirstFailure⟩
  | binary left operator right ihLeft ihRight =>
      rcases error_of_bind hErr with hErr | ⟨x, hLeft, hErr⟩
      · rcases ihLeft hErr with ⟨path, node, hFirst⟩
        refine ⟨_, node, hFirst.of_child (.left _ _ _) ?_⟩
        intro turn' child' _ hTurns
        exact nomatch hTurns
      rcases error_of_bind hErr with hErr | ⟨y, hRight, hErr⟩
      · rcases ihRight hErr with ⟨path, node, hFirst⟩
        refine ⟨_, node,
          hFirst.of_child (.right _ _ _) ?_⟩
        intro turn' child' hEnters hTurns
        cases hTurns
        cases hEnters
        exact ⟨x, hLeft⟩
      · have hRefuses :=
          Token.applyBinary_eq_error_iff.mp hErr
        exact ⟨_, _,
          (Fails.binary hLeft hRight
            hRefuses).isFirstFailure⟩
  | conditional condition thenBranch elseBranch
      ihCondition ihThen ihElse =>
      rcases error_of_bind hErr with
        hErr | ⟨value, hValue, hErr⟩
      · rcases ihCondition hErr with ⟨path, node, hFirst⟩
        refine ⟨_, node,
          hFirst.of_child (.condition _ _ _) ?_⟩
        intro turn' child' _ hTurns
        exact nomatch hTurns
      split at hErr
      · rename_i hTruthy
        rcases ihThen hErr with ⟨path, node, hFirst⟩
        refine ⟨_, node, hFirst.of_child
          (.thenBranch _ _ hValue hTruthy) ?_⟩
        intro turn' child' hEnters hTurns
        cases hTurns
        cases hEnters
        exact ⟨value, hValue⟩
      · rename_i hFalsy
        rw [Bool.not_eq_true] at hFalsy
        rcases ihElse hErr with ⟨path, node, hFirst⟩
        refine ⟨_, node, hFirst.of_child
          (.elseBranch _ _ hValue hFalsy) ?_⟩
        intro turn' child' hEnters hTurns
        cases hTurns
        cases hEnters
        exact ⟨value, hValue⟩

/- There is one first failure at most. -/
theorem IsFirstFailure.unique
    {path' : List Turn}
    {node' : Expr}
    {err' : RuntimeError}
    (h : e.IsFirstFailure path node err)
    (h' : e.IsFirstFailure path' node' err') :
    path = path' ∧ node = node' ∧ err = err' := by
  have hPath : path = path' := by
    rcases h.first _ _ _ h'.reaches h'.fails with
      hSame | hBefore
    · exact hSame.symm
    · rcases h'.first _ _ _ h.reaches h.fails with
        hSame | hBack
      · exact hSame
      · exact absurd hBack hBefore.asymm
  subst hPath
  have hNode := h.reaches.node_eq h'.reaches
  subst hNode
  have hErr := h.fails.eval_eq.symm.trans h'.fails.eval_eq
  exact ⟨rfl, rfl, Except.error.inj hErr⟩

/- Evaluation reports an error if it is the first failure. -/
theorem eval_eq_error_iff :
    e.eval = .error err ↔
      ∃ path node, e.IsFirstFailure path node err := by
  constructor
  · exact exists_isFirstFailure
  · rintro ⟨path, node, hFirst⟩
    rcases hFirst.reaches.eval_error hFirst.fails with
      ⟨err', hErr⟩
    rcases exists_isFirstFailure hErr with
      ⟨path', node', hReported⟩
    rcases hFirst.unique hReported with ⟨_, _, rfl⟩
    exact hErr

/-
  The nodes of a tree that are reached are in one order, in
  which evaluation visits them.  A tree fails if and only if
  some operator is reached that refuses the values of its
  operands, and the error is the one with which the first
  such operator refuses them.  So the failure of an operand
  is reported, and not one of the operator, nor of an operand
  behind it.
-/
theorem eval_reports_first_failure :
    (∀ (e : Expr) path path' node node',
      e.Reaches path node → e.Reaches path' node' →
        path = path' ∨ Before path path' ∨
          Before path' path) ∧
    (∀ e : Expr,
      (∃ err, e.eval = .error err) ↔
        ∃ path node err,
          e.Reaches path node ∧ node.Fails err) ∧
    (∀ (e : Expr) err,
      e.eval = .error err ↔
        ∃ path node, e.IsFirstFailure path node err) ∧
    ∀ (left right : Expr) (operator : Token) err,
      (right.eval = .error err →
        (unary operator right).eval = .error err) ∧
      (left.eval = .error err →
        (binary left operator right).eval = .error err) ∧
      ∀ value, left.eval = .ok value →
        right.eval = .error err →
          (binary left operator right).eval =
            .error err := by
  refine ⟨?_, ?_, fun _ _ => eval_eq_error_iff, ?_⟩
  · intro e path path' node node' hReaches hReaches'
    exact hReaches.ordered hReaches'
  · intro e
    constructor
    · rintro ⟨err, hErr⟩
      rcases exists_isFirstFailure hErr with
        ⟨path, node, hFirst⟩
      exact ⟨path, node, err, hFirst.reaches, hFirst.fails⟩
    · rintro ⟨path, node, err, hReaches, hFails⟩
      exact hReaches.eval_error hFails
  · intro left right operator err
    refine ⟨?_, ?_, ?_⟩
    · intro hErr
      exact eval_unary_of_error hErr operator
    · intro hErr
      exact eval_binary_of_left hErr operator right
    · intro value hLeft hErr
      exact eval_binary_of_right hLeft hErr operator

end Expr

end LoxExpr
