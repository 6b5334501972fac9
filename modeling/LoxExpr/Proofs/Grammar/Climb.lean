import LoxExpr.Proofs.Grammar.Lookahead

/-
  This file compares readings in which everything but the
  trees is the same, and says what is left to be read behind
  a phrase: the operators of weaker levels, and the branches
  of a conditional.

  Key definitions include:
    * `Outcome.shape`
    * `Phrase.climb`

  Main statements:
    * `Phrase.blind_climb`
    * `readPhrase_conditional_eq_climb`
    * `shape_climb_operator`
-/

namespace LoxExpr

------------------------------------------------------------
-- Shapes of Outcomes
------------------------------------------------------------

/-
  An outcome without its trees and without the positions of
  its errors.
-/
structure Shape where
  result : Except (Token × SyntaxFault) Bool
  missing : List (Token × SyntaxFault)
  rest : List Token

/- An error without its position. -/
def SyntaxError.kindAt (e : SyntaxError) : Token × SyntaxFault :=
  (e.token, e.fault)

namespace Outcome

def shape (o : Outcome) : Shape where
  result :=
    match o.result with
    | .error e => .error e.kindAt
    | .ok tree => .ok tree.isSome
  missing := o.missing.map SyntaxError.kindAt
  rest := o.rest

/- What goes on depends on trees only by their presence. -/
def Blind
    (next : Option Expr → List Token → Outcome) : Prop :=
  ∀ tree tree' rest, tree.isSome = tree'.isSome →
    (next tree rest).shape = (next tree' rest).shape

theorem shape_done
    {tree tree' : Option Expr}
    (hTree : tree.isSome = tree'.isSome)
    (rest : List Token) :
    (done tree rest).shape = (done tree' rest).shape := by
  simp [shape, hTree]

theorem blind_done : Blind done := by
  intro tree tree' rest hTree
  exact shape_done hTree rest

/- Equal shapes are continued by equal shapes. -/
theorem shape_andThen
    {o o' : Outcome}
    {next next' : Option Expr → List Token → Outcome}
    (hShape : o.shape = o'.shape)
    (hNext :
      ∀ tree tree' rest, tree.isSome = tree'.isSome →
        (next tree rest).shape =
          (next' tree' rest).shape) :
    (o.andThen next).shape = (o'.andThen next').shape := by
  have hResult := congrArg Shape.result hShape
  have hMissing := congrArg Shape.missing hShape
  have hRest := congrArg Shape.rest hShape
  simp only [shape] at hResult hMissing hRest
  cases hFirst : o.result with
  | error e =>
      cases hSecond : o'.result with
      | error e' =>
          rw [andThen_of_error hFirst,
            andThen_of_error hSecond]
          exact hShape
      | ok tree' => simp [hFirst, hSecond] at hResult
  | ok tree =>
      cases hSecond : o'.result with
      | error e' => simp [hFirst, hSecond] at hResult
      | ok tree' =>
          have hTree : tree.isSome = tree'.isSome := by
            simpa [hFirst, hSecond] using hResult
          have hSame := hNext tree tree' o'.rest hTree
          rw [andThen_of_ok hFirst, andThen_of_ok hSecond,
            hRest]
          simp only [shape, Shape.mk.injEq] at hSame
          simp [shape, hSame, hMissing]

/- The same reading may be continued by equal shapes. -/
theorem shape_andThen_next
    (o : Outcome)
    {next next' : Option Expr → List Token → Outcome}
    (hNext :
      ∀ tree, o.result = .ok tree →
        (next tree o.rest).shape =
          (next' tree o.rest).shape) :
    (o.andThen next).shape = (o.andThen next').shape := by
  cases hResult : o.result with
  | error e =>
      rw [andThen_of_error hResult,
        andThen_of_error hResult]
  | ok tree =>
      have hSame := hNext tree hResult
      rw [andThen_of_ok hResult, andThen_of_ok hResult]
      simp only [shape, Shape.mk.injEq] at hSame ⊢
      simp [hSame]

/- Going on without doing anything changes nothing. -/
theorem andThen_done_self (o : Outcome) :
    o.andThen done = o := by
  cases hResult : o.result with
  | error e => exact andThen_of_error hResult _
  | ok tree =>
      rw [andThen_of_ok hResult]
      simp [← hResult]

end Outcome

/- A binary tree is there if both of its operands are. -/
theorem isSome_binaryTree
    (left : Option Expr)
    (operator : Token)
    (right : Option Expr) :
    (binaryTree left operator right).isSome =
      (left.isSome && right.isSome) := by
  cases left <;> cases right <;> rfl

/- A conditional is there if all of its parts are. -/
theorem isSome_conditionalTree
    (condition thenBranch elseBranch : Option Expr) :
    (conditionalTree condition thenBranch
        elseBranch).isSome =
      (condition.isSome &&
        (thenBranch.isSome && elseBranch.isSome)) := by
  cases condition <;> cases thenBranch <;>
    cases elseBranch <;> rfl

------------------------------------------------------------
-- Readers That Are Blind to Trees
------------------------------------------------------------

theorem blind_readChain
    (ending : Ending)
    (level : Level) :
    Outcome.Blind (readChain ending level) := by
  intro left left' tokens hLeft
  induction hLength : tokens.length
      using Nat.strongRecOn generalizing left left' tokens
      with
  | ind n ih =>
      subst hLength
      cases tokens with
      | nil =>
          rw [readChain_nil, readChain_nil]
          exact Outcome.shape_done hLeft _
      | cons operator more =>
          rw [readChain_cons, readChain_cons]
          split
          · apply Outcome.shape_andThen_next
            intro right _
            have hRest :=
              length_rest_readPhrase_le ending
                level.operand more
            apply ih _ (Nat.lt_succ_of_le hRest) _ _ _
              ?_ rfl
            rw [isSome_binaryTree, isSome_binaryTree,
              hLeft]
          · exact Outcome.shape_done hLeft _

theorem blind_readBranches (ending : Ending) :
    Outcome.Blind (readBranches ending) := by
  intro condition condition' tokens hCondition
  cases tokens with
  | nil =>
      rw [readBranches_nil, readBranches_nil]
      exact Outcome.shape_done hCondition _
  | cons token more =>
      rw [readBranches_cons, readBranches_cons]
      split
      · apply Outcome.shape_andThen_next
        intro thenBranch _
        apply Outcome.shape_andThen_next
        intro _ _
        apply Outcome.shape_andThen_next
        intro elseBranch _
        apply Outcome.shape_done
        rw [isSome_conditionalTree, isSome_conditionalTree,
          hCondition]
      · exact Outcome.shape_done hCondition _

------------------------------------------------------------
-- What Is Left behind a Phrase
------------------------------------------------------------

/-
  The levels that may still go on behind a phrase, the
  strongest first.
-/
def Phrase.pending : Phrase → List Level
| .conditional => []
| .binary .equality => []
| .binary .comparison => [.equality]
| .binary .term => [.comparison, .equality]
| .binary .factor => [.term, .comparison, .equality]
| .unary => [.factor, .term, .comparison, .equality]

/- Go on with levels in order, and then with branches. -/
def climbLevels (ending : Ending) :
    List Level → Option Expr → List Token → Outcome
| [] => readBranches ending
| level :: levels => fun tree rest =>
    (readChain ending level tree rest).andThen
      (climbLevels ending levels)

namespace Phrase

/- Go on behind a phrase until the conditional is read. -/
def climb
    (ending : Ending)
    (phrase : Phrase) :
    Option Expr → List Token → Outcome :=
  match phrase with
  | .conditional => .done
  | phrase => climbLevels ending phrase.pending

@[simp] theorem climb_conditional (ending : Ending) :
    climb ending .conditional = .done := rfl

@[simp] theorem climb_equality (ending : Ending) :
    climb ending (.binary .equality) =
      readBranches ending := rfl

/- Behind an operand goes its level, then what is behind. -/
theorem climb_operand
    (ending : Ending)
    (level : Level)
    (tree : Option Expr)
    (rest : List Token) :
    climb ending level.operand tree rest =
      (readChain ending level tree rest).andThen
        (climb ending (.binary level)) := by
  cases level <;> rfl

/- What is behind a phrase is blind to its tree. -/
theorem blind_climb
    (ending : Ending)
    (phrase : Phrase) :
    Outcome.Blind (climb ending phrase) := by
  have hLevels : ∀ levels,
      Outcome.Blind (climbLevels ending levels) := by
    intro levels
    induction levels with
    | nil => exact blind_readBranches ending
    | cons level levels ih =>
        intro tree tree' rest hTree
        exact Outcome.shape_andThen
          (blind_readChain ending level tree tree' rest
            hTree)
          ih
  cases phrase with
  | conditional => exact Outcome.blind_done
  | binary level => exact hLevels _
  | unary => exact hLevels _

/- A level that stops leaves all to the weaker ones. -/
theorem climb_operand_of_stopsAt
    (ending : Ending)
    {level : Level}
    (tree : Option Expr)
    {rest : List Token}
    (hStops : (Phrase.binary level).StopsAt rest) :
    climb ending level.operand tree rest =
      climb ending (.binary level) tree rest := by
  rw [climb_operand, readChain_of_stopsAt ending tree hStops,
    Outcome.andThen_done]

/- Where a phrase stops, so do all that are stronger. -/
theorem climb_unary_of_stopsAt
    (ending : Ending)
    {phrase : Phrase}
    (tree : Option Expr)
    {rest : List Token}
    (hStops : phrase.StopsAt rest) :
    climb ending .unary tree rest =
      climb ending phrase tree rest := by
  have hStep : ∀ level : Level,
      (Phrase.binary level).rank ≤ phrase.rank →
      climb ending level.operand tree rest =
        climb ending (.binary level) tree rest := by
    intro level hRank
    apply climb_operand_of_stopsAt
    intro token hToken hGoesOn
    apply hStops token hToken
    rcases hGoesOn with ⟨hPhrase, _⟩ | ⟨level', hLevel, hLe⟩
    · exact absurd hPhrase (by simp)
    · exact Or.inr ⟨level', hLevel, Nat.le_trans hLe hRank⟩
  have hFactor := hStep .factor
  have hTerm := hStep .term
  have hComparison := hStep .comparison
  have hEquality := hStep .equality
  rcases phrase with _ | level | _
  · have hBranches :=
      readBranches_of_stopsAt ending tree hStops
    simp_all [Level.operand, rank]
  · cases level <;> simp_all [Level.operand, rank]
  · rfl

end Phrase

------------------------------------------------------------
-- A Conditional in Two Parts
------------------------------------------------------------

/-
  A conditional is any of the phrases that it begins with,
  and what goes on behind that phrase.
-/
theorem readPhrase_conditional_eq_climb
    (ending : Ending)
    (phrase : Phrase)
    (tokens : List Token) :
    readPhrase ending .conditional tokens =
      (readPhrase ending phrase tokens).andThen
        (phrase.climb ending) := by
  have hEquality :=
    readPhrase_conditional ending tokens
  have hStep : ∀ level : Level,
      (readPhrase ending (.binary level) tokens).andThen
          (Phrase.climb ending (.binary level)) =
        (readPhrase ending level.operand tokens).andThen
          (level.operand.climb ending) := by
    intro level
    rw [readPhrase_binary, Outcome.andThen_assoc]
    congr
    funext tree rest
    exact (Phrase.climb_operand ending level tree rest).symm
  have hComparison := hEquality.trans (hStep .equality)
  have hTerm := hComparison.trans (hStep .comparison)
  have hFactor := hTerm.trans (hStep .term)
  have hUnary := hFactor.trans (hStep .factor)
  cases phrase with
  | conditional => exact (Outcome.andThen_done_self _).symm
  | binary level =>
      cases level with
      | equality => exact hEquality
      | comparison => exact hComparison
      | term => exact hTerm
      | factor => exact hFactor
  | unary => exact hUnary

/-
  Behind an operand, an operator of its level and what is
  behind it are read as a conditional is, but for the tree.
-/
theorem shape_climb_operator
    (ending : Ending)
    {level : Level}
    {operator : Token}
    (hLevel : operator.kind.level? = some level)
    {tree : Option Expr}
    (hTree : tree.isSome = true)
    (more : List Token) :
    (level.operand.climb ending tree
        (operator :: more)).shape =
      (readPhrase ending .conditional more).shape := by
  rw [Phrase.climb_operand, readChain_cons, if_pos hLevel,
    Outcome.andThen_assoc,
    readPhrase_conditional_eq_climb ending level.operand]
  apply Outcome.shape_andThen_next
  intro right _
  rw [← Phrase.climb_operand]
  apply Phrase.blind_climb
  rw [isSome_binaryTree, hTree, Bool.true_and]

end LoxExpr
