import LoxExpr.Grammar.Reading

/-
  This file packages what proofs about reading share: an
  induction that follows the readers, and what is known of a
  step from the outcome of the whole.

  Main statements:
    * `reading_induction`
    * `Outcome.exists_of_andThen_ok`
    * `passKind_ok`
    * `readOperand_of_level?`
-/

namespace LoxExpr

------------------------------------------------------------
-- Induction along the Readers
------------------------------------------------------------

/-
  A statement on phrases, on chains and on branches holds of
  all token lists if each reader keeps it.  A phrase calls a
  stronger phrase on the same tokens first, and everything
  else on fewer tokens.
-/
theorem reading_induction
    {onPhrase : Phrase → List Token → Prop}
    {onChain : Level → Option Expr → List Token → Prop}
    {onBranches : Option Expr → List Token → Prop}
    (conditional :
      ∀ tokens,
        onPhrase (.binary .equality) tokens →
        (∀ condition rest, rest.length ≤ tokens.length →
          onBranches condition rest) →
        onPhrase .conditional tokens)
    (binary :
      ∀ level tokens,
        onPhrase level.operand tokens →
        (∀ left rest, rest.length ≤ tokens.length →
          onChain level left rest) →
        onPhrase (.binary level) tokens)
    (unary :
      ∀ tokens,
        (∀ phrase rest, rest.length < tokens.length →
          onPhrase phrase rest) →
        onPhrase .unary tokens)
    (chain :
      ∀ level left tokens,
        (∀ phrase rest, rest.length < tokens.length →
          onPhrase phrase rest) →
        (∀ left rest, rest.length < tokens.length →
          onChain level left rest) →
        onChain level left tokens)
    (branches :
      ∀ condition tokens,
        (∀ phrase rest, rest.length < tokens.length →
          onPhrase phrase rest) →
        onBranches condition tokens) :
    (∀ phrase tokens, onPhrase phrase tokens) ∧
      (∀ level left tokens, onChain level left tokens) ∧
      ∀ condition tokens, onBranches condition tokens := by
  -- All three at once, by the number of tokens; the phrases
  -- on one list by their rank.
  have hAll : ∀ n,
      (∀ phrase (tokens : List Token), tokens.length = n →
        onPhrase phrase tokens) ∧
      (∀ level left (tokens : List Token),
        tokens.length = n → onChain level left tokens) ∧
      ∀ condition (tokens : List Token),
        tokens.length = n → onBranches condition tokens := by
    intro n
    induction n using Nat.strongRecOn with
    | ind n ih =>
      have hChain : ∀ level left (tokens : List Token),
          tokens.length = n → onChain level left tokens := by
        intro level left tokens hLength
        subst hLength
        exact chain level left tokens
          (fun phrase rest hRest =>
            (ih _ hRest).1 phrase rest rfl)
          (fun left rest hRest =>
            (ih _ hRest).2.1 level left rest rfl)
      have hBranches : ∀ condition (tokens : List Token),
          tokens.length = n →
            onBranches condition tokens := by
        intro condition tokens hLength
        subst hLength
        exact branches condition tokens
          fun phrase rest hRest =>
            (ih _ hRest).1 phrase rest rfl
      have hPhrase : ∀ rank phrase (tokens : List Token),
          phrase.rank = rank → tokens.length = n →
            onPhrase phrase tokens := by
        intro rank
        induction rank using Nat.strongRecOn with
        | ind rank ihRank =>
          intro phrase tokens hRank hLength
          subst hRank
          cases phrase with
          | conditional =>
              apply conditional tokens
              · exact ihRank _ (by decide) _ tokens rfl
                  hLength
              · intro condition rest hRest
                rcases Nat.lt_or_eq_of_le hRest with
                  hLess | hSame
                · exact (ih _ (hLength ▸ hLess)).2.2
                    condition rest rfl
                · exact hBranches condition rest
                    (hSame.trans hLength)
          | binary level =>
              apply binary level tokens
              · exact ihRank _ level.rank_operand_lt _
                  tokens rfl hLength
              · intro left rest hRest
                rcases Nat.lt_or_eq_of_le hRest with
                  hLess | hSame
                · exact (ih _ (hLength ▸ hLess)).2.1
                    level left rest rfl
                · exact hChain level left rest
                    (hSame.trans hLength)
          | unary =>
              subst hLength
              exact unary tokens fun phrase rest hRest =>
                (ih _ hRest).1 phrase rest rfl
      exact ⟨fun phrase tokens =>
        hPhrase _ phrase tokens rfl, hChain, hBranches⟩
  exact ⟨fun phrase tokens => (hAll _).1 phrase tokens rfl,
    fun level left tokens =>
      (hAll _).2.1 level left tokens rfl,
    fun condition tokens =>
      (hAll _).2.2 condition tokens rfl⟩

------------------------------------------------------------
-- Steps of an Outcome
------------------------------------------------------------

namespace Outcome

@[simp] theorem result_done
    (tree : Option Expr)
    (rest : List Token) :
    (done tree rest).result = .ok tree := rfl

@[simp] theorem missing_done
    (tree : Option Expr)
    (rest : List Token) :
    (done tree rest).missing = [] := rfl

@[simp] theorem rest_done
    (tree : Option Expr)
    (rest : List Token) :
    (done tree rest).rest = rest := rfl

@[simp] theorem result_failed
    (e : SyntaxError)
    (rest : List Token) :
    (failed e rest).result = .error e := rfl

@[simp] theorem missing_failed
    (e : SyntaxError)
    (rest : List Token) :
    (failed e rest).missing = [] := rfl

@[simp] theorem rest_failed
    (e : SyntaxError)
    (rest : List Token) :
    (failed e rest).rest = rest := rfl

/- A failure ends the reading where it is. -/
theorem andThen_of_error
    {o : Outcome}
    {e : SyntaxError}
    (h : o.result = .error e)
    (next : Option Expr → List Token → Outcome) :
    o.andThen next = o := by
  simp [andThen, h]

/- What is read first goes before what is read next. -/
theorem andThen_of_ok
    {o : Outcome}
    {tree : Option Expr}
    (h : o.result = .ok tree)
    (next : Option Expr → List Token → Outcome) :
    o.andThen next =
      ⟨(next tree o.rest).result,
        o.missing ++ (next tree o.rest).missing,
        (next tree o.rest).rest⟩ := by
  simp [andThen, h]

/- If the whole is read, so are both of its parts. -/
theorem exists_of_andThen_ok
    {o : Outcome}
    {next : Option Expr → List Token → Outcome}
    {tree : Option Expr}
    (h : (o.andThen next).result = .ok tree) :
    ∃ first, o.result = .ok first ∧
      (next first o.rest).result = .ok tree := by
  cases hResult : o.result with
  | error e =>
      rw [andThen_of_error hResult, hResult] at h
      exact absurd h (by simp)
  | ok first =>
      rw [andThen_of_ok hResult] at h
      exact ⟨first, rfl, h⟩

end Outcome

------------------------------------------------------------
-- Trees of Parts
------------------------------------------------------------

/- A binary operator has a tree if both operands have one. -/
theorem binaryTree_eq_some_iff
    {left right : Option Expr}
    {operator : Token}
    {tree : Expr} :
    binaryTree left operator right = some tree ↔
      ∃ l r, left = some l ∧ right = some r ∧
        tree = .binary l operator r := by
  cases left <;> cases right <;>
    simp [binaryTree, eq_comm]

/- A conditional has a tree if all its parts have one. -/
theorem conditionalTree_eq_some_iff
    {condition thenBranch elseBranch : Option Expr}
    {tree : Expr} :
    conditionalTree condition thenBranch elseBranch =
        some tree ↔
      ∃ c t e, condition = some c ∧ thenBranch = some t ∧
        elseBranch = some e ∧
        tree = .conditional c t e := by
  cases condition <;> cases thenBranch <;>
    cases elseBranch <;> simp [conditionalTree, eq_comm]

------------------------------------------------------------
-- Single Tokens
------------------------------------------------------------

/- Either a token of some sort is next, or none is. -/
theorem exists_cons_or_head?
    (property : Token → Prop)
    (tokens : List Token) :
    (∃ token more, tokens = token :: more ∧
      property token) ∨
    ∀ token, tokens.head? = some token →
      ¬property token := by
  cases tokens with
  | nil =>
      refine Or.inr fun token hNext => ?_
      simp at hNext
  | cons token more =>
      by_cases hToken : property token
      · exact Or.inl ⟨token, more, rfl, hToken⟩
      · refine Or.inr fun next hNext => ?_
        rw [← Option.some.inj hNext]
        exact hToken

/- A token of the required kind is passed. -/
theorem passKind_cons
    (ending : Ending)
    {kind : Kind}
    (message : String)
    {token : Token}
    (hKind : token.kind = kind)
    (more : List Token) :
    passKind ending kind message (token :: more) =
      .done none more := by
  simp [passKind, hKind]

/- Where no token of the required kind is next, one is missed. -/
theorem passKind_of_head?
    (ending : Ending)
    {kind : Kind}
    (message : String)
    {tokens : List Token}
    (hHead :
      ∀ token, tokens.head? = some token →
        token.kind ≠ kind) :
    passKind ending kind message tokens =
      .failed (ending.errorAt (.expected message) tokens)
        tokens := by
  cases tokens with
  | nil => rfl
  | cons token more =>
      rw [passKind, if_neg (hHead token rfl)]

/- What has been passed was a token of the required kind. -/
theorem passKind_ok
    {ending : Ending}
    {kind : Kind}
    {message : String}
    {tokens : List Token}
    {tree : Option Expr}
    (h :
      (passKind ending kind message tokens).result =
        .ok tree) :
    ∃ token more, tokens = token :: more ∧
      token.kind = kind ∧
      passKind ending kind message tokens =
        .done none more := by
  cases tokens with
  | nil => simp [passKind, Outcome.failed] at h
  | cons token more =>
      by_cases hKind : token.kind = kind
      · exact ⟨token, more, rfl, hKind,
          passKind_cons ending message hKind more⟩
      · simp [passKind, hKind, Outcome.failed] at h

/- The colon and what is behind it are not put back. -/
theorem length_rest_passColon_le
    (ending : Ending)
    (tokens : List Token) :
    (passColon ending tokens).rest.length ≤
      tokens.length :=
  length_rest_passKind_le _ _ _ _

/- A token with a value is read as a literal. -/
theorem readLiteral_of_some
    (ending : Ending)
    {token : Token}
    {value : Value}
    (hValue : Value.ofToken? token = some value)
    (more : List Token) :
    readLiteral ending token more =
      .done (some (.literal value)) more := by
  simp [readLiteral, hValue]

/- What is read as a literal has a value. -/
theorem readLiteral_ok
    {ending : Ending}
    {token : Token}
    {more : List Token}
    {tree : Option Expr}
    (h :
      (readLiteral ending token more).result = .ok tree) :
    ∃ value, Value.ofToken? token = some value ∧
      readLiteral ending token more =
        .done (some (.literal value)) more := by
  cases hValue : Value.ofToken? token with
  | none => simp [readLiteral, hValue, Outcome.failed] at h
  | some value =>
      exact ⟨value, rfl,
        readLiteral_of_some ending hValue more⟩

/- Tokens with a value are literals by their kind. -/
theorem isLiteral_of_ofToken?
    {token : Token}
    {value : Value}
    (hValue : Value.ofToken? token = some value) :
    token.kind.isLiteral = true := by
  unfold Value.ofToken? at hValue
  split at hValue <;> simp_all [Kind.isLiteral]

/- Literals do not stand before an operand. -/
theorem isUnary_of_isLiteral
    {kind : Kind}
    (hLiteral : kind.isLiteral = true) :
    kind.isUnary = false := by
  cases kind <;> simp_all [Kind.isLiteral, Kind.isUnary]

------------------------------------------------------------
-- Operands by Their First Token
------------------------------------------------------------

/- An operator before its operand. -/
theorem readOperand_of_isUnary
    (ending : Ending)
    {token : Token}
    (hUnary : token.kind.isUnary = true)
    (more : List Token) :
    readOperand ending token more =
      (readPhrase ending .unary more).andThen
        fun right => .done (right.map (.unary token)) := by
  rw [readOperand_eq, if_pos hUnary]

/- A literal. -/
theorem readOperand_of_isLiteral
    (ending : Ending)
    {token : Token}
    (hLiteral : token.kind.isLiteral = true)
    (more : List Token) :
    readOperand ending token more =
      readLiteral ending token more := by
  rw [readOperand_eq, isUnary_of_isLiteral hLiteral,
    if_neg Bool.false_ne_true, if_pos hLiteral]

/- A group. -/
theorem readOperand_of_leftParen
    (ending : Ending)
    {token : Token}
    (hOpening : token.kind = .leftParen)
    (more : List Token) :
    readOperand ending token more =
      (readPhrase ending .conditional more).andThen
        fun inner rest =>
      (passClose ending rest).andThen
        fun _ => .done (inner.map .grouping) := by
  rw [readOperand_eq]
  simp [hOpening, Kind.isUnary, Kind.isLiteral]

/- A binary operator, and the operand that it has. -/
theorem readOperand_of_level?
    (ending : Ending)
    {token : Token}
    {level : Level}
    (hUnary : ¬ token.kind.isUnary = true)
    (hLevel : token.kind.level? = some level)
    (more : List Token) :
    readOperand ending token more =
      (passOperator ending token more).andThen
        fun _ rest =>
      (readPhrase ending level.operand rest).andThen
        fun _ => .done none := by
  have hLiteral : ¬ token.kind.isLiteral = true := by
    intro hLiteral
    cases hKind : token.kind <;>
      simp_all [Kind.isLiteral, Kind.level?]
  have hOpening : ¬ token.kind = .leftParen := by
    intro hOpening
    simp [hOpening, Kind.level?] at hLevel
  rw [readOperand_eq, if_neg hUnary, if_neg hLiteral,
    if_neg hOpening, hLevel]

/- Nothing that an operand could begin with. -/
theorem readOperand_of_none
    (ending : Ending)
    {token : Token}
    (hUnary : ¬ token.kind.isUnary = true)
    (hLiteral : ¬ token.kind.isLiteral = true)
    (hOpening : ¬ token.kind = .leftParen)
    (hLevel : token.kind.level? = none)
    (more : List Token) :
    readOperand ending token more =
      .failed
        (ending.errorAt .expectedExpression (token :: more))
        (token :: more) := by
  rw [readOperand_eq, if_neg hUnary, if_neg hLiteral,
    if_neg hOpening, hLevel]

end LoxExpr
