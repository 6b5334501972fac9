import LoxExpr.Proofs.Grammar.Ahead
import LoxExpr.Proofs.Grammar.Derivation
import LoxExpr.Proofs.Grammar.Mending

/-
  This file describes a reading apart from the place where it
  is done: the tokens that it passes, which of them it notes,
  and the tree or the failure to which it comes.  A reading
  with a trace comes to the same from every place that looks
  the same up to the token behind the passed ones.

  Key definitions include:
    * `Trace`
    * `Trace.outcome`
    * `FailsBefore`
    * `Trace.IsFair`
    * `IsTraced`

  Main statements:
    * `IsTraced.andThen`
    * `IsTraced.cons`
-/

namespace LoxExpr

------------------------------------------------------------
-- Traces
------------------------------------------------------------

/-
  What a reading does.  A failure may have passed the token
  that it refuses; this token is kept apart.
-/
inductive Trace where
| read (passed : List Passed) (tree : Option Expr)
| failed (passed : List Passed)
    (fault : SyntaxFault) (refused : List Token)

namespace Trace

/- The tokens that are passed before a failure. -/
def passed : Trace → List Passed
| read passed _ => passed
| failed passed _ _ => passed

/- The tokens that a failure passes. -/
def refused : Trace → List Token
| read _ _ => []
| failed _ _ refused => refused

/- All tokens that are passed. -/
def tokens (t : Trace) : List Token :=
  t.passed.map Passed.token ++ t.refused

/- What comes of a trace before some rest. -/
def outcome
    (ending : Ending)
    (t : Trace)
    (rest : List Token) : Outcome where
  result :=
    match t with
    | read _ tree => .ok tree
    | failed _ fault refused =>
        .error (ending.errorAt fault (refused ++ rest))
  missing := noted ending t.passed (t.refused ++ rest)
  rest := rest

/- A trace behind tokens that have been passed. -/
def behind
    (before : List Passed) : Trace → Trace
| read passed tree => read (before ++ passed) tree
| failed passed fault refused =>
    failed (before ++ passed) fault refused

@[simp] theorem passed_behind
    (before : List Passed)
    (t : Trace) :
    (t.behind before).passed = before ++ t.passed := by
  cases t <;> rfl

@[simp] theorem refused_behind
    (before : List Passed)
    (t : Trace) :
    (t.behind before).refused = t.refused := by
  cases t <;> rfl

theorem tokens_behind
    (before : List Passed)
    (t : Trace) :
    (t.behind before).tokens =
      before.map Passed.token ++ t.tokens := by
  simp [tokens]

/- What is passed before a trace is noted before it. -/
theorem outcome_behind
    (ending : Ending)
    (before : List Passed)
    (t : Trace)
    (rest : List Token) :
    (t.behind before).outcome ending rest =
      ⟨(t.outcome ending rest).result,
        noted ending before (t.tokens ++ rest) ++
          (t.outcome ending rest).missing,
        rest⟩ := by
  cases t <;>
    simp [behind, outcome, tokens, passed, refused,
      noted_append]

/- Going on behind what has been read. -/
theorem outcome_andThen
    (ending : Ending)
    (before : List Passed)
    (tree : Option Expr)
    (t : Trace)
    {rest : List Token}
    {next : Option Expr → List Token → Outcome}
    (hNext :
      next tree (t.tokens ++ rest) =
        t.outcome ending rest) :
    ((read before tree).outcome ending
        (t.tokens ++ rest)).andThen next =
      (t.behind before).outcome ending rest := by
  have hOk :
      ((read before tree).outcome ending
        (t.tokens ++ rest)).result = .ok tree := rfl
  rw [Outcome.andThen_of_ok hOk, outcome_behind]
  change Outcome.mk
    (next tree (t.tokens ++ rest)).result
    (noted ending before (t.tokens ++ rest) ++
      (next tree (t.tokens ++ rest)).missing)
    (next tree (t.tokens ++ rest)).rest = _
  rw [hNext]
  rfl

end Trace

------------------------------------------------------------
-- Fair Traces
------------------------------------------------------------

/- The tokens that are required, and the words for them. -/
def requirements : List (Kind × String) :=
  [(.colon,
    "Expect ':' after then branch of conditional expression."),
   (.rightParen, "Expect ')' after expression.")]

/- The kinds with which an operand can begin. -/
def operandKinds : List Kind :=
  [.number, .string, .kwTrue, .kwFalse, .kwNil,
   .leftParen, .bang, .minus]

/-
  The binary operators that begin no operand, so that they
  are noted where one should begin.
-/
def lackingKinds : List Kind :=
  [.bangEqual, .equalEqual,
   .greater, .greaterEqual, .less, .lessEqual,
   .plus, .slash, .star]

/-
  A failure is due to the token before which it happens: it
  is not the required one, and does not go on with what has
  been read; or it begins no operand.  Otherwise it is due to
  a refused token, that has no value.
-/
inductive FailsBefore :
    SyntaxFault → List Token → List Token → Prop
| required {kind message rest} :
    (kind, message) ∈ requirements →
    (∀ token : Token, rest.head? = some token →
      token.kind ≠ kind ∧ ¬token.kind.GoesOn) →
    FailsBefore (.expected message) [] rest
| noOperand {rest} :
    (∀ token : Token, rest.head? = some token →
      token.kind ∉ operandKinds ∧
        ∀ level : Level, token.kind ∉ level.operators) →
    FailsBefore .expectedExpression [] rest
| noValue {token : Token} {rest} :
    token.kind ∈ [Kind.number, .string] →
    Value.ofToken? token = none →
    FailsBefore .expectedExpression [token] rest

/- Only operators that begin no operand are noted. -/
def NotesOperators (passed : List Passed) : Prop :=
  ∀ p ∈ passed, p.lacks = true →
    p.token.kind ∈ lackingKinds

namespace Trace

/- A trace that notes and fails for a reason. -/
def IsFair
    (t : Trace)
    (rest : List Token) : Prop :=
  NotesOperators t.passed ∧
    match t with
    | read _ _ => True
    | failed _ fault refused =>
        FailsBefore fault refused rest

/- A fair trace may be behind tokens that are fairly noted. -/
theorem IsFair.behind
    {before : List Passed}
    {t : Trace}
    {rest : List Token}
    (h : t.IsFair rest)
    (hBefore : NotesOperators before) :
    (t.behind before).IsFair rest := by
  have hPassed :
      NotesOperators (t.behind before).passed := by
    intro p hMem
    rw [passed_behind] at hMem
    rcases List.mem_append.mp hMem with hMem | hMem
    · exact hBefore p hMem
    · exact h.1 p hMem
  cases t with
  | read passed tree => exact ⟨hPassed, trivial⟩
  | failed passed fault refused => exact ⟨hPassed, h.2⟩

end Trace

/- Nothing has been noted of no tokens. -/
theorem notesOperators_nil : NotesOperators [] := by
  simp [NotesOperators]

/- A single token is noted only if it begins no operand. -/
theorem notesOperators_singleton
    {p : Passed}
    (hNoted :
      p.lacks = true → p.token.kind ∈ lackingKinds) :
    NotesOperators [p] := by
  intro p' hMem
  rw [List.mem_singleton.mp hMem]
  exact hNoted

------------------------------------------------------------
-- Readers with a Trace
------------------------------------------------------------

/-
  From its tokens on, a reader does what a fair trace says,
  and the same from every place that looks the same up to the
  token behind the trace.
-/
def IsTraced
    (ending : Ending)
    (tokens : List Token)
    (read : Ending → List Token → Outcome) : Prop :=
  ∃ t rest, tokens = Trace.tokens t ++ rest ∧
    t.IsFair rest ∧
    ∀ ending' rest', SameNext ending rest ending' rest' →
      read ending' (t.tokens ++ rest') =
        t.outcome ending' rest'

namespace IsTraced

variable {ending : Ending}
variable {tokens more : List Token}
variable {token : Token}
variable {read read' : Ending → List Token → Outcome}

/- Readers that do the same have the same trace. -/
theorem congr
    (h : IsTraced ending tokens read)
    (hRead :
      ∀ ending' tokens',
        read' ending' tokens' = read ending' tokens') :
    IsTraced ending tokens read' := by
  rcases h with ⟨t, rest, hSplit, hFair, hAgain⟩
  refine ⟨t, rest, hSplit, hFair, ?_⟩
  intro ending' rest' hSame
  exact (hRead _ _).trans (hAgain ending' rest' hSame)

/- Nothing is passed. -/
theorem done
    (tree : Option Expr)
    (hRead :
      ∀ ending' rest', rest'.head? = tokens.head? →
        read ending' rest' = .done tree rest') :
    IsTraced ending tokens read := by
  refine ⟨.read [] tree, tokens, rfl,
    ⟨notesOperators_nil, trivial⟩, ?_⟩
  intro ending' rest' hNext
  exact hRead ending' rest' hNext.head

/- Nothing is passed, and reading fails. -/
theorem failed
    {fault : SyntaxFault}
    (hFails : FailsBefore fault [] tokens)
    (hRead :
      ∀ ending' rest', rest'.head? = tokens.head? →
        read ending' rest' =
          .failed (ending'.errorAt fault rest') rest') :
    IsTraced ending tokens read := by
  refine ⟨.failed [] fault [], tokens, rfl,
    ⟨notesOperators_nil, hFails⟩, ?_⟩
  intro ending' rest' hNext
  exact hRead ending' rest' hNext.head

/- A token without its value is refused, and passed. -/
theorem refused
    (hFails : FailsBefore .expectedExpression [token] more)
    (hRead :
      ∀ ending' rest',
        read ending' (token :: rest') =
          .failed
            (ending'.errorAt .expectedExpression
              (token :: rest'))
            rest') :
    IsTraced ending (token :: more) read := by
  refine ⟨.failed [] .expectedExpression [token], more, rfl,
    ⟨notesOperators_nil, hFails⟩, ?_⟩
  intro ending' rest' _
  exact hRead ending' rest'

/- A token is passed without a note. -/
theorem cons
    (h : IsTraced ending more read)
    (hRead :
      ∀ ending' rest',
        read' ending' (token :: rest') =
          read ending' rest') :
    IsTraced ending (token :: more) read' := by
  rcases h with ⟨t, rest, hSplit, hFair, hAgain⟩
  have hKept : NotesOperators [⟨token, false⟩] :=
    notesOperators_singleton nofun
  refine ⟨t.behind [⟨token, false⟩], rest, ?_,
    hFair.behind hKept, ?_⟩
  · rw [Trace.tokens_behind, hSplit]
    rfl
  · intro ending' rest' hNext
    rw [Trace.tokens_behind, Trace.outcome_behind]
    exact (hRead ending' _).trans
      (hAgain ending' rest' hNext)

/- An operator is noted and passed. -/
theorem cons_lacking
    (h : IsTraced ending more read)
    (hLacking : token.kind ∈ lackingKinds)
    (hRead :
      ∀ ending' rest',
        read' ending' (token :: rest') =
          ⟨(read ending' rest').result,
            ending'.errorAt .missingLeftOperand
                (token :: rest') ::
              (read ending' rest').missing,
            (read ending' rest').rest⟩) :
    IsTraced ending (token :: more) read' := by
  rcases h with ⟨t, rest, hSplit, hFair, hAgain⟩
  have hNoted : NotesOperators [⟨token, true⟩] :=
    notesOperators_singleton fun _ => hLacking
  refine ⟨t.behind [⟨token, true⟩], rest, ?_,
    hFair.behind hNoted, ?_⟩
  · rw [Trace.tokens_behind, hSplit]
    rfl
  · intro ending' rest' hNext
    have hSelf := hRead ending' (t.tokens ++ rest')
    rw [hAgain ending' rest' hNext] at hSelf
    rw [Trace.tokens_behind, Trace.outcome_behind]
    exact hSelf

/- One reader goes on behind another. -/
theorem andThen
    (h : IsTraced ending tokens read)
    (next : Ending → Option Expr → List Token → Outcome)
    (hNext :
      ∀ tree, (read ending tokens).result = .ok tree →
        IsTraced ending (read ending tokens).rest
          fun ending' => next ending' tree) :
    IsTraced ending tokens fun ending' tokens' =>
      (read ending' tokens').andThen (next ending') := by
  rcases h with ⟨t, rest, hSplit, hFair, hAgain⟩
  have hSelf : read ending tokens = t.outcome ending rest := by
    rw [hSplit]
    exact hAgain _ _ (.refl _ _)
  cases t with
  | failed passed fault refused =>
      refine ⟨.failed passed fault refused, rest, hSplit,
        hFair, ?_⟩
      intro ending' rest' hSame
      simp only [hAgain ending' rest' hSame]
      rfl
  | read passed tree =>
      rw [hSelf] at hNext
      rcases hNext tree rfl with
        ⟨t', rest', hRest, hFair', hAgain'⟩
      have hBehind : rest = t'.tokens ++ rest' := hRest
      refine ⟨t'.behind passed, rest', ?_,
        hFair'.behind hFair.1, ?_⟩
      · rw [Trace.tokens_behind, List.append_assoc,
          ← hBehind, hSplit, Trace.tokens]
        simp [Trace.passed, Trace.refused]
      · intro ending' rest'' hSame
        have hBoth :=
          hAgain ending' (t'.tokens ++ rest'')
            (hBehind ▸ hSame.append t'.tokens)
        have hLast := hAgain' ending' rest'' hSame
        rw [← Trace.outcome_andThen ending' passed tree t'
          hLast, ← hBoth, Trace.tokens_behind, Trace.tokens,
          List.append_assoc]
        simp [Trace.passed, Trace.refused, Trace.tokens]

/- The tree of what has been read may be another one. -/
theorem andThen_done
    (h : IsTraced ending tokens read)
    (f : Option Expr → Option Expr) :
    IsTraced ending tokens fun ending' tokens' =>
      (read ending' tokens').andThen
        fun tree => .done (f tree) := by
  refine h.andThen (fun _ tree => .done (f tree)) ?_
  intro tree _
  exact .done (f tree) fun _ _ _ => rfl

end IsTraced

end LoxExpr
