import LoxExpr.Proofs.Grammar.Climb

/-
  This file follows a reading that notes operators without
  left operand, together with a reading of the same tokens
  with an operand put before each of them.

  The first reading takes such an operator, and the operand
  behind it, in the place of an operand, however deep that
  is.  The second one takes the operand that was put there,
  and leaves the operator to the level that waits for it.
  So the two agree only behind the phrase, and only if all
  levels that wait are taken together: this is what
  `Phrase.climb` does.

  Key definitions include:
    * `Passed`
    * `noted`
    * `mended`
    * `Mends`

  The main statement is `mends_readPhrase`.
-/

namespace LoxExpr

------------------------------------------------------------
-- Passed Tokens
------------------------------------------------------------

/-
  A token that has been passed, and whether it was noted to
  lack its left operand.
-/
structure Passed where
  token : Token
  lacks : Bool

/- The error is that of an operator without left operand. -/
def SyntaxError.isMissing (e : SyntaxError) : Bool :=
  e.fault = .missingLeftOperand

/- What has been noted of passed tokens before others. -/
def noted (ending : Ending) :
    List Passed → List Token → List SyntaxError
| [], _ => []
| p :: passed, rest =>
    let e := ending.errorAt .missingLeftOperand
      (p.token :: (passed.map Passed.token ++ rest))
    if p.lacks then e :: noted ending passed rest
    else noted ending passed rest

/- Passed tokens with the operands that they lack. -/
def mended
    (filler : Token → Token)
    (passed : List Passed) : List Token :=
  passed.flatMap fun p =>
    if p.lacks then [filler p.token, p.token]
    else [p.token]

/- The first of the passed tokens lacks nothing. -/
def HeadKept (passed : List Passed) : Prop :=
  ∀ p, passed.head? = some p → p.lacks = false

theorem noted_append
    (ending : Ending)
    (passed passed' : List Passed)
    (rest : List Token) :
    noted ending (passed ++ passed') rest =
      noted ending passed
          (passed'.map Passed.token ++ rest) ++
        noted ending passed' rest := by
  induction passed with
  | nil => rfl
  | cons p passed ih =>
      cases hLacks : p.lacks <;>
        simp [noted, hLacks, ih]

theorem mended_append
    (filler : Token → Token)
    (passed passed' : List Passed) :
    mended filler (passed ++ passed') =
      mended filler passed ++ mended filler passed' :=
  List.flatMap_append

/- Mending does not change a head that lacks nothing. -/
theorem head?_mended_append
    (filler : Token → Token)
    {passed : List Passed}
    (hKept : HeadKept passed)
    {rest rest' : List Token}
    (hHead : rest'.head? = rest.head?) :
    (mended filler passed ++ rest').head? =
      (passed.map Passed.token ++ rest).head? := by
  cases passed with
  | nil => exact hHead
  | cons p passed =>
      have hLacks := hKept p rfl
      simp [mended, hLacks]

------------------------------------------------------------
-- Two Readings
------------------------------------------------------------

section Mends

variable (ending : Ending)
variable (filler : Token → Token)

/-
  A reading has passed tokens and notes what they lack.  The
  other reading, of the whole of the mended tokens and what
  is behind them, comes to what is read behind them alone,
  where the next token is the same.  A failure is the same
  failure at the same place, and none that can be mended.
-/
structure Mends
    (passed : List Passed)
    (tokens : List Token)
    (o : Outcome)
    (whole behind : List Token → Outcome) : Prop where
  split : tokens = passed.map Passed.token ++ o.rest
  missing : o.missing = noted ending passed o.rest
  read :
    ∀ tree, o.result = .ok tree →
      ∀ rest, rest.head? = o.rest.head? →
        (whole (mended filler passed ++ rest)).shape =
          (behind rest).shape
  failed :
    ∀ e, o.result = .error e →
      (whole (mended filler passed ++ o.rest)).shape =
        (Outcome.failed e o.rest).shape
  genuine :
    ∀ e, o.result = .error e → e.isMissing = false

variable {ending filler}

/- Nothing has been passed. -/
theorem mends_done
    (tree : Option Expr)
    {tokens : List Token}
    {whole behind : List Token → Outcome}
    (hSame :
      ∀ rest, rest.head? = tokens.head? →
        (whole rest).shape = (behind rest).shape) :
    Mends ending filler [] tokens (.done tree tokens)
      whole behind where
  split := rfl
  missing := rfl
  read := by
    intro _ _ rest hHead
    exact hSame rest hHead
  failed := by
    intro e hError
    simp at hError
  genuine := by
    intro e hError
    simp at hError

/- Both readings fail at once. -/
theorem mends_failed
    {e : SyntaxError}
    {tokens : List Token}
    {whole : List Token → Outcome}
    (behind : List Token → Outcome)
    (hGenuine : e.isMissing = false)
    (hSame :
      (whole tokens).shape =
        (Outcome.failed e tokens).shape) :
    Mends ending filler [] tokens (.failed e tokens)
      whole behind where
  split := rfl
  missing := rfl
  read := by
    intro tree hOk
    simp at hOk
  failed := by
    intro e' hError
    rw [← Except.error.inj hError]
    exact hSame
  genuine := by
    intro e' hError
    rw [← Except.error.inj hError]
    exact hGenuine

namespace Mends

variable {passed : List Passed}
variable {tokens : List Token}
variable {o : Outcome}
variable {whole behind : List Token → Outcome}

/- What is behind may be read in another way. -/
theorem behind_congr
    (h : Mends ending filler passed tokens o whole behind)
    {behind' : List Token → Outcome}
    (hSame :
      ∀ tree, o.result = .ok tree →
        ∀ rest, rest.head? = o.rest.head? →
          (behind rest).shape = (behind' rest).shape) :
    Mends ending filler passed tokens o whole behind' where
  split := h.split
  missing := h.missing
  read := by
    intro tree hOk rest hHead
    exact (h.read tree hOk rest hHead).trans
      (hSame tree hOk rest hHead)
  failed := h.failed
  genuine := h.genuine

/- A token that lacks nothing is passed by both. -/
theorem cons
    (h : Mends ending filler passed tokens o whole behind)
    {token : Token}
    {whole' : List Token → Outcome}
    (hSame :
      ∀ rest, (whole' (token :: rest)).shape =
        (whole rest).shape) :
    Mends ending filler (⟨token, false⟩ :: passed)
      (token :: tokens) o whole' behind where
  split := by
    rw [h.split]
    rfl
  missing := h.missing
  read := by
    intro tree hOk rest hHead
    exact (hSame _).trans (h.read tree hOk rest hHead)
  failed := by
    intro e hError
    exact (hSame _).trans (h.failed e hError)
  genuine := h.genuine

/- A token that lacks an operand is noted, and mended. -/
theorem cons_lacking
    (h : Mends ending filler passed tokens o whole behind)
    {token : Token}
    {whole' : List Token → Outcome}
    (hSame :
      ∀ rest,
        (whole' (filler token :: token :: rest)).shape =
          (whole rest).shape) :
    Mends ending filler (⟨token, true⟩ :: passed)
      (token :: tokens)
      ⟨o.result,
        ending.errorAt .missingLeftOperand
            (token :: tokens) :: o.missing,
        o.rest⟩
      whole' behind where
  split := by
    rw [h.split]
    rfl
  missing := by
    rw [h.missing, h.split]
    rfl
  read := by
    intro tree hOk rest hHead
    exact (hSame _).trans (h.read tree hOk rest hHead)
  failed := by
    intro e hError
    exact (hSame _).trans (h.failed e hError)
  genuine := h.genuine

/- One reading after another. -/
theorem andThen
    (h : Mends ending filler passed tokens o whole behind)
    (next : Option Expr → List Token → Outcome)
    {behind' : List Token → Outcome}
    (hNext :
      ∀ tree, o.result = .ok tree →
        ∃ passed', HeadKept passed' ∧
          Mends ending filler passed' o.rest
            (next tree o.rest) behind behind') :
    ∃ passed', Mends ending filler passed' tokens
      (o.andThen next) whole behind' := by
  cases hResult : o.result with
  | error e =>
      rw [Outcome.andThen_of_error hResult]
      refine ⟨passed, h.behind_congr ?_⟩
      intro tree hOk
      rw [hResult] at hOk
      exact absurd hOk (by simp)
  | ok tree =>
      rcases hNext tree hResult with ⟨passed', hKept, h'⟩
      have hHead : ∀ rest,
          rest.head? = (next tree o.rest).rest.head? →
          (mended filler passed' ++ rest).head? =
            o.rest.head? := by
        intro rest hRest
        rw [h'.split]
        exact head?_mended_append filler hKept hRest
      rw [Outcome.andThen_of_ok hResult]
      refine ⟨passed ++ passed', ?_, ?_, ?_, ?_,
        h'.genuine⟩
      · rw [List.map_append, List.append_assoc, ← h'.split]
        exact h.split
      · rw [noted_append, ← h'.split, ← h.missing,
          ← h'.missing]
      · intro tree' hOk rest hRest
        rw [mended_append, List.append_assoc]
        exact (h.read tree hResult _ (hHead _ hRest)).trans
          (h'.read tree' hOk rest hRest)
      · intro e hError
        rw [mended_append, List.append_assoc]
        exact (h.read tree hResult _ (hHead _ rfl)).trans
          (h'.failed e hError)

/- The tree of the first reading does not matter. -/
theorem andThen_done
    (h : Mends ending filler passed tokens o whole behind)
    (f : Option Expr → Option Expr) :
    ∃ passed', Mends ending filler passed' tokens
      (o.andThen fun tree => .done (f tree))
      whole behind := by
  apply h.andThen fun tree => .done (f tree)
  intro tree _
  refine ⟨[], by simp [HeadKept], ?_⟩
  exact mends_done _ fun rest _ => rfl

/- The second reading goes on behind the mended tokens. -/
theorem whole_andThen
    {tree : Option Expr}
    (h :
      Mends ending filler passed tokens o whole
        (.done tree))
    {next : Option Expr → List Token → Outcome}
    (hBlind : Outcome.Blind next) :
    Mends ending filler passed tokens o
      (fun tokens => (whole tokens).andThen next)
      (next tree) where
  split := h.split
  missing := h.missing
  read := by
    intro tree' hOk rest hHead
    rw [Outcome.shape_andThen (h.read tree' hOk rest hHead)
      hBlind, Outcome.andThen_done]
  failed := by
    intro e hError
    rw [Outcome.shape_andThen (h.failed e hError) hBlind,
      Outcome.andThen_failed]
  genuine := h.genuine

end Mends

end Mends

end LoxExpr
