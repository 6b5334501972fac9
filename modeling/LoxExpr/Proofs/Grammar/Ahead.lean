import LoxExpr.Grammar.Cursor

/-
  This file says when two places of reading look the same:
  the next token is the same, or there is none and the ends
  are the same token.  Two cursors whose lists agree on some
  tokens see the same ones, and look the same behind them.

  Key definitions include:
    * `SameNext`
    * `Cursor.AgreesFor`

  The main statement is `Cursor.AgreesFor.exists_live`.
-/

namespace LoxExpr

------------------------------------------------------------
-- Places That Look the Same
------------------------------------------------------------

/- What is next is the same, be it a token or the end. -/
structure SameNext
    (ending : Ending)
    (rest : List Token)
    (ending' : Ending)
    (rest' : List Token) : Prop where
  head : rest'.head? = rest.head?
  closing : rest = [] → ending'.token = ending.token

namespace SameNext

variable {ending ending' : Ending}
variable {rest rest' : List Token}

theorem refl
    (ending : Ending)
    (rest : List Token) :
    SameNext ending rest ending rest where
  head := rfl
  closing := fun _ => rfl

/- The same tokens may stand before both places. -/
theorem append
    (h : SameNext ending rest ending' rest')
    (passed : List Token) :
    SameNext ending (passed ++ rest)
      ending' (passed ++ rest') where
  head := by
    rw [List.head?_append, List.head?_append, h.head]
  closing := by
    intro hNone
    exact h.closing (List.append_eq_nil_iff.mp hNone).2

/- Behind a token, another list goes on with it as well. -/
theorem exists_cons
    {token : Token}
    {more : List Token}
    (h : SameNext ending (token :: more) ending' rest') :
    ∃ more', rest' = token :: more' :=
  List.head?_eq_some_iff.mp h.head

/- At the end, the other place is at its end. -/
theorem eq_nil
    (h : SameNext ending [] ending' rest') :
    rest' = [] :=
  List.head?_eq_none_iff.mp h.head

/- An error at both places is at the same token. -/
theorem token_errorAt
    (h : SameNext ending rest ending' rest')
    (fault : SyntaxFault) :
    (ending'.errorAt fault rest').token =
      (ending.errorAt fault rest).token := by
  cases rest with
  | nil =>
      rw [h.eq_nil]
      exact h.closing rfl
  | cons token more =>
      rcases h.exists_cons with ⟨more', rfl⟩
      rfl

/- If the place is the same as well, so is the error. -/
theorem errorAt_eq
    (h : SameNext ending rest ending' rest')
    (fault : SyntaxFault)
    (hPlace :
      (ending'.errorAt fault rest').position =
        (ending.errorAt fault rest).position) :
    ending'.errorAt fault rest' =
      ending.errorAt fault rest := by
  have hToken := h.token_errorAt fault
  simp only [Ending.errorAt] at hToken hPlace ⊢
  rw [hToken, hPlace]

end SameNext

------------------------------------------------------------
-- Lists That Agree
------------------------------------------------------------

/-
  If two lists agree up to the token behind some first ones
  that satisfy a test, the others that do go on alike.
-/
theorem exists_takeWhile_of_agree
    {test : Token → Bool}
    {tokens tokens' w rest : List Token}
    (hAgree : ∀ i ≤ w.length, tokens'[i]? = tokens[i]?)
    (hSplit : tokens.takeWhile test = w ++ rest) :
    ∃ rest', tokens'.takeWhile test = w ++ rest' ∧
      rest'.head? = rest.head? := by
  induction w generalizing tokens tokens' with
  | nil =>
      have hHead := hAgree 0 (Nat.le_refl _)
      rw [← List.head?_eq_getElem?,
        ← List.head?_eq_getElem?] at hHead
      refine ⟨_, rfl, ?_⟩
      rw [List.nil_append] at hSplit
      rw [← hSplit, List.head?_takeWhile,
        List.head?_takeWhile, hHead]
  | cons token w ih =>
      cases tokens with
      | nil => exact nomatch hSplit
      | cons first more =>
          cases hTest : test first with
          | false => simp [hTest] at hSplit
          | true =>
              simp only [List.takeWhile_cons, hTest,
                ↓reduceIte, List.cons_append,
                List.cons.injEq] at hSplit
              rcases hSplit with ⟨rfl, hSplit⟩
              have hFirst := hAgree 0 (Nat.zero_le _)
              rw [← List.head?_eq_getElem?,
                List.getElem?_cons_zero,
                List.head?_eq_some_iff] at hFirst
              rcases hFirst with ⟨more', rfl⟩
              have hMore : ∀ i ≤ w.length,
                  more'[i]? = more[i]? := by
                intro i hBound
                exact hAgree (i + 1)
                  (Nat.succ_le_succ hBound)
              rcases ih hMore hSplit with
                ⟨rest', hSplit', hHead⟩
              refine ⟨rest', ?_, hHead⟩
              simp [hTest, hSplit']

------------------------------------------------------------
-- Cursors That Agree
------------------------------------------------------------

namespace Cursor

/-
  Each from its own position on, two cursors are before the
  same tokens, for a number of them and the one behind.
-/
def AgreesFor
    (n : Nat)
    (c c' : Cursor) : Prop :=
  ∀ i ≤ n,
    c'.tokens[c'.position + i]? = c.tokens[c.position + i]?

/- The live tokens are those from the position on. -/
theorem getElem?_of_lt_live
    {c : Cursor}
    {i : Nat}
    (hLess : i < c.live.length) :
    c.tokens[c.position + i]? = c.live[i]? := by
  have hPrefix : c.live <+: c.tokens.drop c.position :=
    List.takeWhile_prefix _
  rcases hPrefix with ⟨behind, hSplit⟩
  rw [← List.getElem?_drop, ← hSplit,
    List.getElem?_append_left hLess]

/- The end is what stands behind the live tokens. -/
theorem token_ending (c : Cursor) :
    c.ending.token =
      (c.tokens[c.position + c.live.length]?).getD
        (Token.endOfInput 1) := by
  rw [ending, List.getD_eq_getElem?_getD]

/- An error behind the first live tokens is right there. -/
theorem position_errorAt
    {c : Cursor}
    {front behind : List Token}
    (hLive : c.live = front ++ behind)
    (fault : SyntaxFault) :
    (c.ending.errorAt fault behind).position =
      c.position + front.length := by
  have hSelf :
      (c.ending.errorAt fault behind).position =
        c.position + c.live.length - behind.length := rfl
  rw [hSelf, hLive, List.length_append]
  omega

/-
  Cursors that agree for the first of their live tokens look
  the same behind them.
-/
theorem AgreesFor.exists_live
    {c c' : Cursor}
    {w rest : List Token}
    (hAgree : AgreesFor w.length c c')
    (hLive : c.live = w ++ rest) :
    ∃ rest', c'.live = w ++ rest' ∧
      SameNext c.ending rest c'.ending rest' := by
  have hDrop : ∀ i ≤ w.length,
      (c'.tokens.drop c'.position)[i]? =
        (c.tokens.drop c.position)[i]? := by
    intro i hBound
    rw [List.getElem?_drop, List.getElem?_drop]
    exact hAgree i hBound
  rcases exists_takeWhile_of_agree hDrop hLive with
    ⟨rest', hLive', hHead⟩
  refine ⟨rest', hLive', hHead, ?_⟩
  rintro rfl
  have hNone : rest' = [] := List.head?_eq_none_iff.mp hHead
  have hLength : c.live.length = w.length := by
    rw [hLive, List.append_nil]
  have hLength' : c'.live.length = w.length := by
    rw [live, hLive', hNone, List.append_nil]
  rw [token_ending, token_ending, hLength, hLength',
    hAgree _ (Nat.le_refl _)]

end Cursor

end LoxExpr
