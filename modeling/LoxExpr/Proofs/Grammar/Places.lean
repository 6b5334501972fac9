import LoxExpr.Proofs.Grammar.Mending
import LoxExpr.Proofs.Grammar.Start

/-
  This file puts tokens before those that stand at given
  places, and says which places are those of the operators
  that a reading noted.

  Main statements:
    * `closeTokens_insertBefore`
    * `insertBefore_noted`
-/

namespace LoxExpr

------------------------------------------------------------
-- Tokens Put before Others
------------------------------------------------------------

/-
  Tokens with another one put before each that stands at one
  of the places.  The first token stands at a given place.
-/
def insertBefore
    (filler : Token → Token)
    (places : List Nat) : Nat → List Token → List Token
| _, [] => []
| place, token :: more =>
    let behind := insertBefore filler places (place + 1) more
    if place ∈ places then filler token :: token :: behind
    else token :: behind

section Insert

variable (filler : Token → Token)
variable (places : List Nat)

theorem insertBefore_append
    (place : Nat)
    (tokens tokens' : List Token) :
    insertBefore filler places place (tokens ++ tokens') =
      insertBefore filler places place tokens ++
        insertBefore filler places (place + tokens.length)
          tokens' := by
  induction tokens generalizing place with
  | nil => rfl
  | cons token more ih =>
      have hPlace :
          place + (token :: more).length =
            place + 1 + more.length := by
        rw [List.length_cons]
        omega
      rw [List.cons_append, hPlace]
      simp only [insertBefore, ih]
      split <;> rfl

/- Nothing is put behind the last of the places. -/
theorem insertBefore_of_lt
    {filler : Token → Token}
    {places : List Nat}
    {place : Nat}
    (hPlaces : ∀ i ∈ places, i < place)
    (tokens : List Token) :
    insertBefore filler places place tokens = tokens := by
  induction tokens generalizing place with
  | nil => rfl
  | cons token more ih =>
      have hNot : place ∉ places :=
        fun hMem => Nat.lt_irrefl _ (hPlaces _ hMem)
      have hMore : ∀ i ∈ places, i < place + 1 :=
        fun i hMem => Nat.lt_succ_of_lt (hPlaces i hMem)
      simp only [insertBefore, if_neg hNot, ih hMore]

/- The last token stays the last one. -/
theorem getLast?_insertBefore
    (place : Nat)
    (tokens : List Token) :
    (insertBefore filler places place tokens).getLast? =
      tokens.getLast? := by
  induction tokens generalizing place with
  | nil => rfl
  | cons token more ih =>
      have hMore := ih (place + 1)
      simp only [insertBefore]
      split <;> simp [List.getLast?_cons, hMore]

/- Closing the tokens and putting others between commute. -/
theorem closeTokens_insertBefore
    {tokens : List Token}
    (hPlaces : ∀ i ∈ places, i < tokens.length) :
    closeTokens (insertBefore filler places 0 tokens) =
      insertBefore filler places 0 (closeTokens tokens) := by
  unfold closeTokens
  rw [getLast?_insertBefore]
  cases hLast : tokens.getLast? with
  | none =>
      rw [List.getLast?_eq_none_iff.mp hLast] at hPlaces
      have hNone : ∀ i ∈ places, i < 0 := hPlaces
      exact (insertBefore_of_lt hNone _).symm
  | some last =>
      cases hEnd : last.isEnd with
      | true => simp only [if_pos hEnd]
      | false =>
          simp only [hEnd, Bool.false_eq_true, ↓reduceIte]
          rw [insertBefore_append, Nat.zero_add,
            insertBefore_of_lt hPlaces]

end Insert

------------------------------------------------------------
-- Places of What Was Noted
------------------------------------------------------------

/- The first of the passed tokens stands at its place. -/
theorem position_errorAt_cons
    {ending : Ending}
    {fault : SyntaxFault}
    {token : Token}
    {passed : List Passed}
    {rest : List Token}
    {place : Nat}
    (hEnding :
      ending.position =
        place + 1 + passed.length + rest.length) :
    (ending.errorAt fault
        (token ::
          (passed.map Passed.token ++ rest))).position =
      place := by
  simp only [Ending.errorAt, List.length_cons,
    List.length_append, List.length_map]
  omega

/-
  What has been noted are operators among the passed tokens,
  at their own places.
-/
theorem of_mem_noted
    {ending : Ending}
    {passed : List Passed}
    {rest : List Token}
    {place : Nat}
    (hEnding :
      ending.position =
        place + passed.length + rest.length)
    {e : SyntaxError}
    (hMem : e ∈ noted ending passed rest) :
    e.isMissing = true ∧ place ≤ e.position ∧
      (passed.map Passed.token)[e.position - place]? =
        some e.token := by
  induction passed generalizing place with
  | nil => simp [noted] at hMem
  | cons p passed ih =>
      rw [List.length_cons] at hEnding
      have hMore :
          ending.position =
            place + 1 + passed.length + rest.length := by
        omega
      have hBehind : e ∈ noted ending passed rest →
          e.isMissing = true ∧ place ≤ e.position ∧
            ((p :: passed).map
                Passed.token)[e.position - place]? =
              some e.token := by
        intro hMem
        rcases ih hMore hMem with
          ⟨hMissing, hPlace, hToken⟩
        refine ⟨hMissing, by omega, ?_⟩
        have hIndex :
            e.position - place =
              e.position - (place + 1) + 1 := by
          omega
        rw [hIndex, List.map_cons, List.getElem?_cons_succ]
        exact hToken
      cases hLacks : p.lacks with
      | false =>
          simp only [noted, hLacks, Bool.false_eq_true,
            ↓reduceIte] at hMem
          exact hBehind hMem
      | true =>
          simp only [noted, hLacks, ↓reduceIte] at hMem
          rcases List.mem_cons.mp hMem with rfl | hMem
          · have hPosition :=
              @position_errorAt_cons ending
                .missingLeftOperand p.token passed rest place
                hMore
            rw [hPosition, Nat.sub_self]
            exact ⟨rfl, Nat.le_refl _, rfl⟩
          · exact hBehind hMem

/- Tokens are mended at the places that have been noted. -/
theorem insertBefore_noted
    (filler : Token → Token)
    {ending : Ending}
    {passed : List Passed}
    {rest : List Token}
    {place : Nat}
    (hEnding :
      ending.position =
        place + passed.length + rest.length)
    {places : List Nat}
    (hPlaces :
      ∀ i, place ≤ i →
        (i ∈ places ↔
          i ∈ (noted ending passed rest).map
            SyntaxError.position))
    (more : List Token) :
    insertBefore filler places place
        (passed.map Passed.token ++ more) =
      mended filler passed ++ more := by
  induction passed generalizing place with
  | nil =>
      apply insertBefore_of_lt
      intro i hMem
      apply Nat.lt_of_not_le
      intro hPlace
      have hNone := (hPlaces i hPlace).mp hMem
      simp [noted] at hNone
  | cons p passed ih =>
      have hMore :
          ending.position =
            place + 1 + passed.length + rest.length := by
        rw [List.length_cons] at hEnding
        omega
      have hPosition :=
        @position_errorAt_cons ending .missingLeftOperand
          p.token passed rest place hMore
      have hBehind : ∀ i,
          i ∈ (noted ending passed rest).map
              SyntaxError.position →
            place + 1 ≤ i := by
        intro i hMem
        rcases List.mem_map.mp hMem with ⟨e, hError, rfl⟩
        exact (of_mem_noted hMore hError).2.1
      cases hLacks : p.lacks with
      | false =>
          simp only [noted, hLacks, Bool.false_eq_true,
            ↓reduceIte] at hPlaces
          have hNot : place ∉ places := by
            intro hMem
            have hLess := hBehind place
              ((hPlaces place (Nat.le_refl _)).mp hMem)
            omega
          have hTail := ih hMore
            fun i hPlace => hPlaces i (by omega)
          simp only [List.map_cons, List.cons_append,
            insertBefore, if_neg hNot, hTail]
          simp [mended, hLacks]
      | true =>
          simp only [noted, hLacks, ↓reduceIte,
            List.map_cons, List.mem_cons,
            hPosition] at hPlaces
          have hHere : place ∈ places :=
            (hPlaces place (Nat.le_refl _)).mpr (Or.inl rfl)
          have hTail := ih hMore (by
            intro i hPlace
            rw [hPlaces i (by omega)]
            constructor
            · rintro (rfl | hMem)
              · omega
              · exact hMem
            · exact Or.inr)
          simp only [List.map_cons, List.cons_append,
            insertBefore, if_pos hHere, hTail]
          simp [mended, hLacks]

/- One operand has been put in for each that was noted. -/
theorem length_mended
    (filler : Token → Token)
    (ending : Ending)
    (passed : List Passed)
    (rest : List Token) :
    (mended filler passed).length =
      passed.length + (noted ending passed rest).length := by
  induction passed with
  | nil => rfl
  | cons p passed ih =>
      cases hLacks : p.lacks <;>
        simp_all [mended, noted] <;> omega

end LoxExpr
