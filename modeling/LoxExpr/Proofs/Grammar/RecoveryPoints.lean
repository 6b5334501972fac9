import LoxExpr.Proofs.Grammar.Standstill

/-
  This file says where recovery stops: at the first point
  behind the position, and never before it has passed a
  token.  So reading and recovering in turns comes to the end
  of the tokens, although reading alone may stay where it is.

  Key definitions include:
    * `IsRecoveryPoint`
    * `IsNextPoint`
    * `Cursor.rounds`

  Main statements:
    * `Cursor.IsClosed.exists_isNextPoint`
    * `Cursor.IsOver.position_run_rounds`
    * `Cursor.synchronize_stops_first`
-/

namespace LoxExpr

------------------------------------------------------------
-- Points of Recovery
------------------------------------------------------------

/- The keywords with which a statement begins. -/
def statementKinds : List Kind :=
  [.kwClass, .kwFun, .kwVar, .kwFor,
   .kwIf, .kwWhile, .kwPrint, .kwReturn]

theorem Kind.startsStatement_iff (kind : Kind) :
    kind.startsStatement = true ↔ kind ∈ statementKinds := by
  cases kind <;> decide

/-
  A place in a list from which reading can go on: right
  behind a semicolon, at a token that begins a statement, or
  at an end.
-/
inductive IsRecoveryPoint (tokens : List Token) :
    Nat → Prop where
| semicolon {place : Nat} {token : Token} :
    tokens[place]? = some token →
    token.kind = .semicolon →
    IsRecoveryPoint tokens (place + 1)
| statement {place : Nat} {token : Token} :
    tokens[place]? = some token →
    token.kind ∈ statementKinds →
    IsRecoveryPoint tokens place
| closing {place : Nat} {token : Token} :
    tokens[place]? = some token →
    token.isEnd = true →
    IsRecoveryPoint tokens place

/- The first point of recovery behind a place. -/
structure IsNextPoint
    (tokens : List Token)
    (place next : Nat) : Prop where
  behind : place < next
  point : IsRecoveryPoint tokens next
  first :
    ∀ other, place < other → IsRecoveryPoint tokens other →
      next ≤ other

/-
  The place behind a token is a point of recovery because of
  that token, or because of the next one.
-/
theorem isRecoveryPoint_succ_iff
    {tokens more : List Token}
    {passed : Token}
    {place : Nat}
    (hDrop : tokens.drop place = passed :: more) :
    IsRecoveryPoint tokens (place + 1) ↔
      passed.kind = .semicolon ∨
        ∃ token, more.head? = some token ∧
          (token.kind ∈ statementKinds ∨
            token.isEnd = true) := by
  rcases getElem?_of_drop_eq_cons hDrop with
    ⟨hPassed, hNext, _⟩
  constructor
  · intro hPoint
    cases hPoint with
    | semicolon hToken hKind =>
        rw [hPassed] at hToken
        exact Or.inl (Option.some.inj hToken ▸ hKind)
    | statement hToken hKind =>
        exact Or.inr ⟨_, hNext ▸ hToken, Or.inl hKind⟩
    | closing hToken hEnd =>
        exact Or.inr ⟨_, hNext ▸ hToken, Or.inr hEnd⟩
  · rintro (hKind | ⟨token, hHead, hKind | hEnd⟩)
    · exact .semicolon hPassed hKind
    · exact .statement (hNext.trans hHead) hKind
    · exact .closing (hNext.trans hHead) hEnd

/- A point right behind a place is the first one there. -/
theorem IsRecoveryPoint.isNextPoint
    {tokens : List Token}
    {place : Nat}
    (h : IsRecoveryPoint tokens (place + 1)) :
    IsNextPoint tokens place (place + 1) where
  behind := Nat.lt_succ_self place
  point := h
  first := fun _ hBehind _ => hBehind

/- Where there is none, the first one is further on. -/
theorem IsNextPoint.of_succ
    {tokens : List Token}
    {place next : Nat}
    (h : IsNextPoint tokens (place + 1) next)
    (hNone : ¬IsRecoveryPoint tokens (place + 1)) :
    IsNextPoint tokens place next where
  behind := Nat.lt_of_succ_lt h.behind
  point := h.point
  first := by
    intro other hBehind hPoint
    rcases Nat.lt_or_eq_of_le hBehind with hLater | rfl
    · exact h.first other hLater hPoint
    · exact absurd hPoint hNone

/-
  Recovery behind a token that has been passed leaves the
  tokens from the next point on.
-/
theorem isNextPoint_recover
    {tokens more behind : List Token}
    {passed closing : Token}
    {place : Nat}
    (hDrop :
      tokens.drop place =
        passed :: (more ++ closing :: behind))
    (hClosing : closing.isEnd = true)
    (hMore : ∀ token ∈ more, token.isEnd = false) :
    IsNextPoint tokens place
      (place + 1 +
        (more.length -
          (Cursor.recover passed more).length)) := by
  have hPoint := isRecoveryPoint_succ_iff hDrop
  fun_induction Cursor.recover passed more
    generalizing place with
  | case1 passed =>
      exact (hPoint.mpr
        (Or.inr ⟨closing, rfl, Or.inr hClosing⟩)).isNextPoint
  | case2 passed token more hSemicolon =>
      rw [Nat.sub_self]
      exact (hPoint.mpr (Or.inl hSemicolon)).isNextPoint
  | case3 passed token more _ hStatement =>
      rw [Kind.startsStatement_iff] at hStatement
      rw [Nat.sub_self]
      exact (hPoint.mpr
        (Or.inr ⟨token, rfl, Or.inl hStatement⟩)).isNextPoint
  | case4 passed token more hSemicolon hStatement ih =>
      rw [Kind.startsStatement_iff] at hStatement
      rw [List.forall_mem_cons] at hMore
      have hNone : ¬IsRecoveryPoint tokens (place + 1) := by
        rw [hPoint]
        rintro (hKind | ⟨next, hHead, hKind | hEnd⟩)
        · exact hSemicolon hKind
        · exact hStatement (Option.some.inj hHead ▸ hKind)
        · simp [← Option.some.inj hHead, hMore.1] at hEnd
      have hDropMore := (getElem?_of_drop_eq_cons hDrop).2.2
      have hFound := ih hDropMore hMore.2
        (isRecoveryPoint_succ_iff hDropMore)
      have hLength := Cursor.length_recover_le token more
      have hSame :
          place + 1 +
              ((token :: more).length -
                (Cursor.recover token more).length) =
            place + 1 + 1 +
              (more.length -
                (Cursor.recover token more).length) := by
        rw [List.length_cons]
        omega
      rw [hSame]
      exact hFound.of_succ hNone

------------------------------------------------------------
-- Recovery at a Cursor
------------------------------------------------------------

namespace Cursor

section Closed

variable {c : Cursor}

/- At an end, recovery changes nothing. -/
theorem IsClosed.synchronize_of_isAtEnd
    (h : c.IsClosed)
    (hEnd : c.IsAtEnd) :
    c.synchronize = c := by
  rw [synchronize, h.live_eq_nil_iff.mpr hEnd]

/-
  Before an end, recovery goes to the next point of recovery,
  and changes nothing else.
-/
theorem IsClosed.exists_isNextPoint
    (h : c.IsClosed)
    (hBefore : ¬c.IsAtEnd) :
    ∃ next, IsNextPoint c.tokens c.position next ∧
      c.synchronize = { c with position := next } := by
  rcases h.exists_drop with
    ⟨closing, behind, hClosing, hDrop⟩
  cases hLive : c.live with
  | nil => exact absurd (h.live_eq_nil_iff.mp hLive) hBefore
  | cons passed more =>
      have hMore : ∀ token ∈ more, token.isEnd = false := by
        intro token hMem
        apply isEnd_of_mem_live (c := c)
        rw [hLive]
        exact List.mem_cons_of_mem _ hMem
      rw [hLive] at hDrop
      refine ⟨_, isNextPoint_recover hDrop hClosing hMore,
        ?_⟩
      have hLength := length_recover_le passed more
      have hSame :
          c.position + (passed :: more).length -
              (recover passed more).length =
            c.position + 1 +
              (more.length - (recover passed more).length) := by
        rw [List.length_cons]
        omega
      simp only [synchronize, hLive, moveTo, ending, hSame]

end Closed

------------------------------------------------------------
-- Reading and Recovering in Turns
------------------------------------------------------------

/- Read and then recover, a number of times. -/
def rounds : Nat → List Move
| 0 => []
| n + 1 => .parse :: .synchronize :: rounds n

section Over

variable {tokens : List Token}
variable {c : Cursor}

/- A cursor over tokens is before an end of its list. -/
theorem IsOver.isClosed
    (h : c.IsOver tokens) :
    c.IsClosed where
  closed := h.closed ▸ exists_getLast?_closeTokens tokens
  within := by
    rcases h.exists_token with ⟨token, hToken⟩
    exact (List.getElem?_eq_some_iff.mp hToken).1

/- It is at an end exactly at the first one. -/
theorem IsOver.isAtEnd_iff
    (h : c.IsOver tokens) :
    c.IsAtEnd ↔
      c.position = (tokensBeforeEnd tokens).length := by
  rw [← h.isClosed.live_eq_nil_iff, h.live_eq,
    List.drop_eq_nil_iff]
  have hBounded := h.bounded
  omega

/- A round that begins before the end makes progress. -/
theorem IsOver.position_lt_round
    (h : c.IsOver tokens)
    (hBefore :
      c.position < (tokensBeforeEnd tokens).length) :
    c.position < (c.run (rounds 1)).position := by
  have hRead := h.move .parse
  have hMoved : c.position ≤ c.parse.2.position :=
    c.position_le_move .parse
  have hKept := c.parse.2.position_le_synchronize
  change c.position < c.parse.2.synchronize.position
  by_cases hEnd : c.parse.2.IsAtEnd
  · have hLast := hRead.isAtEnd_iff.mp hEnd
    change c.parse.2.position = _ at hLast
    omega
  · rcases hRead.isClosed.exists_isNextPoint hEnd with
      ⟨next, hNext, hSynchronized⟩
    have hBehind := hNext.behind
    change c.parse.2.synchronize = _ at hSynchronized
    rw [hSynchronized]
    exact Nat.lt_of_le_of_lt hMoved hBehind

/-
  As many rounds as there are tokens left come to the first
  end, and further ones stay there.
-/
theorem IsOver.position_run_rounds
    (h : c.IsOver tokens)
    {n : Nat}
    (hEnough :
      (tokensBeforeEnd tokens).length ≤ c.position + n) :
    (c.run (rounds n)).position =
      (tokensBeforeEnd tokens).length := by
  induction n generalizing c with
  | zero => exact Nat.le_antisymm h.bounded hEnough
  | succ n ih =>
      have hRound := h.run (rounds 1)
      have hKept := c.position_le_run (rounds 1)
      apply ih hRound
      rcases Nat.lt_or_eq_of_le h.bounded with
        hBefore | hLast
      · have hProgress := h.position_lt_round hBefore
        omega
      · omega

end Over

/-
  For every list that ends with an end, and every position in
  it: at an end, recovery changes nothing; before one, it
  moves the cursor to the first point of recovery behind the
  position, and finds no error.  A reading on its own stays
  where it is if and only if the token there begins nothing.
  Still, for all tokens, as many rounds of reading and
  recovering as there are tokens before the first end come to
  that end, also where readings fail and stay.
-/
theorem synchronize_stops_first :
    (∀ c : Cursor, c.IsClosed →
      (c.IsAtEnd → c.synchronize = c) ∧
      (¬c.IsAtEnd →
        ∃ next, IsNextPoint c.tokens c.position next ∧
          c.synchronize = { c with position := next }) ∧
      (c.parse.2.position = c.position ↔
        ∃ token, c.tokens[c.position]? = some token ∧
          token.kind.BeginsNothing)) ∧
    (∀ tokens n, (tokensBeforeEnd tokens).length ≤ n →
      let c := (ofTokens tokens).run (rounds n)
      c.position = (tokensBeforeEnd tokens).length ∧
        c.IsAtEnd) ∧
    ∃ tokens, (tokensBeforeEnd tokens).length ≠ 0 ∧
      (ofTokens tokens).parse.2.errors ≠ [] ∧
      (ofTokens tokens).parse.2.position = 0 := by
  refine ⟨fun c hClosed =>
    ⟨hClosed.synchronize_of_isAtEnd,
      hClosed.exists_isNextPoint,
      hClosed.position_parse_eq_iff⟩, ?_, ?_⟩
  · intro tokens n hEnough
    have hStart := isOver_ofTokens tokens
    have hPosition := hStart.position_run_rounds (n := n) (by
      exact Nat.le_trans hEnough (Nat.le_add_left _ _))
    exact ⟨hPosition,
      (hStart.run (rounds n)).isAtEnd_iff.mpr hPosition⟩
  · let paren : Token := ⟨.rightParen, ")", none, 1⟩
    have hClosed := (isOver_ofTokens [paren]).isClosed
    have hNothing : paren.kind.BeginsNothing :=
      (Kind.beginsNothing_iff _).mpr (by decide)
    have hParse := hClosed.parse_of_beginsNothing rfl hNothing
    refine ⟨[paren], by decide, ?_, ?_⟩
    · rw [hParse]
      simp
    · rw [hParse]
      rfl

/-
  In `) ; nil`, recovery stops behind the semicolon, although
  a reading stays at the parenthesis; and what is behind the
  first end has no part in it.
-/
theorem synchronize_stops_first_semicolon :
    let paren : Token := ⟨.rightParen, ")", none, 1⟩
    let semicolon : Token := ⟨.semicolon, ";", none, 1⟩
    let literal : Token := ⟨.kwNil, "nil", none, 1⟩
    let keyword : Token := ⟨.kwPrint, "print", none, 1⟩
    let closing := Token.endOfInput 1
    let tokens := [paren, semicolon, literal, closing,
      keyword, closing]
    let c : Cursor := ⟨tokens, 0, []⟩
    c.IsClosed ∧ ¬c.IsAtEnd ∧ IsNextPoint tokens 0 2 ∧
      c.synchronize = { c with position := 2 } ∧
      c.parse.2.position = 0 ∧
      (tokensBeforeEnd tokens).length ≤ 3 ∧
      ((ofTokens tokens).run (rounds 3)).position = 3 := by
  intro paren semicolon literal keyword closing tokens c
  have hClosed : c.IsClosed :=
    ⟨⟨closing, rfl, rfl⟩, by decide⟩
  have hBefore : ¬c.IsAtEnd := by
    rintro ⟨token, hToken, hEnd⟩
    rw [← Option.some.inj hToken] at hEnd
    exact absurd hEnd (by decide)
  have hMoved : c.synchronize = { c with position := 2 } := rfl
  rcases synchronize_stops_first with ⟨hCursors, hRounds, _⟩
  rcases hCursors c hClosed with ⟨_, hPoint, hStays⟩
  rcases hPoint hBefore with ⟨next, hNext, hSynchronized⟩
  have hTwo : next = 2 := by
    rw [hMoved] at hSynchronized
    exact congrArg Cursor.position hSynchronized.symm
  have hNothing : paren.kind.BeginsNothing :=
    (Kind.beginsNothing_iff _).mpr (by decide)
  exact ⟨hClosed, hBefore, hTwo ▸ hNext, hMoved,
    hStays.mpr ⟨paren, rfl, hNothing⟩, by decide,
    (hRounds tokens 3 (by decide)).1⟩

end Cursor

end LoxExpr
