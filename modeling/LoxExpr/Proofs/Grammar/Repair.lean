import LoxExpr.Proofs.Grammar.Places
import LoxExpr.Proofs.Grammar.Recovery

/-
  This file shows that noting an operator without left
  operand is as good as having the operand: the tokens with
  an operand put before each such operator are read with the
  other errors only, and up to the same place.

  Key definitions include:
    * `missingPlaces`
    * `repaired`

  The main statement is `parse_repaired`.
-/

namespace LoxExpr

------------------------------------------------------------
-- Repaired Tokens
------------------------------------------------------------

/- The places of the operators without left operand. -/
def missingPlaces (errors : List SyntaxError) : List Nat :=
  (errors.filter SyntaxError.isMissing).map
    SyntaxError.position

/-
  The tokens with an operand before each operator that the
  first reading reports to lack one.
-/
def repaired
    (filler : Token → Token)
    (tokens : List Token) : List Token :=
  insertBefore filler
    (missingPlaces
      (Cursor.ofTokens tokens).parse.2.errors)
    0 tokens

------------------------------------------------------------
-- Errors of an Outcome
------------------------------------------------------------

namespace Outcome

/- The failure, if there is one. -/
def failure (o : Outcome) : List SyntaxError :=
  match o.result with
  | .error e => [e]
  | .ok _ => []

theorem errors_eq_append (o : Outcome) :
    o.errors = o.missing ++ o.failure := by
  unfold errors failure
  cases o.result with
  | error e => rfl
  | ok tree => exact (List.append_nil _).symm

theorem length_failure_le (o : Outcome) :
    o.failure.length ≤ 1 := by
  unfold failure
  cases o.result with
  | error e => exact Nat.le_refl _
  | ok tree => exact Nat.zero_le _

/-
  A reading like one that fails without noting anything has
  its failure only, and no tree.
-/
theorem of_shape_failed
    {o : Outcome}
    {e : SyntaxError}
    {rest : List Token}
    (hShape : o.shape = (failed e rest).shape) :
    o.errors.map SyntaxError.kindAt = [e.kindAt] ∧
      o.tree? = none ∧ o.rest = rest := by
  have hResult := congrArg Shape.result hShape
  have hMissing := congrArg Shape.missing hShape
  have hRest := congrArg Shape.rest hShape
  simp only [shape, result_failed, missing_failed,
    List.map_nil, List.map_eq_nil_iff] at hResult hMissing
  cases hSelf : o.result with
  | error e' =>
      have hKind : e'.kindAt = e.kindAt := by
        simpa [hSelf] using hResult
      exact ⟨by simp [errors, hSelf, hMissing, hKind],
        by simp [tree?, hSelf], hRest⟩
  | ok tree => simp [hSelf] at hResult

/- A reading like one that is done has a tree, no errors. -/
theorem of_shape_done
    {o : Outcome}
    {tree : Expr}
    {rest : List Token}
    (hShape : o.shape = (done (some tree) rest).shape) :
    o.errors = [] ∧ o.tree?.isSome = true ∧
      o.rest = rest := by
  have hResult := congrArg Shape.result hShape
  have hMissing := congrArg Shape.missing hShape
  have hRest := congrArg Shape.rest hShape
  simp only [shape, result_done, missing_done,
    List.map_nil, List.map_eq_nil_iff] at hResult hMissing
  cases hSelf : o.result with
  | error e' => simp [hSelf] at hResult
  | ok tree' =>
      have hTree : tree'.isSome = true := by
        simpa [hSelf] using hResult
      exact ⟨by simp [errors, hSelf, hMissing],
        by simp [tree?, hSelf, hTree], hRest⟩

end Outcome

/- What a reading notes is told from how it fails. -/
theorem Mends.errors_filter
    {ending : Ending}
    {filler : Token → Token}
    {passed : List Passed}
    {tokens : List Token}
    {o : Outcome}
    {whole behind : List Token → Outcome}
    (h : Mends ending filler passed tokens o whole behind)
    (hEnding : ending.position = tokens.length) :
    o.errors.filter SyntaxError.isMissing = o.missing ∧
      o.errors.filter (fun e => !e.isMissing) =
        o.failure := by
  have hPosition :
      ending.position =
        0 + passed.length + o.rest.length := by
    rw [hEnding, h.split, List.length_append,
      List.length_map, Nat.zero_add]
  have hMissing : ∀ e ∈ o.missing, e.isMissing = true := by
    intro e hMem
    rw [h.missing] at hMem
    exact (of_mem_noted hPosition hMem).1
  have hFailure :
      ∀ e ∈ o.failure, e.isMissing = false := by
    intro e hMem
    unfold Outcome.failure at hMem
    split at hMem
    · rename_i e' hResult
      rw [List.mem_singleton.mp hMem]
      exact h.genuine e' hResult
    · simp at hMem
  rw [Outcome.errors_eq_append, List.filter_append,
    List.filter_append]
  constructor
  · rw [List.filter_eq_self.mpr hMissing,
      List.filter_eq_nil_iff.mpr (by simpa using hFailure),
      List.append_nil]
  · rw [List.filter_eq_nil_iff.mpr (by simpa using hMissing),
      List.filter_eq_self.mpr (by simpa using hFailure),
      List.nil_append]

------------------------------------------------------------
-- The Repaired Reading
------------------------------------------------------------

/- Operands are put in before the first end only. -/
theorem isEnd_of_mem_mended
    {filler : Token → Token}
    (hFiller : ∀ operator, (filler operator).kind = .kwNil)
    {passed : List Passed}
    (hPassed :
      ∀ token ∈ passed.map Passed.token,
        token.isEnd = false)
    {token : Token}
    (hMem : token ∈ mended filler passed) :
    token.isEnd = false := by
  rcases List.mem_flatMap.mp hMem with ⟨p, hPass, hToken⟩
  have hSelf :=
    hPassed p.token (List.mem_map_of_mem hPass)
  have hNil : (filler p.token).isEnd = false := by
    simp [Token.isEnd, hFiller]
  split at hToken <;> simp at hToken
  · rcases hToken with rfl | rfl
    · exact hNil
    · exact hSelf
  · exact hToken ▸ hSelf

section Reading

variable {tokens : List Token}
variable {filler : Token → Token}
variable {passed : List Passed}
variable {whole behind : List Token → Outcome}

theorem position_ending_eq
    (h :
      Mends (Cursor.ofTokens tokens).ending filler passed
        (tokensBeforeEnd tokens)
        (Cursor.firstOutcome tokens) whole behind) :
    (Cursor.ofTokens tokens).ending.position =
      0 + passed.length +
        (Cursor.firstOutcome tokens).rest.length := by
  rw [Cursor.position_ending_ofTokens, h.split,
    List.length_append, List.length_map, Nat.zero_add]

/- Operands are put in where the first reading noted so. -/
theorem missingPlaces_eq
    (h :
      Mends (Cursor.ofTokens tokens).ending filler passed
        (tokensBeforeEnd tokens)
        (Cursor.firstOutcome tokens) whole behind) :
    missingPlaces (Cursor.ofTokens tokens).parse.2.errors =
      (noted (Cursor.ofTokens tokens).ending passed
        (Cursor.firstOutcome tokens).rest).map
          SyntaxError.position := by
  have hEnding := Cursor.position_ending_ofTokens tokens
  rw [Cursor.parse_ofTokens, ← h.missing,
    ← (h.errors_filter hEnding).1]
  rfl

/- Behind the passed tokens, nothing is put in. -/
theorem insertBefore_missingPlaces
    (h :
      Mends (Cursor.ofTokens tokens).ending filler passed
        (tokensBeforeEnd tokens)
        (Cursor.firstOutcome tokens) whole behind)
    (more : List Token) :
    insertBefore filler
        (missingPlaces
          (Cursor.ofTokens tokens).parse.2.errors)
        0 (passed.map Passed.token ++ more) =
      mended filler passed ++ more := by
  apply insertBefore_noted filler (position_ending_eq h)
  intro i _
  rw [missingPlaces_eq h]

/- The passed tokens are the first ones. -/
theorem exists_eq_passed_append
    (h :
      Mends (Cursor.ofTokens tokens).ending filler passed
        (tokensBeforeEnd tokens)
        (Cursor.firstOutcome tokens) whole behind) :
    ∃ tail,
      tokens = passed.map Passed.token ++ tail ∧
        repaired filler tokens =
          mended filler passed ++ tail := by
  have hLive :=
    List.takeWhile_prefix (l := tokens)
      fun token => !token.isEnd
  rcases hLive with ⟨tail, hTokens⟩
  have hSplit := h.split
  unfold tokensBeforeEnd at hSplit
  rw [hSplit, List.append_assoc] at hTokens
  have hRepaired := insertBefore_missingPlaces h
    ((Cursor.firstOutcome tokens).rest ++ tail)
  rw [hTokens] at hRepaired
  exact ⟨_, hTokens.symm, hRepaired⟩

/- What has been noted are operators of the tokens. -/
theorem getElem?_of_mem_missing
    (h :
      Mends (Cursor.ofTokens tokens).ending filler passed
        (tokensBeforeEnd tokens)
        (Cursor.firstOutcome tokens) whole behind)
    {e : SyntaxError}
    (hMem : e ∈ (Cursor.firstOutcome tokens).missing) :
    tokens[e.position]? = some e.token := by
  rcases exists_eq_passed_append h with ⟨tail, hTokens, _⟩
  rw [h.missing] at hMem
  have hToken :=
    (of_mem_noted (position_ending_eq h) hMem).2.2
  rw [Nat.sub_zero] at hToken
  have hLess := (List.getElem?_eq_some_iff.mp hToken).1
  rw [hTokens, List.getElem?_append_left hLess]
  exact hToken

/-
  The repaired tokens are the mended ones up to where the
  first reading stops, and the same behind that.
-/
theorem closeTokens_repaired
    (h :
      Mends (Cursor.ofTokens tokens).ending filler passed
        (tokensBeforeEnd tokens)
        (Cursor.firstOutcome tokens) whole behind)
    {closing : Token}
    {unread : List Token}
    (hTokens :
      closeTokens tokens =
        tokensBeforeEnd tokens ++ closing :: unread) :
    closeTokens (repaired filler tokens) =
      mended filler passed ++
        (Cursor.firstOutcome tokens).rest ++
          closing :: unread := by
  have hBounds :
      ∀ i ∈ missingPlaces
          (Cursor.ofTokens tokens).parse.2.errors,
        i < tokens.length := by
    intro i hMem
    rw [missingPlaces_eq h, ← h.missing] at hMem
    rcases List.mem_map.mp hMem with ⟨e, hError, rfl⟩
    have hToken := getElem?_of_mem_missing h hError
    exact (List.getElem?_eq_some_iff.mp hToken).1
  rw [repaired, closeTokens_insertBefore filler _ hBounds,
    hTokens, h.split, List.append_assoc, List.append_assoc]
  exact insertBefore_missingPlaces h _

theorem tokensBeforeEnd_repaired
    (hFiller : ∀ operator, (filler operator).kind = .kwNil)
    (h :
      Mends (Cursor.ofTokens tokens).ending filler passed
        (tokensBeforeEnd tokens)
        (Cursor.firstOutcome tokens) whole behind) :
    tokensBeforeEnd (repaired filler tokens) =
      mended filler passed ++
        (Cursor.firstOutcome tokens).rest := by
  rcases closeTokens_eq_append tokens with
    ⟨closing, unread, hClosing, hTokens⟩
  have hLive : ∀ token ∈ tokensBeforeEnd tokens,
      token.isEnd = false :=
    fun _ => Cursor.isEnd_of_mem_tokensBeforeEnd
  rw [h.split] at hLive
  rw [← tokensBeforeEnd_closeTokens,
    closeTokens_repaired h hTokens]
  apply tokensBeforeEnd_append_cons _ hClosing
  intro token hMem
  rcases List.mem_append.mp hMem with hMended | hRest
  · apply isEnd_of_mem_mended hFiller _ hMended
    intro token hPassed
    exact hLive token (List.mem_append_left _ hPassed)
  · exact hLive token (List.mem_append_right _ hRest)

end Reading

/- The repaired tokens end with the same token. -/
theorem token_ending_repaired
    {filler : Token → Token}
    (hFiller : ∀ operator, (filler operator).kind = .kwNil)
    (tokens : List Token) :
    (Cursor.ofTokens
        (repaired filler tokens)).ending.token =
      (Cursor.ofTokens tokens).ending.token := by
  rcases closeTokens_eq_append tokens with
    ⟨closing, unread, hClosing, hTokens⟩
  rcases @mends_readPhrase
      (Cursor.ofTokens tokens).ending
      (Cursor.ofTokens tokens).ending filler rfl hFiller
      (tokensBeforeEnd tokens) with ⟨passed, h⟩
  have hRepaired := closeTokens_repaired h hTokens
  rw [← tokensBeforeEnd_repaired hFiller h] at hRepaired
  rw [Cursor.token_ending_ofTokens hTokens,
    Cursor.token_ending_ofTokens hRepaired]

/-
  The repaired tokens are read with the failure only, if
  there is one, and else with a tree.  The same tokens are
  left.
-/
theorem firstOutcome_repaired
    {tokens : List Token}
    {filler : Token → Token}
    {passed : List Passed}
    (hFiller : ∀ operator, (filler operator).kind = .kwNil)
    (h :
      Mends (Cursor.ofTokens tokens).ending filler passed
        (tokensBeforeEnd tokens)
        (Cursor.firstOutcome tokens)
        (readPhrase
          (Cursor.ofTokens
            (repaired filler tokens)).ending .conditional)
        (.done anyTree)) :
    let o := Cursor.firstOutcome tokens
    let o' := Cursor.firstOutcome (repaired filler tokens)
    o'.errors.map SyntaxError.kindAt =
        o.failure.map SyntaxError.kindAt ∧
      o'.tree?.isSome = o.failure.isEmpty ∧
      o'.rest = o.rest := by
  intro o o'
  have hLive := tokensBeforeEnd_repaired hFiller h
  have hRead :
      o' =
        readPhrase
          (Cursor.ofTokens
            (repaired filler tokens)).ending .conditional
          (mended filler passed ++ o.rest) := by
    rw [← hLive]
    rfl
  cases hResult : o.result with
  | error e =>
      have hFailure : o.failure = [e] := by
        simp [Outcome.failure, hResult]
      rcases Outcome.of_shape_failed
          (hRead ▸ h.failed e hResult) with
        ⟨hErrors, hTree, hRest⟩
      exact ⟨by simpa [hFailure] using hErrors,
        by simp [hTree, hFailure], hRest⟩
  | ok tree =>
      have hFailure : o.failure = [] := by
        simp [Outcome.failure, hResult]
      rcases Outcome.of_shape_done
          (hRead ▸ h.read tree hResult o.rest rfl) with
        ⟨hErrors, hTree, hRest⟩
      exact ⟨by simp [hFailure, hErrors],
        by simp [hFailure, hTree], hRest⟩

/- The repaired tokens have a tree unless reading fails. -/
theorem isSome_parse_repaired
    {tokens : List Token}
    {filler : Token → Token}
    {passed : List Passed}
    (hFiller : ∀ operator, (filler operator).kind = .kwNil)
    (h :
      Mends (Cursor.ofTokens tokens).ending filler passed
        (tokensBeforeEnd tokens)
        (Cursor.firstOutcome tokens)
        (readPhrase
          (Cursor.ofTokens
            (repaired filler tokens)).ending .conditional)
        (.done anyTree)) :
    (Cursor.ofTokens
        (repaired filler tokens)).parse.1.isSome =
      (Cursor.firstOutcome tokens).failure.isEmpty := by
  rcases firstOutcome_repaired hFiller h with
    ⟨hErrors, hTree, _⟩
  have hNone := congrArg List.isEmpty hErrors
  rw [List.isEmpty_map, List.isEmpty_map] at hNone
  rw [Cursor.isSome_parse_ofTokens, hNone, hTree,
    Bool.and_self]

/-
  Reading the repaired tokens gives the errors that are not
  about missing operands, one failure at most.  There is a
  tree if and only if there are no other errors, and the
  cursor stops before the same tokens.
-/
theorem parse_repaired
    (tokens : List Token)
    (filler : Token → Token)
    (hFiller : ∀ operator, (filler operator).kind = .kwNil) :
    let before := (Cursor.ofTokens tokens).parse
    let after :=
      (Cursor.ofTokens (repaired filler tokens)).parse
    let missing :=
      before.2.errors.filter SyntaxError.isMissing
    let genuine :=
      before.2.errors.filter fun e => !e.isMissing
    (∀ e ∈ missing,
      tokens[e.position]? = some e.token) ∧
    (repaired filler tokens).length =
      tokens.length + missing.length ∧
    before.2.errors = missing ++ genuine ∧
    genuine.length ≤ 1 ∧
    after.2.errors.map SyntaxError.kindAt =
      genuine.map SyntaxError.kindAt ∧
    (after.1.isSome = true ↔
      ∀ e ∈ before.2.errors, e.isMissing = true) ∧
    after.2.position =
      before.2.position + missing.length ∧
    (closeTokens (repaired filler tokens)).drop
        after.2.position =
      (closeTokens tokens).drop before.2.position := by
  have hToken := token_ending_repaired hFiller tokens
  rcases mends_readPhrase hToken hFiller
      (tokensBeforeEnd tokens) with ⟨passed, hMends⟩
  have h :
      Mends (Cursor.ofTokens tokens).ending filler passed
        (tokensBeforeEnd tokens)
        (Cursor.firstOutcome tokens)
        (readPhrase
          (Cursor.ofTokens
            (repaired filler tokens)).ending .conditional)
        (.done anyTree) := hMends
  intro before after missing genuine
  have hBefore : before = _ := Cursor.parse_ofTokens tokens
  have hAfter : after = _ :=
    Cursor.parse_ofTokens (repaired filler tokens)
  have hEnding := Cursor.position_ending_ofTokens tokens
  have hMissing :
      missing = (Cursor.firstOutcome tokens).missing := by
    rw [← (h.errors_filter hEnding).1]
    simp only [missing, hBefore]
  have hGenuine :
      genuine = (Cursor.firstOutcome tokens).failure := by
    rw [← (h.errors_filter hEnding).2]
    simp only [genuine, hBefore]
  rcases firstOutcome_repaired hFiller h with
    ⟨hErrors, _, hRest⟩
  have hLength :=
    length_mended filler (Cursor.ofTokens tokens).ending
      passed (Cursor.firstOutcome tokens).rest
  rw [← h.missing] at hLength
  have hPosition : before.2.position = passed.length := by
    rw [hBefore]
    simp [h.split]
  have hPosition' :
      after.2.position = (mended filler passed).length := by
    rw [hAfter]
    simp [tokensBeforeEnd_repaired hFiller h, hRest]
  refine ⟨?_, ?_, ?_, ?_, ?_, ?_, ?_, ?_⟩
  · intro e hMem
    rw [hMissing] at hMem
    exact getElem?_of_mem_missing h hMem
  · rcases exists_eq_passed_append h with
      ⟨tail, hTokens, hRepaired⟩
    have hTotal := congrArg List.length hTokens
    rw [List.length_append, List.length_map] at hTotal
    rw [hRepaired, hMissing, List.length_append, hLength]
    omega
  · rw [hMissing, hGenuine, ← Outcome.errors_eq_append,
      hBefore]
  · rw [hGenuine]
    exact Outcome.length_failure_le _
  · rw [hGenuine, hAfter]
    exact hErrors
  · have hNone :
        (∀ e ∈ before.2.errors, e.isMissing = true) ↔
          genuine = [] := by
      simp [genuine, List.filter_eq_nil_iff]
    rw [hNone, hGenuine, ← List.isEmpty_iff]
    exact Bool.eq_iff_iff.mp
      (isSome_parse_repaired hFiller h)
  · rw [hPosition, hPosition', hMissing, hLength]
  · rcases closeTokens_eq_append tokens with
      ⟨closing, unread, hClosing, hTokens⟩
    rw [closeTokens_repaired h hTokens, hTokens, h.split,
      hPosition, hPosition', List.append_assoc,
      List.append_assoc, List.drop_left]
    rw [List.drop_left' (List.length_map _)]

/- With `nil` put before its operator, `* true` has a tree. -/
theorem isSome_parse_repaired_star :
    let star : Token := ⟨.star, "*", none, 1⟩
    let tokens := [star, ⟨.kwTrue, "true", none, 1⟩]
    let filler : Token → Token := fun operator =>
      ⟨.kwNil, "nil", none, operator.line⟩
    (∀ operator, (filler operator).kind = .kwNil) ∧
      (Cursor.ofTokens tokens).parse.2.errors =
        [⟨star, .missingLeftOperand, 0⟩] ∧
      (Cursor.ofTokens
        (repaired filler tokens)).parse.1.isSome =
          true := by
  intro star tokens filler
  have hFiller :
      ∀ operator, (filler operator).kind = .kwNil :=
    fun _ => rfl
  have hErrors :
      (Cursor.ofTokens tokens).parse.2.errors =
        [⟨star, .missingLeftOperand, 0⟩] := by
    rw [Cursor.parse_ofTokens]
    simp [star, tokens, Cursor.firstOutcome,
      Cursor.position_ending_ofTokens, tokensBeforeEnd,
      Token.isEnd, readPhrase_conditional,
      readPhrase_binary, Level.operand,
      readPhrase_unary_cons, readOperand_eq,
      readChain_nil, readBranches_nil, readLiteral,
      Value.ofToken?, Kind.isUnary, Kind.isLiteral,
      Kind.level?, passOperator, Outcome.andThen,
      Outcome.done, Outcome.errors, Ending.errorAt]
  rcases parse_repaired tokens filler hFiller with
    ⟨_, _, _, _, _, hTree, _, _⟩
  refine ⟨hFiller, hErrors, hTree.mpr ?_⟩
  intro e hMem
  rw [hErrors, List.mem_singleton] at hMem
  rw [hMem]
  rfl

end LoxExpr
