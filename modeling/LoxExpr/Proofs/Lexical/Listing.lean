import LoxExpr.Proofs.Lexical.Cut

/-
  This file says what cuts in a row amount to, from any line
  on, and what is scanned from a source whose cuts are known.

  Key definitions include:
    * `Segment.IsFaultless`

  Main statements:
    * `tokensOn_append`
    * `scan_eq_of_cuts`
    * `scan_of_cuts`
-/

namespace LoxExpr

------------------------------------------------------------
-- Tokens of Cuts
------------------------------------------------------------

/- The segment is a token or layout. -/
def Segment.IsFaultless (s : Segment) : Prop :=
  ∀ fault, s.content ≠ .fault fault

/- A segment that is a token has no fault. -/
theorem Segment.isFaultless_of_token
    {s : Segment}
    {kind : Kind}
    {literal : Option Literal}
    (hContent : s.content = .token kind literal) :
    s.IsFaultless := by
  simp [IsFaultless, hContent]

theorem Segment.toList_lexeme (s : Segment) :
    s.lexeme.toList = s.text := by
  rw [lexeme, String.toList_ofList]

theorem placed_append
    (line : Nat)
    (cuts cuts' : List Segment) :
    placed line (cuts ++ cuts') =
      placed line cuts ++
        placed (lineAfter line cuts) cuts' := by
  induction cuts generalizing line with
  | nil => rfl
  | cons s cuts ih =>
      simp only [List.cons_append, placed, lineAfter, ih]

theorem tokensOn_append
    (line : Nat)
    (cuts cuts' : List Segment) :
    tokensOn line (cuts ++ cuts') =
      tokensOn line cuts ++
        tokensOn (lineAfter line cuts) cuts' := by
  rw [tokensOn, placed_append, List.filterMap_append]
  rfl

theorem map_segment_placed
    (line : Nat)
    (cuts : List Segment) :
    (placed line cuts).map Placed.segment = cuts := by
  induction cuts generalizing line with
  | nil => rfl
  | cons s cuts ih => rw [placed, List.map_cons, ih]

/- Every faulty segment is an error. -/
theorem exists_error_of_fault
    {cuts : List Segment}
    {s : Segment}
    (hMem : s ∈ cuts)
    {fault : LexicalFault}
    (hFault : s.content = .fault fault)
    (line : Nat) :
    ∃ e ∈ errorsOn line cuts, e.fault = fault := by
  rw [← map_segment_placed line cuts] at hMem
  rcases List.mem_map.mp hMem with ⟨p, hPlaced, rfl⟩
  have hError : p.error? =
      some ⟨p.line + p.segment.lineFeeds, fault⟩ := by
    simp only [Placed.error?, Segment.errorOn?, hFault]
  exact ⟨_, List.mem_filterMap.mpr ⟨p, hPlaced, hError⟩, rfl⟩

/- A segment that is a token is listed before the rest. -/
theorem tokensOn_cons
    {s : Segment}
    {kind : Kind}
    {literal : Option Literal}
    (hContent : s.content = .token kind literal)
    (line : Nat)
    (cuts : List Segment) :
    tokensOn line (s :: cuts) =
      ⟨kind, s.lexeme, literal, line⟩ ::
        tokensOn (line + s.lineFeeds) cuts := by
  rw [tokensOn, filterMap_placed_cons]
  simp only [Placed.token?, Segment.tokenOn?, hContent]
  rfl

/- Faultless segments have no errors. -/
theorem errorsOn_eq_nil
    {cuts : List Segment}
    (hFaultless : ∀ s ∈ cuts, s.IsFaultless)
    (line : Nat) :
    errorsOn line cuts = [] := by
  induction cuts generalizing line with
  | nil => rfl
  | cons s cuts ih =>
      have hFirst := hFaultless s List.mem_cons_self
      have hRest := ih
        (fun s hMem =>
          hFaultless s (List.mem_cons_of_mem _ hMem))
        (line + s.lineFeeds)
      have hNone : Placed.error? ⟨line, s⟩ = none := by
        cases hContent : s.content with
        | fault fault => exact absurd hContent (hFirst fault)
        | _ =>
            simp only [Placed.error?, Segment.errorOn?,
              hContent]
      rw [errorsOn, filterMap_placed_cons, hNone]
      exact hRest

/- A source is scanned to what its cuts are. -/
theorem scan_eq_of_cuts
    {source : String}
    {cuts : List Segment}
    (hCuts : Cuts source.toList cuts []) :
    scan source =
      ⟨tokensOn 1 cuts ++
        [Token.endOfInput (lineAfter 1 cuts)],
        errorsOn 1 cuts⟩ := by
  rw [scan, scanFrom_eq, ← cuts_iff_segments.mp hCuts]

/- A source with faultless cuts is scanned to their tokens. -/
theorem scan_of_cuts
    {source : String}
    {cuts : List Segment}
    (hCuts : Cuts source.toList cuts [])
    (hFaultless : ∀ s ∈ cuts, s.IsFaultless) :
    scan source =
      ⟨tokensOn 1 cuts ++
        [Token.endOfInput (lineAfter 1 cuts)], []⟩ := by
  rw [scan_eq_of_cuts hCuts, errorsOn_eq_nil hFaultless]

end LoxExpr
