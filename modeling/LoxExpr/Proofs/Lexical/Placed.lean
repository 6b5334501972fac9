import LoxExpr.Proofs.Lexical.First

/-
  This file takes scanning apart: it cuts a source, places
  the segments on lines, and lists the tokens and the errors
  of what is placed.  The lines that are counted while a
  segment is read are the line feeds of the segment.

  Key definitions include:
    * `Segment.lineFeeds`
    * `Placed`
    * `placed`
    * `lineAfter`
    * `tokensOn`
    * `errorsOn`

  Main statements:
    * `Segment.lineThroughComment_eq`
    * `Segment.lineThroughString_eq`
    * `Segment.lineThrough_eq`
    * `scanFrom_eq`
-/

namespace LoxExpr

------------------------------------------------------------
-- Line Feeds of Segments
------------------------------------------------------------

namespace Segment

/- The number of line feeds in a segment. -/
def lineFeeds (s : Segment) : Nat :=
  s.text.count '\n'

/- In a block comment, line feeds count up to the first end. -/
theorem lineThroughComment_eq
    (line : Nat)
    (source : List Char) :
    lineThroughComment line source =
      line +
        ((throughClose? source).getD source).count '\n' := by
  fun_induction lineThroughComment line source with
  | case1 => rfl
  | case2 => rfl
  | case3 line rest hNot ih =>
      rw [ih, throughClose?]
      · cases throughClose? rest with
        | none => simp; omega
        | some body => simp; omega
      · exact hNot
  | case4 line c rest hNot hFeed ih =>
      rw [ih, throughClose?]
      · cases throughClose? rest with
        | none => simp [List.count_cons_of_ne hFeed]
        | some body => simp [List.count_cons_of_ne hFeed]
      · exact hNot

/- In a string, they count up to the next quote. -/
theorem lineThroughString_eq
    (line : Nat)
    (source : List Char) :
    lineThroughString line source =
      line +
        (source.takeWhile fun c => c != '"').count '\n' := by
  fun_induction lineThroughString line source with
  | case1 => rfl
  | case2 => rfl
  | case3 line rest hQuote ih =>
      rw [ih, List.takeWhile_cons_of_pos (by decide),
        List.count_cons_self]
      omega
  | case4 line c rest hQuote hFeed ih =>
      rw [ih,
        List.takeWhile_cons_of_pos (by simpa using hQuote),
        List.count_cons_of_ne hFeed]

------------------------------------------------------------
-- Lines Behind Segments
------------------------------------------------------------

/- The line reached through a string counts its line feeds. -/
theorem lineThroughString_string
    (line : Nat)
    (rest : List Char) :
    lineThroughString line rest =
      line + (string rest).lineFeeds := by
  rw [lineThroughString_eq, string]
  split
  · simp [lineFeeds, text]
  · rename_i hOpen
    have hAll : ∀ c ∈ rest, (c != '"') = true := by
      intro c hMem
      rw [bne_iff_ne]
      rintro rfl
      exact hOpen hMem
    rw [List.takeWhile_eq_self_iff.mpr hAll]
    simp [lineFeeds, text]

/- So does the line reached through a block comment. -/
theorem lineThroughComment_slash
    (line : Nat)
    (more : List Char) :
    lineThroughComment line more =
      line + (slash ('*' :: more)).lineFeeds := by
  rw [lineThroughComment_eq, slash]
  cases throughClose? more with
  | none => simp [lineFeeds, text]
  | some body => simp [lineFeeds, text]

/- Behind any other slash, the line is the same. -/
theorem lineFeeds_slash_eq_zero
    {rest : List Char}
    (hBlock : ∀ more, rest ≠ '*' :: more) :
    (slash rest).lineFeeds = 0 := by
  apply List.count_eq_zero.mpr
  unfold slash
  split
  · rename_i more
    have hLine : '\n' ∉ more.takeWhile fun c => c != '\n' :=
      fun hMem => absurd (of_mem_takeWhile hMem) (by decide)
    simpa [text] using hLine
  · rename_i more
    exact absurd rfl (hBlock more)
  · simp [text]

/-
  A segment that is next has no line feeds, unless it begins
  with one, with a quote or with a slash.
-/
theorem IsNext.lineFeeds_eq_zero
    {s : Segment}
    {more : List Char}
    (hNext : s.IsNext more)
    (hFeed : s.head ≠ '\n')
    (hQuote : s.head ≠ '"')
    (hSlash : s.head ≠ '/') :
    s.lineFeeds = 0 := by
  have hBlank : '\n' ∈ blanks := by decide
  apply List.count_eq_zero.mpr
  intro hMem
  cases hNext with
  | blank _ => exact hFeed (List.mem_singleton.mp hMem).symm
  | numeral hLongest =>
      exact hLongest.1.not_mem_blanks _ hMem hBlank
  | word hLongest _ =>
      exact hLongest.1.not_mem_blanks _ hMem hBlank
  | operator hEntry _ _ =>
      exact not_mem_blanks_of_operator ⟨_, hEntry⟩ _ hMem
        hBlank
  | unexpected _ _ _ _ _ =>
      exact hFeed (List.mem_singleton.mp hMem).symm
  | string _ => exact hQuote rfl
  | openString _ => exact hQuote rfl
  | lineComment _ _ => exact hSlash rfl
  | blockComment _ => exact hSlash rfl
  | openComment _ => exact hSlash rfl

/-
  The line that is counted while a segment is read has the
  line feeds of that segment.
-/
theorem lineThrough_eq
    (line : Nat)
    (c : Char)
    (rest : List Char) :
    lineThrough line c rest =
      line + (first c rest).lineFeeds := by
  unfold lineThrough
  split
  · rename_i hFeed
    subst hFeed
    rfl
  rename_i hFeed
  split
  · rename_i hQuote
    subst hQuote
    exact lineThroughString_string line rest
  rename_i hQuote
  split
  · rename_i hSlash
    subst hSlash
    rw [first_slash]
    split
    · exact lineThroughComment_slash line _
    · rename_i hBlock
      rw [lineFeeds_slash_eq_zero hBlock]
      rfl
  · rename_i hSlash
    have hHead := head_first c rest
    have hZero : (first c rest).lineFeeds = 0 :=
      (isNext_first c rest).lineFeeds_eq_zero
        (by rwa [hHead]) (by rwa [hHead]) (by rwa [hHead])
    rw [hZero]
    rfl

end Segment

------------------------------------------------------------
-- Segments with Lines
------------------------------------------------------------

/- A segment and the line of its first character. -/
structure Placed where
  line : Nat
  segment : Segment

/- Number the lines of segments, from a given line on. -/
def placed (line : Nat) : List Segment → List Placed
| [] => []
| s :: rest => ⟨line, s⟩ :: placed (line + s.lineFeeds) rest

/- The line behind segments that begin on a given line. -/
def lineAfter (line : Nat) : List Segment → Nat
| [] => line
| s :: rest => lineAfter (line + s.lineFeeds) rest

namespace Placed

/- The token of a segment, on the line where it begins. -/
def token? (p : Placed) : Option Token :=
  p.segment.tokenOn? p.line

/- The error of a segment, on the line where it ends. -/
def error? (p : Placed) : Option LexicalError :=
  p.segment.errorOn? (p.line + p.segment.lineFeeds)

end Placed

/- What belongs to the first segment goes in front. -/
theorem filterMap_placed_cons
    {α : Type}
    (f : Placed → Option α)
    (line : Nat)
    (first : Segment)
    (cuts : List Segment) :
    (placed line (first :: cuts)).filterMap f =
      (f ⟨line, first⟩).toList ++
        (placed (line + first.lineFeeds) cuts).filterMap
          f := by
  rw [placed, List.filterMap_cons]
  cases f ⟨line, first⟩ <;> rfl

/- The tokens of cuts that begin on a line. -/
def tokensOn
    (line : Nat)
    (cuts : List Segment) : List Token :=
  (placed line cuts).filterMap Placed.token?

/- The errors of cuts that begin on a line. -/
def errorsOn
    (line : Nat)
    (cuts : List Segment) : List LexicalError :=
  (placed line cuts).filterMap Placed.error?

/-
  From any line on, scanning gives the tokens and the errors
  of the segments that are placed.
-/
theorem scanFrom_eq
    (line : Nat)
    (source : List Char) :
    scanFrom line source =
      ⟨tokensOn line (segments source) ++
          [.endOfInput (lineAfter line (segments source))],
        errorsOn line (segments source)⟩ := by
  fun_induction scanFrom line source with
  | case1 line =>
      simp [segments, tokensOn, errorsOn, placed, lineAfter]
  | case2 line c rest s reached more ih =>
      have hReached : reached = line + s.lineFeeds :=
        Segment.lineThrough_eq line c rest
      rw [segments_cons, tokensOn, errorsOn,
        filterMap_placed_cons, filterMap_placed_cons,
        lineAfter]
      simp only [more, ih, hReached, List.append_assoc]
      rfl

/- Scanning lists the tokens of the segments, and the end. -/
theorem tokens_scan (source : String) :
    (scan source).tokens =
      tokensOn 1 (segments source.toList) ++
        [.endOfInput
          (lineAfter 1 (segments source.toList))] := by
  rw [scan, scanFrom_eq]

/- It lists the errors of the segments. -/
theorem errors_scan (source : String) :
    (scan source).errors =
      errorsOn 1 (segments source.toList) := by
  rw [scan, scanFrom_eq]

end LoxExpr
