import LoxExpr.Proofs.Grammar.Acceptance
import LoxExpr.Proofs.Grammar.Accounting
import LoxExpr.Proofs.Grammar.Ahead
import LoxExpr.Proofs.Grammar.Suffixes

/-
  This file says what it is for a reader to find its first
  error as early as it could: the tokens before the error are
  the beginning of a word, and with the token there they are
  the beginning of none, since every reading that sees them
  finds the same error first.

  Key definitions include:
    * `Phrase.Derivable`
    * `IsViable`
    * `IsEarliest`

  Main statements:
    * `exists_word_of_errors_eq_nil`
    * `IsEarliest.phrase_andThen`
    * `IsEarliest.passKind_andThen`
-/

namespace LoxExpr

------------------------------------------------------------
-- Readings without Errors
------------------------------------------------------------

/- The phrase has the word, with some tree. -/
def Phrase.Derivable
    (phrase : Phrase)
    (w : List Token) : Prop :=
  ∃ tree, Derives phrase.nonterminal w tree

@[simp] theorem Phrase.phrase_nonterminal
    (phrase : Phrase) :
    phrase.nonterminal.phrase = phrase := by
  cases phrase <;> rfl

/-
  A phrase that is read without errors has passed a word, and
  is read in the same way from every place where the word
  stands before the same token.
-/
theorem exists_word_of_errors_eq_nil
    {ending : Ending}
    {phrase : Phrase}
    {tokens : List Token}
    (hErrors : (readPhrase ending phrase tokens).errors = []) :
    ∃ w rest tree, tokens = w ++ rest ∧
      Derives phrase.nonterminal w tree ∧
      ∀ ending' rest', rest'.head? = rest.head? →
        readPhrase ending' phrase (w ++ rest') =
          .done (some tree) rest' := by
  have hTree :=
    (accounts_readPhrase ending phrase tokens).isSome_tree?
      hErrors
  rcases Option.isSome_iff_exists.mp hTree with
    ⟨tree, hSome⟩
  have hOk :
      (readPhrase ending phrase tokens).result =
        .ok (some tree) := by
    unfold Outcome.tree? at hSome
    split at hSome
    · exact nomatch hSome
    · rename_i hResult
      rw [hResult, hSome]
  have hStops := stopsAt_readPhrase hOk
  rcases derives_of_readPhrase hOk with
    ⟨w, rest, hSplit, hDone, hDerives⟩
  rw [hDone, Outcome.rest_done] at hStops
  refine ⟨w, rest, tree, hSplit, hDerives, ?_⟩
  intro ending' rest' hHead
  have hStart := phrase.phrase_nonterminal
  have hRead := readPhrase_of_derives ending' hDerives
    (hStart.symm ▸ hStops.of_head?_eq hHead)
  rwa [hStart] at hRead

------------------------------------------------------------
-- First Errors
------------------------------------------------------------

/- The first error of the first part is that of the whole. -/
theorem Outcome.head?_errors_andThen
    {o : Outcome}
    {e : SyntaxError}
    (hFirst : o.errors.head? = some e)
    (next : Option Expr → List Token → Outcome) :
    (o.andThen next).errors.head? = some e := by
  cases hResult : o.result with
  | error failure =>
      rw [andThen_of_error hResult]
      exact hFirst
  | ok tree =>
      rw [errors_andThen hResult, List.head?_append, hFirst]
      rfl

/- Some tokens complete those in front of them. -/
def IsViable
    (derivable : List Token → Prop)
    (front : List Token) : Prop :=
  ∃ suffix, derivable (front ++ suffix)

/- Nothing is missing behind a whole word. -/
theorem IsViable.of_derivable
    {derivable : List Token → Prop}
    {w : List Token}
    (hWord : derivable w) :
    IsViable derivable w :=
  ⟨[], by rwa [List.append_nil]⟩

/-
  If reading finds errors, the tokens before the first one
  can be completed, and from every place where they stand
  before the same token, the first error is the same one.
-/
def IsEarliest
    (ending : Ending)
    (derivable : List Token → Prop)
    (tokens : List Token)
    (read : Ending → List Token → Outcome) : Prop :=
  (read ending tokens).errors ≠ [] →
    ∃ fault front behind, tokens = front ++ behind ∧
      IsViable derivable front ∧
      ∀ ending' behind',
        SameNext ending behind ending' behind' →
          (read ending' (front ++ behind')).errors.head? =
            some (ending'.errorAt fault behind')

namespace IsEarliest

variable {ending : Ending}
variable {derivable : List Token → Prop}
variable {tokens more : List Token}
variable {token : Token}
variable {read read' : Ending → List Token → Outcome}

/- Readers that do the same find the same first error. -/
theorem congr
    (h : IsEarliest ending derivable tokens read)
    (hRead :
      ∀ ending' tokens',
        read' ending' tokens' = read ending' tokens') :
    IsEarliest ending derivable tokens read' := by
  have hSame : read' = read := by
    funext ending' tokens'
    exact hRead ending' tokens'
  rwa [hSame]

/- There is no error to be found. -/
theorem of_errors_eq_nil
    (hNone : (read ending tokens).errors = []) :
    IsEarliest ending derivable tokens read :=
  fun hErrors => absurd hNone hErrors

/- The first error is found at once. -/
theorem here
    (fault : SyntaxFault)
    (hViable : IsViable derivable [])
    (hRead :
      ∀ ending' tokens',
        SameNext ending tokens ending' tokens' →
          (read ending' tokens').errors.head? =
            some (ending'.errorAt fault tokens')) :
    IsEarliest ending derivable tokens read :=
  fun _ => ⟨fault, [], tokens, rfl, hViable, hRead⟩

/- A token is passed without an error. -/
theorem cons
    (h :
      IsEarliest ending (fun w => derivable (token :: w))
        more read)
    (hRead :
      ∀ ending' rest',
        read' ending' (token :: rest') =
          read ending' rest') :
    IsEarliest ending derivable (token :: more) read' := by
  intro hErrors
  rw [hRead] at hErrors
  rcases h hErrors with
    ⟨fault, front, behind, hSplit, ⟨suffix, hWord⟩, hAgain⟩
  refine ⟨fault, token :: front, behind, by rw [hSplit]; rfl,
    ⟨suffix, hWord⟩, ?_⟩
  intro ending' behind' hSame
  rw [List.cons_append, hRead]
  exact hAgain ending' behind' hSame

/-
  A phrase is read first.  If it finds an error, whatever
  completes the phrase has to be completed; otherwise the
  error is behind its word.
-/
theorem phrase_andThen
    {phrase : Phrase}
    (next : Ending → Option Expr → List Token → Outcome)
    (hPhrase :
      IsEarliest ending phrase.Derivable tokens
        fun ending' => readPhrase ending' phrase)
    (hViable :
      ∀ w, phrase.Derivable w → IsViable derivable w)
    (hNext :
      ∀ w rest tree, tokens = w ++ rest →
        Derives phrase.nonterminal w tree →
        IsEarliest ending (fun w' => derivable (w ++ w'))
          rest fun ending' => next ending' (some tree)) :
    IsEarliest ending derivable tokens
      fun ending' tokens' =>
        (readPhrase ending' phrase tokens').andThen
          (next ending') := by
  intro hErrors
  by_cases hNone :
      (readPhrase ending phrase tokens).errors = []
  · -- The phrase is a whole word, and the error is behind it.
    rcases exists_word_of_errors_eq_nil hNone with
      ⟨w, rest, tree, rfl, hDerives, hAgain⟩
    simp only [hAgain ending rest rfl, Outcome.andThen_done]
      at hErrors
    rcases hNext w rest tree rfl hDerives hErrors with
      ⟨fault, front, behind, rfl, ⟨suffix, hWord⟩, hRead⟩
    refine ⟨fault, w ++ front, behind,
      (List.append_assoc _ _ _).symm,
      ⟨suffix, by simpa using hWord⟩, ?_⟩
    intro ending' behind' hSame
    simp only [List.append_assoc,
      hAgain ending' _ (hSame.append front).head,
      Outcome.andThen_done]
    exact hRead ending' behind' hSame
  · -- The error is in the phrase: complete it, then the rest.
    rcases hPhrase hNone with
      ⟨fault, front, behind, hSplit, ⟨suffix, hWord⟩,
        hAgain⟩
    rcases hViable _ hWord with ⟨suffix', hWhole⟩
    refine ⟨fault, front, behind, hSplit,
      ⟨suffix ++ suffix', by simpa using hWhole⟩, ?_⟩
    intro ending' behind' hSame
    exact Outcome.head?_errors_andThen
      (hAgain ending' behind' hSame) _

/- A token is required first. -/
theorem passKind_andThen
    {kind : Kind}
    {message : String}
    (next : Ending → Option Expr → List Token → Outcome)
    (hViable : IsViable derivable [])
    (hNext :
      ∀ token more, tokens = token :: more →
        token.kind = kind →
        IsEarliest ending (fun w => derivable (token :: w))
          more fun ending' => next ending' none) :
    IsEarliest ending derivable tokens
      fun ending' tokens' =>
        (passKind ending' kind message tokens').andThen
          (next ending') := by
  rcases exists_cons_or_head? (·.kind = kind) tokens with
    ⟨token, more, rfl, hKind⟩ | hHead
  · refine (hNext token more rfl hKind).cons ?_
    intro ending' rest'
    rw [passKind_cons ending' message hKind,
      Outcome.andThen_done]
  · refine here (.expected message) hViable ?_
    intro ending' tokens' hSame
    have hMissed := passKind_of_head? ending' message
      (hSame.head ▸ hHead)
    simp only [hMissed, Outcome.andThen_failed]
    rfl

end IsEarliest

end LoxExpr
