import LoxExpr.Proofs.Lexical.Longest
import LoxExpr.Text.Quoted
import Mathlib.Data.Bool.AllAny

/-
  This file shows that quoted text can be undone.  Each form
  of a character ends where it says, so the first quote that
  is no part of such a form is the closing one.  No form has
  a line break in it.

  Key definitions include:
    * `Text.letters`
    * `Text.IsForm`
    * `Text.IsBreak`

  Main statements:
    * `Text.IsForm.append_inj`
    * `Text.quoted_append_inj`
    * `Text.not_isBreak_of_mem_quoted`
-/

namespace LoxExpr

namespace Text

------------------------------------------------------------
-- Hexadecimal Digits
------------------------------------------------------------

theorem digitChar_injective :
    ∀ a < 16, ∀ b < 16,
      Nat.digitChar a = Nat.digitChar b → a = b := by
  decide

theorem digitChar_ne_brace :
    ∀ a < 16, Nat.digitChar a ≠ '\x7d' := by
  decide

theorem mem_toDigits
    {c : Char}
    {n : Nat}
    (hMem : c ∈ Nat.toDigits 16 n) :
    ∃ digit < 16, c = Nat.digitChar digit := by
  induction n using Nat.strongRecOn with
  | ind n ih =>
      rw [Nat.toDigits_eq_if (by decide)] at hMem
      split at hMem
      · rename_i hLess
        exact ⟨n, hLess, List.mem_singleton.mp hMem⟩
      · rcases List.mem_append.mp hMem with hFront | hLast
        · exact ih (n / 16) (by omega) hFront
        · exact ⟨n % 16, Nat.mod_lt n (by decide),
            List.mem_singleton.mp hLast⟩

/- Hexadecimal digits tell natural numbers apart. -/
theorem toDigits_injective
    {n m : Nat}
    (hSame : Nat.toDigits 16 n = Nat.toDigits 16 m) :
    n = m := by
  induction n using Nat.strongRecOn generalizing m with
  | ind n ih =>
      -- Numbers with one digit are those below sixteen.
      have hOne (n : Nat) :
          (Nat.toDigits 16 n).length ≤ 1 ↔ n < 16 ^ 1 :=
        Nat.length_toDigits_le_iff (by decide) (by decide)
      have hSmall : n < 16 ↔ m < 16 := by
        rw [← Nat.pow_one 16, ← hOne n, hSame, hOne m]
      by_cases hLess : n < 16
      · have hLess' := hSmall.mp hLess
        rw [Nat.toDigits_of_lt_base hLess,
          Nat.toDigits_of_lt_base hLess'] at hSame
        exact digitChar_injective n hLess m hLess'
          (List.singleton_inj.mp hSame)
      · have hMore := Nat.not_lt.mp hLess
        have hMore' := Nat.not_lt.mp (mt hSmall.mpr hLess)
        rw [Nat.toDigits_of_base_le (by decide) hMore,
          Nat.toDigits_of_base_le (by decide) hMore'] at hSame
        rcases List.append_singleton_inj.mp hSame with
          ⟨hFront, hLast⟩
        have hDiv := ih (n / 16) (by omega) hFront
        have hMod := digitChar_injective
          _ (Nat.mod_lt n (by decide))
          _ (Nat.mod_lt m (by decide)) hLast
        omega

------------------------------------------------------------
-- Forms of One Character
------------------------------------------------------------

/- The characters with a letter, each with its letter. -/
def letters : List (Char × Char) :=
  [('"', '"'), ('\\', '\\'), ('\t', 't'), ('\r', 'r'),
   ('\n', 'n'), ('\x00', '0')]

theorem mem_letters
    {c letter : Char}
    (hLetter : escapeLetter? c = some letter) :
    (c, letter) ∈ letters := by
  unfold escapeLetter? at hLetter
  split at hLetter <;> cases hLetter <;> decide

/- A character without a letter is none of those with one. -/
theorem notMem_letters
    {c : Char}
    (hPlain : escapeLetter? c = none) :
    c ∉ letters.map Prod.fst := by
  intro hMem
  rcases List.mem_map.mp hMem with ⟨pair, hPair, rfl⟩
  have hLetters :
      ∀ pair ∈ letters, escapeLetter? pair.1 ≠ none := by
    decide
  exact hLetters pair hPair hPlain

/- The form of a character: by letter, by number, or bare. -/
inductive IsForm (c : Char) : List Char → Prop where
| letter (letter : Char) :
    (c, letter) ∈ letters →
    IsForm c ['\\', letter]
| number :
    IsForm c (escapeNumber c)
| bare :
    c ∉ letters.map Prod.fst →
    IsForm c [c]

theorem isForm_escapeChar (c : Char) :
    IsForm c (escapeChar c) := by
  rw [escapeChar]
  cases hLetter : escapeLetter? c with
  | some letter => exact .letter letter (mem_letters hLetter)
  | none =>
      dsimp only
      split
      · exact .number
      · exact .bare (notMem_letters hLetter)

/- The digits of a number stand between braces. -/
theorem escapeNumber_eq (c : Char) :
    escapeNumber c =
      ['\\', 'u', '\x7b'] ++
        (Nat.toDigits 16 c.toNat ++ ['\x7d']) :=
  rfl

/- The number of a character ends with its brace. -/
theorem escapeNumber_append_inj
    {c c' : Char}
    {rest rest' : List Char}
    (hSame :
      escapeNumber c ++ rest = escapeNumber c' ++ rest') :
    c = c' ∧ rest = rest' := by
  have hDigit : ∀ n, ∀ d ∈ Nat.toDigits 16 n, d ≠ '\x7d' := by
    intro n d hMem
    rcases mem_toDigits hMem with ⟨digit, hLess, rfl⟩
    exact digitChar_ne_brace digit hLess
  simp only [escapeNumber_eq, List.append_assoc] at hSame
  rcases append_inj_of_head? (hDigit _) (hDigit _) (by simp)
      (by simp) (List.append_cancel_left hSame) with
    ⟨hDigits, hRest⟩
  exact ⟨Char.toNat_inj.mp (toDigits_injective hDigits),
    (List.cons.inj hRest).2⟩

/- No letter is that of a number. -/
theorem cons_letter_ne_escapeNumber
    {c c' letter : Char}
    {rest rest' : List Char}
    (hMem : (c, letter) ∈ letters) :
    ['\\', letter] ++ rest ≠ escapeNumber c' ++ rest' := by
  intro hSame
  have hLetter : letter = 'u' :=
    (List.cons.inj (List.cons.inj hSame).2).1
  have hOther : ∀ pair ∈ letters, pair.2 ≠ 'u' := by decide
  exact hOther _ hMem hLetter

/- A bare character is no backslash. -/
theorem bare_ne_backslash
    {c : Char}
    {rest rest' : List Char}
    (hBare : c ∉ letters.map Prod.fst) :
    [c] ++ rest ≠ '\\' :: rest' := by
  intro hSame
  rw [(List.cons.inj hSame).1] at hBare
  exact hBare (by decide)

/- Forms of two characters do not begin alike. -/
theorem IsForm.append_inj
    {c c' : Char}
    {form form' rest rest' : List Char}
    (hForm : IsForm c form)
    (hForm' : IsForm c' form')
    (hSame : form ++ rest = form' ++ rest') :
    c = c' ∧ rest = rest' := by
  cases hForm with
  | letter letter hMem =>
      cases hForm' with
      | letter letter' hMem' =>
          rcases List.cons.inj (List.cons.inj hSame).2 with
            ⟨rfl, hRest⟩
          have hUnique : ∀ p ∈ letters, ∀ q ∈ letters,
              p.2 = q.2 → p.1 = q.1 := by
            decide
          exact ⟨hUnique _ hMem _ hMem' rfl, hRest⟩
      | number =>
          exact absurd hSame (cons_letter_ne_escapeNumber hMem)
      | bare hBare =>
          exact absurd hSame.symm (bare_ne_backslash hBare)
  | number =>
      cases hForm' with
      | letter letter' hMem' =>
          exact absurd hSame.symm
            (cons_letter_ne_escapeNumber hMem')
      | number => exact escapeNumber_append_inj hSame
      | bare hBare =>
          exact absurd hSame.symm (bare_ne_backslash hBare)
  | bare hBare =>
      cases hForm' with
      | letter letter' hMem' =>
          exact absurd hSame (bare_ne_backslash hBare)
      | number => exact absurd hSame (bare_ne_backslash hBare)
      | bare hBare => exact List.cons.inj hSame

/- No form begins with the closing quote. -/
theorem IsForm.append_ne_quote
    {c : Char}
    {form rest rest' : List Char}
    (hForm : IsForm c form) :
    form ++ rest ≠ '"' :: rest' := by
  intro hSame
  cases hForm with
  | letter letter hMem =>
      exact absurd (List.cons.inj hSame).1 (by decide)
  | number => exact absurd (List.cons.inj hSame).1 (by decide)
  | bare hBare =>
      rw [(List.cons.inj hSame).1] at hBare
      exact hBare (by decide)

/- The characters that end a line. -/
def IsBreak (c : Char) : Prop :=
  c = '\n' ∨ c = '\r'

instance : DecidablePred IsBreak :=
  fun _ => inferInstanceAs (Decidable (_ ∨ _))

theorem IsForm.not_isBreak
    {c d : Char}
    {form : List Char}
    (hForm : IsForm c form)
    (hMem : d ∈ form) :
    ¬ IsBreak d := by
  cases hForm with
  | letter letter hLetter =>
      have hLetters : ∀ pair ∈ letters, ¬ IsBreak pair.2 := by
        decide
      rcases List.mem_cons.mp hMem with rfl | hMem
      · decide
      · rw [List.mem_singleton.mp hMem]
        exact hLetters _ hLetter
  | number =>
      have hMarks : ∀ d ∈ ['\\', 'u', '\x7b'], ¬ IsBreak d :=
        List.all_iff_forall_prop.mp (by decide)
      have hDigits : ∀ digit < 16,
          ¬ IsBreak (Nat.digitChar digit) := by
        decide
      rw [escapeNumber_eq, List.mem_append,
        List.mem_append] at hMem
      rcases hMem with hMark | hDigit | hBrace
      · exact hMarks d hMark
      · rcases mem_toDigits hDigit with ⟨digit, hLess, rfl⟩
        exact hDigits digit hLess
      · rw [List.mem_singleton.mp hBrace]
        decide
  | bare hBare =>
      rw [List.mem_singleton.mp hMem]
      rintro (rfl | rfl)
      · exact hBare (by decide)
      · exact hBare (by decide)

------------------------------------------------------------
-- Quoted Texts
------------------------------------------------------------

/- The first quote that is no part of a form is the end. -/
theorem escape_append_inj
    {text text' rest rest' : List Char}
    (hSame :
      escape text ++ '"' :: rest =
        escape text' ++ '"' :: rest') :
    text = text' ∧ rest = rest' := by
  induction text generalizing text' with
  | nil =>
      cases text' with
      | nil => exact ⟨rfl, (List.cons.inj hSame).2⟩
      | cons c' text' =>
          rw [escape, escape, List.flatMap_cons,
            List.append_assoc] at hSame
          exact absurd hSame.symm
            (isForm_escapeChar c').append_ne_quote
  | cons c text ih =>
      rw [escape, List.flatMap_cons, List.append_assoc] at hSame
      cases text' with
      | nil =>
          exact absurd hSame
            (isForm_escapeChar c).append_ne_quote
      | cons c' text' =>
          rw [escape, List.flatMap_cons,
            List.append_assoc] at hSame
          rcases (isForm_escapeChar c).append_inj
              (isForm_escapeChar c') hSame with
            ⟨rfl, hMore⟩
          rcases ih hMore with ⟨rfl, hRest⟩
          exact ⟨rfl, hRest⟩

/- Quoted text shows where it ends, and what is quoted. -/
theorem quoted_append_inj
    {text text' : String}
    {rest rest' : List Char}
    (hSame :
      (quoted text).toList ++ rest =
        (quoted text').toList ++ rest') :
    text = text' ∧ rest = rest' := by
  simp only [quoted, String.toList_ofList, List.cons_append,
    List.append_assoc, List.nil_append] at hSame
  rcases escape_append_inj (List.cons.inj hSame).2 with
    ⟨hText, hRest⟩
  exact ⟨String.toList_inj.mp hText, hRest⟩

/- Quoted text stays on one line. -/
theorem not_isBreak_of_mem_quoted
    {text : String}
    {c : Char}
    (hMem : c ∈ (quoted text).toList) :
    ¬ IsBreak c := by
  have hQuote : ¬ IsBreak '"' := by decide
  rw [quoted, String.toList_ofList] at hMem
  rcases List.mem_cons.mp hMem with rfl | hMem
  · exact hQuote
  · rcases List.mem_append.mp hMem with hEscape | hEnd
    · rcases List.mem_flatMap.mp hEscape with ⟨d, _, hForm⟩
      exact (isForm_escapeChar d).not_isBreak hForm
    · rwa [List.mem_singleton.mp hEnd]

end Text

end LoxExpr
