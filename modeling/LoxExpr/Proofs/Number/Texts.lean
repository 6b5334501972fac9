import LoxExpr.Proofs.Number.Bits
import LoxExpr.Proofs.Number.Layouts

/-
  This file shows that the texts of numbers tell the numbers
  apart, the two zeros included.  It does so at once for every
  layout that tells magnitudes apart, and both layouts do.

  Key definitions include:
    * `IsNumberChar`
    * `Double.IsForm`

  Main statements:
    * `Double.IsForm.textWith_injective`
    * `Double.isForm_plain`
    * `Double.isForm_layout`
    * `Double.value_plain_shortest`
-/

namespace LoxExpr

/- The characters that the texts of numbers have. -/
def IsNumberChar (c : Char) : Prop :=
  c.isDigit = true ∨ c ∈ ['.', 'e', '-', 'i', 'n', 'f']

instance : DecidablePred IsNumberChar :=
  fun _ => inferInstanceAs (Decidable (_ ∨ _))

/- A numeral is not empty, and begins with a digit. -/
theorem IsNumeral.exists_cons
    {w : List Char}
    (hNumeral : IsNumeral w) :
    ∃ c more, w = c :: more ∧ c.isDigit = true := by
  cases w with
  | nil =>
      rcases hNumeral with hDigits | ⟨w, v, _, _, hSplit⟩
      · exact absurd rfl hDigits.1
      · simp at hSplit
  | cons c more => exact ⟨c, more, rfl, hNumeral.isDigit_head⟩

namespace Decimal

theorem isNumberChar_of_mem_plain
    {d : Decimal}
    {c : Char}
    (hMem : c ∈ d.plain) :
    IsNumberChar c := by
  rcases d.isNumeral_plain.isDigit_or_point c hMem with
    hDigit | rfl
  · exact Or.inl hDigit
  · exact Or.inr (by decide)

theorem isNumberChar_of_mem_scientific
    {d : Decimal}
    {c : Char}
    (hMem : c ∈ d.scientific) :
    IsNumberChar c := by
  rw [scientific_eq] at hMem
  rcases List.mem_append.mp hMem with hMantissa | hPower
  · rcases mem_mantissa hMantissa with hDigit | rfl
    · exact Or.inl ((isDigits_digitChars _).2 c hDigit)
    · exact Or.inr (by decide)
  · rcases List.mem_cons.mp hPower with rfl | hInt
    · exact Or.inr (by decide)
    · rcases mem_intChars hInt with hDigit | rfl
      · exact Or.inl hDigit
      · exact Or.inr (by decide)

theorem exists_digit_scientific (d : Decimal) :
    ∃ c more, d.scientific = c :: more ∧
      c.isDigit = true := by
  have hDigits := isDigits_digitChars d.digits
  rw [scientific]
  cases hChars : digitChars d.digits with
  | nil => exact absurd hChars hDigits.1
  | cons lead more =>
      exact ⟨lead, _, rfl,
        hDigits.2 lead (by rw [hChars]; exact List.mem_cons_self)⟩

/- A power of ten shows. -/
theorem plain_ne_scientific (d d' : Decimal) :
    d.plain ≠ d'.scientific := by
  intro hSame
  have hMem : 'e' ∈ d.plain := by
    rw [hSame, scientific_eq]
    simp
  have hChar := d.isNumeral_plain.isDigit_or_point 'e' hMem
  exact absurd hChar (by decide)

end Decimal

namespace Double

------------------------------------------------------------
-- Layouts of Magnitudes
------------------------------------------------------------

/-
  A layout that may depend on the magnitude.  It begins with
  a digit and tells magnitudes apart.
-/
structure IsForm
    (form : Nat → Decimal → List Char) : Prop where
  starts : ∀ bits, ∃ c more,
    form bits (shortest bits) = c :: more ∧ c.isDigit = true
  chars : ∀ bits, ∀ c ∈ form bits (shortest bits),
    IsNumberChar c
  injective : ∀ bits ≤ infinity, ∀ bits' ≤ infinity,
    form bits (shortest bits) = form bits' (shortest bits') →
      bits = bits'

/- The shortest decimal tells magnitudes apart. -/
theorem eq_of_shortest_eq
    {bits bits' : Nat}
    (hBits : bits ≤ infinity)
    (hBits' : bits' ≤ infinity)
    (hSame : shortest bits = shortest bits') :
    bits = bits' := by
  rw [← nearestMagnitude_shortest hBits, hSame,
    nearestMagnitude_shortest hBits']

/- The numeral of a magnitude is rounded to it. -/
theorem nearestMagnitude_plain
    {bits : Nat}
    (hBits : bits ≤ infinity) :
    (Numeral.toDecimal
      (shortest bits).plain).nearestMagnitude = bits := by
  rw [(shortest bits).sameValue_plain.nearestMagnitude_eq,
    nearestMagnitude_shortest hBits]

theorem eq_of_plain_eq
    {bits bits' : Nat}
    (hBits : bits ≤ infinity)
    (hBits' : bits' ≤ infinity)
    (hSame : (shortest bits).plain = (shortest bits').plain) :
    bits = bits' := by
  rw [← nearestMagnitude_plain hBits, hSame,
    nearestMagnitude_plain hBits']

theorem isForm_plain : IsForm fun _ => Decimal.plain where
  starts bits := (shortest bits).isNumeral_plain.exists_cons
  chars _ _ hMem := Decimal.isNumberChar_of_mem_plain hMem
  injective _ hBits _ hBits' := eq_of_plain_eq hBits hBits'

theorem isForm_layout : IsForm layout where
  starts bits := by
    rw [layout]
    split
    · exact (shortest bits).isNumeral_plain.exists_cons
    · exact (shortest bits).exists_digit_scientific
  chars bits c hMem := by
    rw [layout] at hMem
    split at hMem
    · exact Decimal.isNumberChar_of_mem_plain hMem
    · exact Decimal.isNumberChar_of_mem_scientific hMem
  injective bits hBits bits' hBits' hSame := by
    rw [layout, layout] at hSame
    split at hSame
    · split at hSame
      · exact eq_of_plain_eq hBits hBits' hSame
      · exact absurd hSame (Decimal.plain_ne_scientific _ _)
    · split at hSame
      · exact absurd hSame.symm
          (Decimal.plain_ne_scientific _ _)
      · exact eq_of_shortest_eq hBits hBits'
          (Decimal.scientific_injective hSame)

------------------------------------------------------------
-- Texts of Numbers
------------------------------------------------------------

/- What stands behind the sign of a number. -/
def body
    (form : Nat → Decimal → List Char)
    (bits : Nat) : List Char :=
  if bits = infinity then ['i', 'n', 'f']
  else form bits (shortest bits)

theorem magnitude_le
    {x : Float}
    (hNumber : x.isNaN = false) :
    magnitude x ≤ infinity := by
  rw [← Nat.not_lt, ← isNaN_iff, hNumber]
  exact Bool.false_ne_true

/- The text of a number is its sign and its body. -/
theorem textWith_eq
    (form : Nat → Decimal → List Char)
    {x : Float}
    (hNumber : x.isNaN = false) :
    textWith (form (magnitude x)) x =
      String.ofList
        (signChars x ++ body form (magnitude x)) := by
  have hLe := magnitude_le hNumber
  rw [textWith, body, if_neg (Nat.not_lt.mpr hLe)]
  split <;> rfl

namespace IsForm

variable {form : Nat → Decimal → List Char}

/- A body begins with a digit or with the letter `i`. -/
theorem exists_head
    (hForm : IsForm form)
    (bits : Nat) :
    ∃ c more, body form bits = c :: more ∧
      (c.isDigit = true ∨ c = 'i') := by
  rw [body]
  split
  · exact ⟨'i', _, rfl, Or.inr rfl⟩
  · rcases hForm.starts bits with ⟨c, more, hBody, hDigit⟩
    exact ⟨c, more, hBody, Or.inl hDigit⟩

theorem body_ne_minus
    (hForm : IsForm form)
    (bits : Nat)
    (rest : List Char) :
    body form bits ≠ '-' :: rest := by
  intro hBody
  rcases hForm.exists_head bits with ⟨c, more, hHead, hChar⟩
  rw [hHead] at hBody
  rw [(List.cons.inj hBody).1] at hChar
  exact absurd hChar (by decide)

theorem body_injective
    (hForm : IsForm form)
    {bits bits' : Nat}
    (hBits : bits ≤ infinity)
    (hBits' : bits' ≤ infinity)
    (hSame : body form bits = body form bits') :
    bits = bits' := by
  -- A digit is not the letter `i`.
  have hDigit : ∀ bits,
      form bits (shortest bits) ≠ ['i', 'n', 'f'] := by
    intro bits hLetters
    rcases hForm.starts bits with ⟨c, more, hForm, hChar⟩
    rw [hForm] at hLetters
    rw [(List.cons.inj hLetters).1] at hChar
    exact absurd hChar (by decide)
  rw [body, body] at hSame
  split at hSame
  · rename_i hInfinite
    split at hSame
    · rename_i hInfinite'
      rw [hInfinite, hInfinite']
    · exact absurd hSame.symm (hDigit bits')
  · split at hSame
    · exact absurd hSame (hDigit bits)
    · exact hForm.injective bits hBits bits' hBits' hSame

theorem isNumberChar_of_mem_textWith
    (hForm : IsForm form)
    {x : Float}
    (hNumber : x.isNaN = false)
    {c : Char}
    (hMem : c ∈ (textWith (form (magnitude x)) x).toList) :
    IsNumberChar c := by
  rw [textWith_eq form hNumber, String.toList_ofList] at hMem
  rcases List.mem_append.mp hMem with hSign | hBody
  · rw [signChars] at hSign
    split at hSign
    · rw [List.mem_singleton.mp hSign]
      exact Or.inr (by decide)
    · exact nomatch hSign
  · rw [body] at hBody
    split at hBody
    · exact Or.inr (List.mem_of_mem_drop (i := 3) hBody)
    · exact hForm.chars _ c hBody

/- A name with another character is no text of a number. -/
theorem textWith_ne
    (hForm : IsForm form)
    {x : Float}
    (hNumber : x.isNaN = false)
    {name : String}
    (hName :
      (name.toList.all fun c => IsNumberChar c) = false) :
    textWith (form (magnitude x)) x ≠ name := by
  intro hText
  have hChars : ∀ c ∈ name.toList, IsNumberChar c := by
    rw [← hText]
    exact fun c => hForm.isNumberChar_of_mem_textWith hNumber
  rw [List.all_iff_forall_prop.mpr hChars] at hName
  exact Bool.false_ne_true hName.symm

theorem exists_cons_textWith
    (hForm : IsForm form)
    {x : Float}
    (hNumber : x.isNaN = false) :
    ∃ c more,
      (textWith (form (magnitude x)) x).toList = c :: more ∧
        IsNumberChar c := by
  cases hText : (textWith (form (magnitude x)) x).toList with
  | nil =>
      rcases hForm.exists_head (magnitude x) with
        ⟨c, more, hBody, _⟩
      rw [textWith_eq form hNumber, String.toList_ofList,
        hBody] at hText
      exact absurd hText (by simp)
  | cons c more =>
      refine ⟨c, more, rfl,
        hForm.isNumberChar_of_mem_textWith hNumber ?_⟩
      rw [hText]
      exact List.mem_cons_self

/- The texts of numbers tell the numbers apart. -/
theorem textWith_injective
    (hForm : IsForm form)
    {x y : Float}
    (hx : x.isNaN = false)
    (hy : y.isNaN = false)
    (hSame :
      textWith (form (magnitude x)) x =
        textWith (form (magnitude y)) y) :
    x = y := by
  rw [textWith_eq form hx, textWith_eq form hy,
    String.ofList_inj, signChars, signChars] at hSame
  have hBody : body form (magnitude x) =
        body form (magnitude y) ∧
      isNegative x = isNegative y := by
    cases hSignX : isNegative x with
    | true =>
        cases hSignY : isNegative y with
        | true =>
            simpa [hSignX, hSignY] using hSame
        | false =>
            rw [hSignX, hSignY] at hSame
            exact absurd hSame.symm (hForm.body_ne_minus _ _)
    | false =>
        cases hSignY : isNegative y with
        | true =>
            rw [hSignX, hSignY] at hSame
            exact absurd hSame (hForm.body_ne_minus _ _)
        | false =>
            simpa [hSignX, hSignY] using hSame
  exact eq_of_magnitude_eq
    (hForm.body_injective (magnitude_le hx) (magnitude_le hy)
      hBody.1) hBody.2

end IsForm

------------------------------------------------------------
-- Numerals of Numbers
------------------------------------------------------------

/- The value of a numeral is a number. -/
theorem isNaN_value (w : List Char) :
    (Numeral.value w).isNaN = false := by
  have hBits := (Numeral.toDecimal w).nearestMagnitude_le
  rw [← Bool.not_eq_true, isNaN_iff, Numeral.value,
    Decimal.toDouble, (magnitude_ofMagnitude hBits).1]
  exact Nat.not_lt.mpr hBits

/- The numeral of a magnitude has its value. -/
theorem value_plain_shortest
    {bits : Nat}
    (hBits : bits ≤ infinity) :
    Numeral.value (shortest bits).plain =
      ofMagnitude bits := by
  rw [Numeral.value, Decimal.toDouble,
    nearestMagnitude_plain hBits]

end Double

end LoxExpr
