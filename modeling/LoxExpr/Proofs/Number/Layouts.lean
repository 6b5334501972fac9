import Mathlib.Data.List.TakeWhile
import LoxExpr.Proofs.Lexical.Longest
import LoxExpr.Proofs.Number.Rounding

/-
  This file is about the two ways to lay out a decimal value.
  In positional notation it is a numeral with that value; the
  digits and the power of ten of the other notation can be
  read off.

  Key definitions include:
    * `Decimal.IsPlain`
    * `Decimal.mantissa`

  Main statements:
    * `Decimal.isNumeral_plain`
    * `Decimal.sameValue_plain`
    * `Decimal.scientific_injective`
-/

namespace LoxExpr

namespace Decimal

------------------------------------------------------------
-- Digits
------------------------------------------------------------

theorem isDigits_digitChars (n : Nat) :
    IsDigits (digitChars n) :=
  ⟨Nat.toDigits_ne_nil, fun _ hMem =>
    Nat.isDigit_of_mem_toDigits (by decide) (by decide) hMem⟩

theorem ofDigitChars_digitChars (n : Nat) :
    Nat.ofDigitChars 10 (digitChars n) 0 = n :=
  Nat.ofDigitChars_ten_toDigits

/- Digits tell natural numbers apart. -/
theorem digitChars_injective
    {n n' : Nat}
    (hSame : digitChars n = digitChars n') :
    n = n' := by
  rw [← ofDigitChars_digitChars n, hSame,
    ofDigitChars_digitChars]

theorem isDigit_of_mem_replicate
    {n : Nat}
    {c : Char}
    (hMem : c ∈ List.replicate n '0') :
    c.isDigit = true := by
  rw [List.eq_of_mem_replicate hMem]
  decide

theorem isDigits_append_zeros (n zeros : Nat) :
    IsDigits (digitChars n ++ List.replicate zeros '0') := by
  have hDigits := isDigits_digitChars n
  refine ⟨List.append_ne_nil_of_left_ne_nil hDigits.1 _, ?_⟩
  rw [List.forall_mem_append]
  exact ⟨hDigits.2, fun _ => isDigit_of_mem_replicate⟩

end Decimal

------------------------------------------------------------
-- Numerals
------------------------------------------------------------

namespace Numeral

/- Digits alone are a whole number. -/
theorem toDecimal_of_isDigits
    {w : List Char}
    (hDigits : IsDigits w) :
    toDecimal w = ⟨Nat.ofDigitChars 10 w 0, 0⟩ := by
  have hWhole : whole w = w :=
    List.takeWhile_eq_self_iff.mpr hDigits.2
  have hFraction : fraction w = [] := by
    rw [fraction, List.dropWhile_eq_nil_iff.mpr hDigits.2,
      List.drop_nil]
  simp [toDecimal, hWhole, hFraction]

/- Digits behind a point are places. -/
theorem toDecimal_append_point
    {digits fractionDigits : List Char}
    (hDigits : ∀ c ∈ digits, c.isDigit = true) :
    toDecimal (digits ++ '.' :: fractionDigits) =
      ⟨Nat.ofDigitChars 10 (digits ++ fractionDigits) 0,
        -fractionDigits.length⟩ := by
  have hSplit := takeWhile_isDigit_append hDigits
    (show Char.isDigit '.' = false by decide) fractionDigits
  have hWhole :
      whole (digits ++ '.' :: fractionDigits) = digits :=
    hSplit.1
  have hFraction :
      fraction (digits ++ '.' :: fractionDigits) =
        fractionDigits := by
    rw [fraction, hSplit.2]
    rfl
  simp only [toDecimal, hWhole, hFraction]

end Numeral

------------------------------------------------------------
-- Positional Notation
------------------------------------------------------------

namespace Decimal

/- The digits of a value with zeros put in front. -/
def padded (places n : Nat) : List Char :=
  List.replicate (places + 1 - (digitChars n).length) '0' ++
    digitChars n

theorem lt_length_padded (places n : Nat) :
    places < (padded places n).length := by
  rw [padded, List.length_append, List.length_replicate]
  omega

theorem isDigit_of_mem_padded
    {places n : Nat}
    {c : Char}
    (hMem : c ∈ padded places n) :
    c.isDigit = true := by
  rcases List.mem_append.mp hMem with hZero | hDigit
  · exact isDigit_of_mem_replicate hZero
  · exact (isDigits_digitChars n).2 c hDigit

theorem ofDigitChars_padded (places n : Nat) :
    Nat.ofDigitChars 10 (padded places n) 0 = n := by
  rw [padded, Nat.ofDigitChars_append,
    Nat.ofDigitChars_replicate_zero, Nat.mul_zero,
    ofDigitChars_digitChars]

/-
  A value in positional notation is made of digits and zeros,
  or of digits with a point between.
-/
inductive IsPlain (d : Decimal) (text : List Char) : Prop where
| whole (zeros : Nat) :
    d.exponent = zeros →
    text = digitChars d.digits ++ List.replicate zeros '0' →
    IsPlain d text
| point (front behind : List Char) :
    IsDigits front →
    IsDigits behind →
    d.exponent = -behind.length →
    Nat.ofDigitChars 10 (front ++ behind) 0 = d.digits →
    text = front ++ '.' :: behind →
    IsPlain d text

theorem isPlain_plain (d : Decimal) : d.IsPlain d.plain := by
  rcases d with ⟨n, exponent⟩
  cases exponent with
  | ofNat zeros => exact .whole zeros rfl rfl
  | negSucc k =>
      have hLength := lt_length_padded (k + 1) n
      let point := (padded (k + 1) n).length - (k + 1)
      have hBehind :
          ((padded (k + 1) n).drop point).length = k + 1 := by
        rw [List.length_drop]
        omega
      refine .point ((padded (k + 1) n).take point)
        ((padded (k + 1) n).drop point) ⟨?_, ?_⟩ ⟨?_, ?_⟩ ?_
        ?_ rfl
      · apply List.ne_nil_of_length_pos
        rw [List.length_take]
        omega
      · exact fun c hMem =>
          isDigit_of_mem_padded (List.mem_of_mem_take hMem)
      · apply List.ne_nil_of_length_pos
        omega
      · exact fun c hMem =>
          isDigit_of_mem_padded (List.mem_of_mem_drop hMem)
      · rw [hBehind]
        rfl
      · rw [List.take_append_drop]
        exact ofDigitChars_padded (k + 1) n

/- Positional notation is a numeral. -/
theorem isNumeral_plain (d : Decimal) :
    IsNumeral d.plain := by
  cases d.isPlain_plain with
  | whole zeros _ hText =>
      rw [hText]
      exact Or.inl (isDigits_append_zeros d.digits zeros)
  | point front behind hFront hBehind _ _ hText =>
      exact Or.inr ⟨front, behind, hFront, hBehind, hText⟩

/- The numeral has the value that is laid out. -/
theorem sameValue_plain (d : Decimal) :
    (Numeral.toDecimal d.plain).SameValue d := by
  rcases d with ⟨n, exponent⟩
  cases isPlain_plain ⟨n, exponent⟩ with
  | whole zeros hExponent hText =>
      rw [hText,
        Numeral.toDecimal_of_isDigits
          (isDigits_append_zeros n zeros),
        Nat.ofDigitChars_append, ofDigitChars_digitChars,
        Nat.ofDigitChars_replicate_zero]
      dsimp only at hExponent
      rw [hExponent]
      simp [SameValue, numerator, denominator, Nat.mul_comm]
  | point front behind hFront hBehind hExponent hDigits hText =>
      rw [hText, Numeral.toDecimal_append_point hFront.2,
        hDigits, ← hExponent]
      rfl

------------------------------------------------------------
-- Powers of Ten
------------------------------------------------------------

/- A minus sign is no digit. -/
theorem digitChars_ne_minus
    (n : Nat)
    (rest : List Char) :
    digitChars n ≠ '-' :: rest := by
  intro hSame
  have hDigit :=
    (isDigits_digitChars n).2 '-' (by rw [hSame]; simp)
  exact absurd hDigit (by decide)

theorem intChars_injective
    {i j : Int}
    (hSame : intChars i = intChars j) :
    i = j := by
  cases i with
  | ofNat n =>
      cases j with
      | ofNat m => rw [digitChars_injective hSame]
      | negSucc m => exact absurd hSame (digitChars_ne_minus _ _)
  | negSucc n =>
      cases j with
      | ofNat m =>
          exact absurd hSame.symm (digitChars_ne_minus _ _)
      | negSucc m =>
          have hDigits :=
            digitChars_injective (List.cons.inj hSame).2
          rw [Nat.succ.inj hDigits]

/- The digits before the power of ten. -/
def mantissa : List Char → List Char
| [] => []
| lead :: more => lead :: pointed more

theorem mantissa_injective
    {w w' : List Char}
    (hSame : mantissa w = mantissa w') :
    w = w' := by
  rcases w with _ | ⟨c, _ | ⟨d, w⟩⟩ <;>
    rcases w' with _ | ⟨c', _ | ⟨d', w'⟩⟩ <;>
    simp_all [mantissa, pointed]

theorem mem_mantissa
    {c : Char}
    {w : List Char}
    (hMem : c ∈ mantissa w) :
    c ∈ w ∨ c = '.' := by
  rcases w with _ | ⟨lead, _ | ⟨next, more⟩⟩
  · exact nomatch hMem
  · exact Or.inl hMem
  · rcases List.mem_cons.mp hMem with rfl | hMore
    · exact Or.inl List.mem_cons_self
    · exact (List.mem_cons.mp hMore).symm.imp_left
        (List.mem_cons_of_mem lead)

theorem ne_of_mem_mantissa
    (n : Nat) :
    ∀ c ∈ mantissa (digitChars n), c ≠ 'e' := by
  rintro _ hMem rfl
  rcases mem_mantissa hMem with hDigit | hPoint
  · exact absurd ((isDigits_digitChars n).2 'e' hDigit)
      (by decide)
  · exact absurd hPoint (by decide)

theorem mem_intChars
    {c : Char}
    {i : Int}
    (hMem : c ∈ intChars i) :
    c.isDigit = true ∨ c = '-' := by
  cases i with
  | ofNat n => exact Or.inl ((isDigits_digitChars n).2 c hMem)
  | negSucc n =>
      rcases List.mem_cons.mp hMem with hMinus | hDigit
      · exact Or.inr hMinus
      · exact Or.inl ((isDigits_digitChars _).2 c hDigit)

theorem scientific_eq (d : Decimal) :
    d.scientific =
      mantissa (digitChars d.digits) ++
        'e' :: intChars (d.exponent +
          ((digitChars d.digits).length - 1 : Nat)) := by
  have hDigits := (isDigits_digitChars d.digits).1
  rw [scientific]
  cases hChars : digitChars d.digits with
  | nil => exact absurd hChars hDigits
  | cons lead more => simp [mantissa]

/- The notation with a power of ten tells decimals apart. -/
theorem scientific_injective
    {d d' : Decimal}
    (hSame : d.scientific = d'.scientific) :
    d = d' := by
  rw [scientific_eq, scientific_eq] at hSame
  rcases append_inj_of_head?
      (ne_of_mem_mantissa _) (ne_of_mem_mantissa _) (by simp)
      (by simp) hSame with ⟨hMantissa, hPower⟩
  have hDigits :=
    digitChars_injective (mantissa_injective hMantissa)
  have hExponent :=
    intChars_injective (List.cons.inj hPower).2
  rw [hDigits] at hExponent
  have hSameExponent : d.exponent = d'.exponent := by omega
  rcases d with ⟨n, exponent⟩
  rcases d' with ⟨n', exponent'⟩
  rw [mk.injEq]
  exact ⟨hDigits, hSameExponent⟩

end Decimal

end LoxExpr
