import Mathlib
import LoxExpr.Number.Notation

/-
  This file is about rounding to the nearest number.  It is
  fractions that are rounded, however they are written, and a
  fraction that is the value of a number is rounded to that
  number.  So the shortest decimal value of a number reads
  back as the number.

  Key definitions include:
    * `Decimal.SameValue`

  Main statements:
    * `Double.nearest_units`
    * `Decimal.SameValue.nearestMagnitude_eq`
    * `Double.nearestMagnitude_shortest`
-/

namespace LoxExpr

namespace Double

------------------------------------------------------------
-- Fractions
------------------------------------------------------------

/- A factor of both sides does not change the rounding. -/
theorem roundHalfEven_mul_left
    {k : Nat}
    (hk : 0 < k)
    (num den : Nat) :
    roundHalfEven (k * num) (k * den) =
      roundHalfEven num den := by
  have hDouble : 2 * (k * (num % den)) =
      k * (2 * (num % den)) :=
    Nat.mul_left_comm 2 k _
  simp only [roundHalfEven, Nat.mul_div_mul_left _ _ hk,
    Nat.mul_mod_mul_left, hDouble,
    Nat.mul_lt_mul_left hk]

/- Nor does it change the nearest magnitude. -/
theorem nearest_mul_left
    {k : Nat}
    (hk : 0 < k)
    (num den : Nat) :
    nearest (k * num) (k * den) = nearest num den := by
  simp only [nearest, Nat.shiftLeft_eq, Nat.mul_assoc,
    Nat.mul_div_mul_left _ _ hk, roundHalfEven_mul_left hk]

/- Equal fractions are rounded alike. -/
theorem nearest_congr
    {num num' den den' : Nat}
    (hDen : 0 < den)
    (hDen' : 0 < den')
    (hSame : num * den' = num' * den) :
    nearest num den = nearest num' den' := by
  rw [← nearest_mul_left hDen' num den,
    ← nearest_mul_left hDen num' den', Nat.mul_comm den' num,
    Nat.mul_comm den num', hSame, Nat.mul_comm den' den]

/- Whole numbers stay as they are. -/
theorem roundHalfEven_mul
    (n den : Nat)
    (hDen : 0 < den) :
    roundHalfEven (n * den) den = n := by
  simp [roundHalfEven, hDen]

------------------------------------------------------------
-- Magnitudes and Units
------------------------------------------------------------

/-
  A magnitude is the significand of its value, and the number
  of places by which it is shifted.  It is shifted only if it
  has all its bits.
-/
structure HasScale (bits shift significand : Nat) : Prop where
  bits_eq : bits = shift * 2 ^ 52 + significand
  units_eq : units bits = significand * 2 ^ shift
  lt : significand < 2 ^ 53
  le : shift = 0 ∨ 2 ^ 52 ≤ significand

theorem exists_scale (bits : Nat) :
    ∃ shift significand, HasScale bits shift significand := by
  refine ⟨bits / 2 ^ 52 - 1,
    bits - (bits / 2 ^ 52 - 1) * 2 ^ 52, ?_, ?_, ?_, ?_⟩
  · omega
  · simp only [units, fractionBits, Nat.shiftRight_eq_div_pow,
      Nat.shiftLeft_eq]
  · omega
  · omega

/- The places are those that rounding finds. -/
theorem HasScale.log2_eq
    {bits shift significand : Nat}
    (h : HasScale bits shift significand) :
    Nat.log2 (units bits) - fractionBits = shift := by
  have hLt := h.lt
  rw [h.units_eq, fractionBits]
  rcases h.le with rfl | hLe
  · by_cases hZero : significand = 0
    · simp [hZero]
    · have hLog := (Nat.log2_lt hZero).mpr hLt
      rw [Nat.pow_zero, Nat.mul_one]
      omega
  · have hPow := Nat.two_pow_pos shift
    have hLower : 2 ^ (52 + shift) ≤ significand * 2 ^ shift := by
      rw [Nat.pow_add]
      exact Nat.mul_le_mul_right _ hLe
    have hUpper :
        significand * 2 ^ shift < 2 ^ (52 + shift + 1) := by
      rw [Nat.add_right_comm, Nat.pow_add]
      exact Nat.mul_lt_mul_of_pos_right hLt hPow
    have hLog : Nat.log2 (significand * 2 ^ shift) =
        52 + shift :=
      (Nat.log2_eq_iff (by omega)).mpr ⟨hLower, hUpper⟩
    rw [hLog]
    omega

/- The value of a magnitude is nearest to that magnitude. -/
theorem nearest_units
    {bits : Nat}
    (hBits : bits ≤ infinity) :
    nearest (units bits) (2 ^ unitsPlace) = bits := by
  rcases exists_scale bits with ⟨shift, significand, h⟩
  have hWhole :
      units bits <<< unitsPlace / 2 ^ unitsPlace =
        units bits := by
    rw [Nat.shiftLeft_eq,
      Nat.mul_div_cancel _ (Nat.two_pow_pos _)]
  have hRounded :
      roundHalfEven (units bits <<< unitsPlace)
          (2 ^ unitsPlace <<< shift) = significand := by
    rw [Nat.shiftLeft_eq, Nat.shiftLeft_eq,
      Nat.mul_comm (units bits),
      roundHalfEven_mul_left (Nat.two_pow_pos _), h.units_eq,
      roundHalfEven_mul _ _ (Nat.two_pow_pos _)]
  rw [nearest, hWhole, h.log2_eq, hRounded, fractionBits,
    Nat.shiftLeft_eq, ← h.bits_eq]
  exact Nat.min_eq_left hBits

/- Larger magnitudes have larger values. -/
theorem units_mono
    {bits bits' : Nat}
    (hLe : bits ≤ bits') :
    units bits ≤ units bits' := by
  rcases exists_scale bits with ⟨shift, significand, h⟩
  rcases exists_scale bits' with ⟨shift', significand', h'⟩
  have hBits := h.bits_eq
  have hBits' := h'.bits_eq
  have hLt := h.lt
  have hLt' := h'.lt
  rw [h.units_eq, h'.units_eq]
  rcases Nat.lt_trichotomy shift shift' with
    hFewer | hEqual | hMore
  · have hLe' : 2 ^ 52 ≤ significand' := by
      have hOr := h'.le
      omega
    calc
      significand * 2 ^ shift ≤ 2 ^ 53 * 2 ^ shift :=
        Nat.mul_le_mul_right _ (Nat.le_of_lt hLt)
      _ = 2 ^ 52 * 2 ^ (shift + 1) := by
        rw [← Nat.pow_add, ← Nat.pow_add, Nat.add_comm shift,
          ← Nat.add_assoc]
      _ ≤ significand' * 2 ^ shift' :=
        Nat.mul_le_mul hLe'
          (Nat.pow_le_pow_right (by decide) hFewer)
  · subst hEqual
    exact Nat.mul_le_mul_right _ (by omega)
  · -- A significand that is shifted has all its bits, so
    -- the first magnitude would be the larger one.
    have hOr := h.le
    omega

end Double

------------------------------------------------------------
-- Decimal Values
------------------------------------------------------------

namespace Decimal

theorem denominator_pos (d : Decimal) : 0 < d.denominator :=
  Nat.pow_pos (by decide)

/- Two decimals stand for the same value. -/
def SameValue (d d' : Decimal) : Prop :=
  d.numerator * d'.denominator = d'.numerator * d.denominator

/- Then they are rounded to the same magnitude. -/
theorem SameValue.nearestMagnitude_eq
    {d d' : Decimal}
    (h : d.SameValue d') :
    d.nearestMagnitude = d'.nearestMagnitude :=
  Double.nearest_congr d.denominator_pos d'.denominator_pos h

/- No decimal is rounded beyond infinity. -/
theorem nearestMagnitude_le (d : Decimal) :
    d.nearestMagnitude ≤ Double.infinity :=
  Nat.min_le_right _ _

end Decimal

namespace Double

/- The whole expansion of a magnitude reads back. -/
theorem nearestMagnitude_exactDecimal
    {bits : Nat}
    (hBits : bits ≤ infinity) :
    (exactDecimal (units bits)).nearestMagnitude = bits := by
  have hNumerator :
      (exactDecimal (units bits)).numerator =
        units bits * 5 ^ unitsPlace := by
    simp [exactDecimal, Decimal.numerator]
  have hDenominator :
      (exactDecimal (units bits)).denominator =
        2 ^ unitsPlace * 5 ^ unitsPlace := by
    simp [exactDecimal, Decimal.denominator, ← Nat.mul_pow]
  rw [Decimal.nearestMagnitude, hNumerator, hDenominator,
    Nat.mul_comm (units bits), Nat.mul_comm (2 ^ unitsPlace),
    nearest_mul_left (Nat.pow_pos (by decide)),
    nearest_units hBits]

/- The shortest decimal value of a magnitude reads back. -/
theorem nearestMagnitude_shortest
    {bits : Nat}
    (hBits : bits ≤ infinity) :
    (shortest bits).nearestMagnitude = bits := by
  have hExact := nearestMagnitude_exactDecimal hBits
  rw [shortest]
  cases hFound :
      (candidates (units bits)).find? fun d =>
        d.nearestMagnitude == bits with
  | none => exact hExact
  | some d => simpa using List.find?_some hFound

end Double

end LoxExpr
