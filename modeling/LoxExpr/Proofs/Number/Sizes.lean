import LoxExpr.Proofs.Number.Texts

/-
  This file says which numbers are written without a power of
  ten: zero, and those whose size is from a ten-thousandth up
  to, but not including, ten to the power 16.

  Key definitions include:
    * `Double.size`

  Main statements:
    * `Double.isModerate_iff`
    * `Double.text_of_isModerate`
-/

namespace LoxExpr

namespace Double

/- The size of a finite number, whatever its sign. -/
def size (x : Float) : ℚ :=
  units (magnitude x) / 2 ^ unitsPlace

------------------------------------------------------------
-- Sizes in Units
------------------------------------------------------------

theorem size_eq_zero_iff (x : Float) :
    size x = 0 ↔ magnitude x = 0 := by
  have hPlace : (2 : ℚ) ^ unitsPlace ≠ 0 := by positivity
  rw [size, div_eq_zero_iff, or_iff_left hPlace,
    Nat.cast_eq_zero]
  constructor
  · intro hUnits
    rcases exists_scale (magnitude x) with
      ⟨shift, significand, h⟩
    rw [h.units_eq] at hUnits
    have hSignificand : significand = 0 := by simpa using hUnits
    have hShift := h.le
    have hBits := h.bits_eq
    omega
  · intro hZero
    rw [hZero]
    rfl

theorem le_size_iff
    (k : Nat)
    (x : Float) :
    1 / 10 ^ k ≤ size x ↔
      2 ^ unitsPlace ≤ 10 ^ k * units (magnitude x) := by
  rw [size, div_le_div_iff₀ (by positivity) (by positivity),
    one_mul, mul_comm]
  exact_mod_cast Iff.rfl

theorem size_lt_iff
    (k : Nat)
    (x : Float) :
    size x < 10 ^ k ↔
      units (magnitude x) < 10 ^ k * 2 ^ unitsPlace := by
  rw [size, div_lt_iff₀ (by positivity)]
  exact_mod_cast Iff.rfl

------------------------------------------------------------
-- Moderate Sizes
------------------------------------------------------------

/- A ten-thousandth lies between two magnitudes. -/
theorem nearest_ten_thousandth_le_iff (bits : Nat) :
    nearest 1 (Nat.pow 10 4) ≤ bits ↔
      2 ^ unitsPlace ≤ 10 ^ 4 * units bits := by
  let least := nearest 1 (Nat.pow 10 4)
  have hAbove :
      2 ^ unitsPlace ≤ 10 ^ 4 * units least := by
    decide +kernel
  have hBelow :
      10 ^ 4 * units (least - 1) < 2 ^ unitsPlace := by
    decide +kernel
  constructor
  · intro hLe
    exact hAbove.trans
      (Nat.mul_le_mul_left _ (units_mono hLe))
  · intro hUnits
    by_contra hLess
    have hMono : units bits ≤ units (least - 1) :=
      units_mono (by omega)
    omega

/- Ten to the power 16 is the value of a magnitude. -/
theorem lt_nearest_ten_pow_iff (bits : Nat) :
    bits < nearest (Nat.pow 10 16) 1 ↔
      units bits < 10 ^ 16 * 2 ^ unitsPlace := by
  let most := nearest (Nat.pow 10 16) 1
  have hValue : units most = 10 ^ 16 * 2 ^ unitsPlace := by
    decide +kernel
  have hBelow : units (most - 1) < units most := by
    decide +kernel
  rw [← hValue]
  constructor
  · intro hLess
    have hMono : units bits ≤ units (most - 1) :=
      units_mono (by omega)
    omega
  · intro hUnits
    by_contra hLe
    have hMono : units most ≤ units bits :=
      units_mono (Nat.not_lt.mp hLe)
    omega

/- These sizes are written without a power of ten. -/
theorem isModerate_iff (x : Float) :
    isModerate (magnitude x) = true ↔
      size x = 0 ∨ (1 / 10 ^ 4 ≤ size x ∧ size x < 10 ^ 16) := by
  rw [size_eq_zero_iff, le_size_iff, size_lt_iff,
    ← nearest_ten_thousandth_le_iff, ← lt_nearest_ten_pow_iff]
  simp [isModerate]

theorem text_of_isModerate
    {x : Float}
    (hModerate : isModerate (magnitude x) = true) :
    text x = plainText x := by
  rw [text, layout, if_pos hModerate]
  rfl

/- A finite number in positional notation. -/
theorem plainText_of_isFinite
    {x : Float}
    (hFinite : x.isFinite = true) :
    plainText x =
      String.ofList
        (signChars x ++ (shortest (magnitude x)).plain) := by
  have hBits := (isFinite_iff x).mp hFinite
  rw [plainText, textWith, if_neg (Nat.not_lt.mpr hBits.le),
    if_neg hBits.ne]

end Double

end LoxExpr
