import Mathlib
import LoxExpr.Number.Notation

/-
  This file is about the bit patterns of numbers.  A number
  has a sign, an exponent field and a fraction field; its
  magnitude is the last two of them, read as one natural
  number.  Sign and magnitude tell numbers apart.

  Key definitions include:
    * `Double.HasParts`

  Main statements:
    * `Double.isNaN_iff`
    * `Double.isFinite_iff`
    * `Double.eq_of_magnitude_eq`
    * `Double.magnitude_ofMagnitude`
    * `Double.eq_ofMagnitude`
-/

namespace LoxExpr

namespace Double

open Float.Model (Format UnpackedFloat)
open Float.Model.UnpackedFloat

------------------------------------------------------------
-- Whole Bit Patterns
------------------------------------------------------------

/- Valid bit patterns are those of a number. -/
theorem toBits_ofBits
    {bits : UInt64}
    (hValid : Format.binary64.Valid bits.toBitVec) :
    (Float.ofBits bits).toBits = bits := by
  have hPack := pack_unpack_of_valid hValid
  simp only [Float.ofBits, Float.toBits, Float.Model.ofBits,
    Float.Model.pack, hPack]

/- Numbers with the same bit pattern are the same. -/
theorem eq_of_toBits_eq
    {x y : Float}
    (hBits : x.toBits.toBitVec = y.toBits.toBitVec) :
    x = y := by
  rcases x with ⟨⟨⟨bits⟩, hValid⟩⟩
  rcases y with ⟨⟨⟨bits'⟩, hValid'⟩⟩
  cases hBits
  rfl

------------------------------------------------------------
-- Parts of Bit Patterns
------------------------------------------------------------

/- Every bit pattern is put together of a sign, an exponent
   and a fraction. -/
theorem exists_packComponents (bits : BitVec 64) :
    ∃ sign exponent fraction,
      packComponents Format.binary64 sign exponent
        fraction = bits := by
  have hPacked :=
    @packComponents_unpackSign_unpackExponent_unpackMantissa
      Format.binary64 bits
  exact ⟨_, _, _, hPacked⟩

/- The number has a sign, an exponent and a fraction. -/
def HasParts
    (x : Float)
    (sign : Sign)
    (exponent : BitVec 11)
    (fraction : BitVec 52) : Prop :=
  x.toBits.toBitVec =
    packComponents Format.binary64 sign exponent fraction

theorem exists_parts (x : Float) :
    ∃ sign exponent fraction,
      HasParts x sign exponent fraction := by
  rcases exists_packComponents x.toBits.toBitVec with
    ⟨sign, exponent, fraction, hPacked⟩
  exact ⟨sign, exponent, fraction, hPacked.symm⟩

/- The parts of a bit pattern, read as one number. -/
theorem toNat_packComponents
    (sign : Sign)
    (exponent : BitVec 11)
    (fraction : BitVec 52) :
    (packComponents Format.binary64 sign exponent
        fraction).toNat =
      sign.toBitVec.toNat * 2 ^ 63 +
        (exponent.toNat * 2 ^ 52 + fraction.toNat) := by
  have hExponent := exponent.isLt
  have hFraction := fraction.isLt
  simp only [packComponents, BitVec.toNat_append]
  rw [← Nat.shiftLeft_add_eq_or_of_lt hExponent,
    ← Nat.shiftLeft_add_eq_or_of_lt hFraction]
  simp only [Nat.shiftLeft_eq]
  omega

theorem ofBitVec_toBitVec (sign : Sign) :
    Sign.ofBitVec sign.toBitVec = sign := by
  cases sign <;> rfl

namespace HasParts

variable {x : Float}
variable {sign : Sign}
variable {exponent : BitVec 11}
variable {fraction : BitVec 52}

theorem toNat_toBits
    (h : HasParts x sign exponent fraction) :
    x.toBits.toNat =
      sign.toBitVec.toNat * 2 ^ 63 +
        (exponent.toNat * 2 ^ 52 + fraction.toNat) := by
  rw [← toNat_packComponents, ← h]
  rfl

theorem magnitude_eq
    (h : HasParts x sign exponent fraction) :
    magnitude x =
      exponent.toNat * 2 ^ 52 + fraction.toNat := by
  have hExponent := exponent.isLt
  have hFraction := fraction.isLt
  rw [magnitude, h.toNat_toBits, Nat.shiftLeft_eq]
  omega

theorem isNegative_eq
    (h : HasParts x sign exponent fraction) :
    isNegative x = (sign.toBitVec.toNat == 1) := by
  have hSign := sign.toBitVec.isLt
  have hExponent := exponent.isLt
  have hFraction := fraction.isLt
  rw [isNegative, h.toNat_toBits, Nat.shiftLeft_eq,
    beq_eq_decide, decide_eq_decide]
  omega

end HasParts

------------------------------------------------------------
-- Finite Numbers and What Is None
------------------------------------------------------------

namespace HasParts

variable {x : Float}
variable {sign : Sign}
variable {exponent : BitVec 11}
variable {fraction : BitVec 52}

/- What is no number has a fraction beside the last exponent. -/
theorem isNaN_iff
    (h : HasParts x sign exponent fraction) :
    x.isNaN = true ↔ exponent = -1#11 ∧ fraction ≠ 0#52 := by
  have hUnpack : x.isNaN =
      (unpack Format.binary64 x.toBits.toBitVec).isNaN := rfl
  rw [hUnpack, h, unpack]
  simp only [unpackExponent_packComponents,
    unpackMantissa_packComponents]
  split
  · split <;> simp_all [UnpackedFloat.isNaN]
  · split
    · split <;> simp_all [UnpackedFloat.isNaN]
    · simp_all [UnpackedFloat.isNaN]

/- Finite numbers do not have the last exponent. -/
theorem isFinite_iff
    (h : HasParts x sign exponent fraction) :
    x.isFinite = true ↔ exponent ≠ -1#11 := by
  have hUnpack : x.isFinite =
      (unpack Format.binary64 x.toBits.toBitVec).isFinite :=
    rfl
  rw [hUnpack, h, unpack]
  simp only [unpackExponent_packComponents,
    unpackMantissa_packComponents]
  split
  · split <;> simp_all [UnpackedFloat.isFinite]
  · split
    · split <;> simp_all [UnpackedFloat.isFinite]
    · simp_all [UnpackedFloat.isFinite]

end HasParts

/- The magnitude of what is no number is beyond infinity. -/
theorem isNaN_iff (x : Float) :
    x.isNaN = true ↔ infinity < magnitude x := by
  rcases exists_parts x with ⟨sign, exponent, fraction, h⟩
  have hExponent := exponent.isLt
  have hFraction := fraction.isLt
  rw [h.isNaN_iff, h.magnitude_eq, infinity, fractionBits,
    Nat.shiftLeft_eq, ne_eq, ← BitVec.toNat_inj,
    ← BitVec.toNat_inj]
  simp only [BitVec.reduceNeg, BitVec.toNat_ofNat]
  omega

/- Finite numbers have magnitudes below infinity. -/
theorem isFinite_iff (x : Float) :
    x.isFinite = true ↔ magnitude x < infinity := by
  rcases exists_parts x with ⟨sign, exponent, fraction, h⟩
  have hExponent := exponent.isLt
  have hFraction := fraction.isLt
  rw [h.isFinite_iff, h.magnitude_eq, infinity, fractionBits,
    Nat.shiftLeft_eq, ne_eq, ← BitVec.toNat_inj]
  simp only [BitVec.reduceNeg, BitVec.toNat_ofNat]
  omega

------------------------------------------------------------
-- Sign and Magnitude
------------------------------------------------------------

/- Sign and magnitude tell numbers apart. -/
theorem eq_of_magnitude_eq
    {x y : Float}
    (hMagnitude : magnitude x = magnitude y)
    (hSign : isNegative x = isNegative y) :
    x = y := by
  have hBits := x.toBits.toBitVec.isLt
  have hBits' := y.toBits.toBitVec.isLt
  apply eq_of_toBits_eq
  rw [isNegative, isNegative, decide_eq_decide] at hSign
  rw [magnitude, magnitude] at hMagnitude
  apply BitVec.eq_of_toNat_eq
  simp only [Nat.shiftLeft_eq, UInt64.toNat_toBitVec] at *
  omega

/- Without the bits of no number, a pattern is valid. -/
theorem valid_packComponents
    (sign : Sign)
    {exponent : BitVec 11}
    {fraction : BitVec 52}
    (hNumber : ¬(exponent = -1#11 ∧ fraction ≠ 0#52)) :
    Format.binary64.Valid
      (packComponents Format.binary64 sign exponent
        fraction) := by
  constructor
  rw [unpackExponent_packComponents,
    unpackMantissa_packComponents]
  exact fun hExponent hFraction =>
    absurd ⟨hExponent, hFraction⟩ hNumber

/- A magnitude up to infinity is that of a number. -/
theorem magnitude_ofMagnitude
    {bits : Nat}
    (hBits : bits ≤ infinity) :
    magnitude (ofMagnitude bits) = bits ∧
      isNegative (ofMagnitude bits) = false := by
  have hLimit : bits ≤ 2047 * 2 ^ 52 := by
    rwa [infinity, fractionBits, Nat.shiftLeft_eq] at hBits
  rcases exists_packComponents (UInt64.ofNat bits).toBitVec with
    ⟨sign, exponent, fraction, hParts⟩
  have hFraction := fraction.isLt
  have hPattern : bits =
      sign.toBitVec.toNat * 2 ^ 63 +
        (exponent.toNat * 2 ^ 52 + fraction.toNat) := by
    rw [← toNat_packComponents, hParts]
    simp only [UInt64.toNat_toBitVec, UInt64.toNat_ofNat']
    omega
  have hNumber : ¬(exponent = -1#11 ∧ fraction ≠ 0#52) := by
    rw [ne_eq, ← BitVec.toNat_inj, ← BitVec.toNat_inj]
    simp only [BitVec.reduceNeg, BitVec.toNat_ofNat]
    omega
  have hValid := valid_packComponents sign hNumber
  rw [hParts] at hValid
  have hBack := toBits_ofBits hValid
  rw [magnitude, isNegative, ofMagnitude, hBack,
    UInt64.toNat_ofNat', Nat.shiftLeft_eq,
    decide_eq_false_iff_not]
  omega

/- The opposite of a number differs in its sign only. -/
theorem HasParts.neg
    {x : Float}
    {sign : Sign}
    {exponent : BitVec 11}
    {fraction : BitVec 52}
    (h : HasParts x sign exponent fraction)
    (hNumber : ¬(exponent = -1#11 ∧ fraction ≠ 0#52)) :
    HasParts (-x) (-sign) exponent fraction := by
  have hPack :=
    pack_unpack_of_valid (valid_packComponents (-sign) hNumber)
  have hUnpack :
      (unpack Format.binary64 x.toBits.toBitVec).neg =
        unpack Format.binary64
          (packComponents Format.binary64 (-sign) exponent
            fraction) := by
    rw [h, unpack, unpack]
    simp only [unpackExponent_packComponents,
      unpackMantissa_packComponents,
      unpackSign_packComponents, ofBitVec_toBitVec]
    split
    · split <;> rfl
    · split
      · split <;> rfl
      · rfl
  rw [← hUnpack] at hPack
  exact hPack

/- The opposite has the other sign, and the same magnitude. -/
theorem magnitude_neg
    {x : Float}
    (hNumber : x.isNaN = false) :
    magnitude (-x) = magnitude x ∧
      isNegative (-x) = !isNegative x := by
  rcases exists_parts x with ⟨sign, exponent, fraction, h⟩
  have hParts : ¬(exponent = -1#11 ∧ fraction ≠ 0#52) := by
    rw [← h.isNaN_iff, hNumber]
    exact Bool.false_ne_true
  have hOpposite := h.neg hParts
  rw [h.magnitude_eq, hOpposite.magnitude_eq, h.isNegative_eq,
    hOpposite.isNegative_eq]
  refine ⟨rfl, ?_⟩
  cases sign <;> rfl

/- A number is its magnitude with its sign. -/
theorem eq_ofMagnitude
    {x : Float}
    (hNumber : x.isNaN = false) :
    x =
      if isNegative x then -ofMagnitude (magnitude x)
      else ofMagnitude (magnitude x) := by
  have hBits : magnitude x ≤ infinity := by
    rw [← Nat.not_lt, ← isNaN_iff, hNumber]
    exact Bool.false_ne_true
  have hSelf := magnitude_ofMagnitude hBits
  have hSelfNumber :
      (ofMagnitude (magnitude x)).isNaN = false := by
    rw [← Bool.not_eq_true, isNaN_iff, hSelf.1]
    exact Nat.not_lt.mpr hBits
  have hOpposite := magnitude_neg hSelfNumber
  split
  · rename_i hSign
    apply eq_of_magnitude_eq
    · rw [hOpposite.1, hSelf.1]
    · rw [hOpposite.2, hSelf.2, hSign]
      rfl
  · rename_i hSign
    apply eq_of_magnitude_eq
    · rw [hSelf.1]
    · rw [hSelf.2]
      simpa using hSign

end Double

end LoxExpr
