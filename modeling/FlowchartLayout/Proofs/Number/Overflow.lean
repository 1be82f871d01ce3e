import FlowchartLayout.Proofs.Number.Arithmetic

/-!
# Overflow

Numbers that are too large are rounded to an infinity. A number is too large from the middle between
the largest finite number and the next power of two on.

## Main definitions

- `overflowBound` — the smallest number that is rounded to an infinity

## Main statements

- `isFinite_roundWithAccuracy_iff` — a rounded number is finite just if the exact one is below the
  bound
-/

namespace FlowchartLayout

open Float.Model (Format UnpackedFloat)
open Float.Model.UnpackedFloat (Sign Accuracy ExtendedMantissa)

/-- The middle between the largest finite number and the power of two above it. -/
def overflowBound : ℚ :=
  2 ^ 128 - 2 ^ 103

/-! ## Rounding up to a power of two -/

/-- A mantissa of 24 bits is rounded up to 25 bits from the middle on, as the largest one is odd. -/
theorem Describes.roundedMantissa_lt_iff {em : ExtendedMantissa} {t : ℚ} (h : Describes em t)
    (hlt : em.mantissa < 2 ^ 24) : em.roundedMantissa < 2 ^ 24 ↔ t < 2 ^ 24 - 1 / 2 := by
  rcases Nat.lt_or_ge em.mantissa (2 ^ 24 - 1) with hsmall | hlarge
  · have hdown := roundedMantissa_le em
    have hm : em.mantissa + 1 ≤ 16777215 := by omega
    have hm' : (em.mantissa : ℚ) + 1 ≤ 16777215 := by exact_mod_cast hm
    have ht := h.lt_mantissa_add_one
    exact iff_of_true (by omega) (by linarith)
  · obtain ⟨m, roundBit, stickyBit⟩ := em
    obtain rfl : m = 2 ^ 24 - 1 := by
      simp only at hlt hlarge
      omega
    cases roundBit <;> cases stickyBit <;>
      simp only [Describes, ExtendedMantissa.roundedMantissa, ExtendedMantissa.accuracy,
        Accuracy.roundToNearestEven] at h ⊢ <;>
      norm_num at h ⊢ <;> linarith

/-- Below the largest exponent, no mantissa is too large. -/
theorem mul_zpow_le_of_exponent_lt {t : ℚ} {e : ℤ} (ht : t ≤ 2 ^ 24) (he : e < 104) :
    t * 2 ^ e ≤ 2 ^ 127 := by
  calc t * 2 ^ e ≤ 2 ^ 24 * 2 ^ (103 : ℤ) :=
        mul_le_mul ht (zpow_le_zpow_right₀ (by norm_num) (by omega)) (by positivity) (by norm_num)
    _ = 2 ^ 127 := by norm_num

/-- Above the largest exponent, every long mantissa is too large. -/
theorem le_mul_zpow_of_lt_exponent {t : ℚ} {e : ℤ} (ht : 2 ^ 23 ≤ t) (he : 104 < e) :
    2 ^ 128 ≤ t * 2 ^ e := by
  calc (2 : ℚ) ^ 128 = 2 ^ 23 * 2 ^ (105 : ℤ) := by norm_num
    _ ≤ t * 2 ^ e :=
        mul_le_mul ht (zpow_le_zpow_right₀ (by norm_num) (by omega)) (by positivity)
          (le_trans (by norm_num) ht)

theorem two_pow_lt_overflowBound : 2 ^ 127 < overflowBound := by
  norm_num [overflowBound]

theorem overflowBound_le_two_pow : overflowBound ≤ 2 ^ 128 := by
  norm_num [overflowBound]

/-- A rounded number is finite just if the exact one is below the bound. -/
theorem isFinite_roundWithAccuracy_iff {m : Nat} {e : ℤ} {acc : Accuracy} {q : ℚ} (s : Sign)
    (hacc : Describes (.ofMantissaAndAccuracy m acc) (q / 2 ^ e))
    (hlong : e ≤ -149 ∨ 2 ^ 23 ≤ m) :
    (Float32.ofModel (.pack
      (UnpackedFloat.roundWithAccuracy Format.binary32 s m e acc))).isFinite = true ↔
      q < overflowBound := by
  obtain ⟨em, e', hshifted, hmin, hlt, hfull, hcan, hvalue⟩ := exists_roundWithAccuracy s hacc hlong
  have hpow : (0 : ℚ) < 2 ^ e' := by positivity
  have hrounded : |signed s (em.roundedMantissa * 2 ^ e')| = em.roundedMantissa * 2 ^ e' := by
    cases s <;> simp [signed, abs_mul, abs_of_pos hpow]
  rw [isFinite_pack_iff hcan (isFinite_ofMantissa ..), hvalue, hrounded]
  rcases lt_trichotomy e' 104 with he | rfl | he
  · -- neither the exact mantissa nor the rounded one is larger than 2²⁴
    have hround : (em.roundedMantissa : ℚ) ≤ 2 ^ 24 := by
      exact_mod_cast (roundedMantissa_le em).trans hlt
    have hexact : q / 2 ^ e' ≤ 2 ^ 24 :=
      hshifted.lt_mantissa_add_one.le.trans (by exact_mod_cast hlt)
    have hq := mul_zpow_le_of_exponent_lt hexact he
    rw [div_mul_cancel₀ q hpow.ne'] at hq
    refine iff_of_true ?_ (hq.trans_lt two_pow_lt_overflowBound)
    exact (mul_zpow_le_of_exponent_lt hround he).trans_lt (by norm_num)
  · -- the mantissa decides
    have hround : (em.roundedMantissa : ℚ) * 2 ^ (104 : ℤ) < 2 ^ 128 ↔
        em.roundedMantissa < 2 ^ 24 := by
      have hdiv : (2 : ℚ) ^ 128 / 2 ^ (104 : ℤ) = (2 ^ 24 : Nat) := by norm_num
      rw [← lt_div_iff₀ hpow, hdiv, Nat.cast_lt]
    have hexact : q / 2 ^ (104 : ℤ) < 2 ^ 24 - 1 / 2 ↔ q < overflowBound := by
      have hmul : ((2 : ℚ) ^ 24 - 1 / 2) * 2 ^ (104 : ℤ) = overflowBound := by
        norm_num [overflowBound]
      rw [div_lt_iff₀ hpow, hmul]
    rw [hround, hshifted.roundedMantissa_lt_iff hlt, hexact]
  · -- the mantissa has 24 bits, and both numbers are too large
    have hm : (2 : ℚ) ^ 23 ≤ em.mantissa := by exact_mod_cast hfull.resolve_left (by omega)
    have hround : (em.mantissa : ℚ) ≤ em.roundedMantissa := by
      exact_mod_cast mantissa_le_roundedMantissa em
    have hq := le_mul_zpow_of_lt_exponent (hm.trans hshifted.mantissa_le) he
    rw [div_mul_cancel₀ q hpow.ne'] at hq
    refine iff_of_false ?_ (not_lt.2 (overflowBound_le_two_pow.trans hq))
    exact not_lt.2 (le_mul_zpow_of_lt_exponent (hm.trans hround) he)

end FlowchartLayout
