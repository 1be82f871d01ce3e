import FlowchartLayout.Proofs.Number.Value

/-!
# Rounding

Mantissas carry two bits on what has been cut off: whether it is half a unit or more, and whether
there is anything beyond that. They are shifted until they fit, and then rounded to the nearest one.

## Main definitions

- `Describes` — what a mantissa with its two bits says about a number
- `RoundsTo` — the number of 24 bits that is nearest, and of two of them the even one
- `IsRounding` — an unpacked number in canonical form that a rational number is rounded to

## Main statements

- `isRounding_roundWithAccuracy`, `isRounding_normalize` — the roundings of the model are correct
- `RoundsTo.nonneg`, `RoundsTo.abs_sub_le` — the sign and the error of rounded numbers
-/

namespace FlowchartLayout

open Float.Model (Format UnpackedFloat)
open Float.Model.UnpackedFloat (Sign Accuracy ExtendedMantissa)

/-! ## Mantissas that are not exact -/

/-- The number lies where the mantissa and its two bits say. -/
def Describes : ExtendedMantissa → ℚ → Prop
  | ⟨m, false, false⟩, t => t = m
  | ⟨m, false, true⟩, t => m < t ∧ t < m + 1 / 2
  | ⟨m, true, false⟩, t => t = m + 1 / 2
  | ⟨m, true, true⟩, t => m + 1 / 2 < t ∧ t < m + 1

theorem Describes.mantissa_le {em : ExtendedMantissa} {t : ℚ} (h : Describes em t) :
    em.mantissa ≤ t := by
  obtain ⟨m, roundBit, stickyBit⟩ := em
  cases roundBit <;> cases stickyBit <;> simp only [Describes] at h ⊢ <;> linarith

theorem Describes.lt_mantissa_add_one {em : ExtendedMantissa} {t : ℚ} (h : Describes em t) :
    t < em.mantissa + 1 := by
  obtain ⟨m, roundBit, stickyBit⟩ := em
  cases roundBit <;> cases stickyBit <;> simp only [Describes] at h ⊢ <;> linarith

/-- The lowest bit of the mantissa becomes its round bit. -/
theorem Describes.shiftRightOne {em : ExtendedMantissa} {t : ℚ} (h : Describes em t) :
    Describes em.shiftRightOne (t / 2) := by
  obtain ⟨m, roundBit, stickyBit⟩ := em
  obtain ⟨k, rfl | rfl⟩ := Nat.even_or_odd' m
  · have hhalf : 2 * k / 2 = k := by omega
    have hbit : (2 * k % 2 != 0) = false := by simp
    cases roundBit <;> cases stickyBit <;>
      simp only [ExtendedMantissa.shiftRightOne, Describes, hhalf, hbit, Bool.or_false,
        Bool.or_true, Nat.cast_mul, Nat.cast_ofNat] at h ⊢ <;>
      grind
  · have hhalf : (2 * k + 1) / 2 = k := by omega
    have hbit : ((2 * k + 1) % 2 != 0) = true := by simp
    cases roundBit <;> cases stickyBit <;>
      simp only [ExtendedMantissa.shiftRightOne, Describes, hhalf, hbit, Bool.or_false,
        Bool.or_true, Nat.cast_add, Nat.cast_one, Nat.cast_mul, Nat.cast_ofNat] at h ⊢ <;>
      grind

theorem shiftRight_succ (em : ExtendedMantissa) (n : Nat) :
    em >>> (n + 1) = (em >>> n).shiftRightOne := rfl

theorem Describes.shiftRight {em : ExtendedMantissa} {t : ℚ} (h : Describes em t) (n : Nat) :
    Describes (em >>> n) (t / 2 ^ n) := by
  induction n with
  | zero =>
    rw [pow_zero, div_one]
    exact h
  | succ n ih =>
    rw [shiftRight_succ, pow_succ, ← div_div]
    exact ih.shiftRightOne

theorem mantissa_shiftRight (em : ExtendedMantissa) (n : Nat) :
    (em >>> n).mantissa = em.mantissa / 2 ^ n := by
  induction n with
  | zero => simp [HShiftRight.hShiftRight, Nat.repeat]
  | succ n ih =>
    rw [shiftRight_succ, pow_succ, ← Nat.div_div_eq_div_mul, ← ih]
    rfl

/-- A mantissa is rounded to the nearest integer. -/
theorem Describes.abs_roundedMantissa_sub_le {em : ExtendedMantissa} {t : ℚ}
    (h : Describes em t) : |(em.roundedMantissa : ℚ) - t| ≤ 1 / 2 := by
  obtain ⟨m, roundBit, stickyBit⟩ := em
  have hmod : ((m % 2 : Nat) : ℚ) = 0 ∨ ((m % 2 : Nat) : ℚ) = 1 := by
    rcases Nat.mod_two_eq_zero_or_one m with h | h <;> simp [h]
  cases roundBit <;> cases stickyBit <;>
    simp only [Describes, ExtendedMantissa.roundedMantissa, ExtendedMantissa.accuracy,
      Accuracy.roundToNearestEven, Nat.cast_add, Nat.cast_one] at h ⊢ <;>
    rw [abs_le] <;>
    grind

/-- Of two integers at the same distance the even one is taken. -/
theorem Describes.even_roundedMantissa {em : ExtendedMantissa} {t : ℚ} (h : Describes em t)
    (htie : |(em.roundedMantissa : ℚ) - t| = 1 / 2) : Even em.roundedMantissa := by
  obtain ⟨m, roundBit, stickyBit⟩ := em
  cases roundBit <;> cases stickyBit <;>
    simp only [Describes, ExtendedMantissa.roundedMantissa, ExtendedMantissa.accuracy,
      Accuracy.roundToNearestEven, Nat.cast_add, Nat.cast_one] at h htie ⊢
  · rw [h, sub_self, abs_zero] at htie
    norm_num at htie
  · rw [abs_of_neg (by linarith)] at htie
    linarith
  · exact Nat.even_iff.2 (by omega)
  · rw [abs_of_pos (by linarith)] at htie
    linarith

theorem mantissa_le_roundedMantissa (em : ExtendedMantissa) :
    em.mantissa ≤ em.roundedMantissa := by
  obtain ⟨m, roundBit, stickyBit⟩ := em
  cases roundBit <;> cases stickyBit <;>
    simp [ExtendedMantissa.roundedMantissa, ExtendedMantissa.accuracy, Accuracy.roundToNearestEven]

theorem roundedMantissa_le (em : ExtendedMantissa) : em.roundedMantissa ≤ em.mantissa + 1 := by
  obtain ⟨m, roundBit, stickyBit⟩ := em
  cases roundBit <;> cases stickyBit <;>
    simp [ExtendedMantissa.roundedMantissa, ExtendedMantissa.accuracy, Accuracy.roundToNearestEven]
  omega

/-! ## Rounded numbers -/

/-- The second number is the multiple of a power of two that is nearest to the first one, and the
even one of two such multiples. The power leaves 24 bits of the first number in front of it, or less
if it is the smallest one. -/
def RoundsTo (q v : ℚ) : Prop :=
  ∃ e n : ℤ, -149 ≤ e ∧ (e = -149 ∨ 2 ^ 23 * 2 ^ e ≤ |q|) ∧ v = n * 2 ^ e ∧
    |v - q| ≤ 2 ^ e / 2 ∧ |q| < 2 ^ 24 * 2 ^ e ∧ (|v - q| = 2 ^ e / 2 → Even n)

theorem half_step_le {e k : ℤ} (h : e ≤ k - 24) : (2 : ℚ) ^ e / 2 ≤ 2 ^ (k - 25) := by
  calc (2 : ℚ) ^ e / 2 = 2 ^ (e - 1) := by rw [zpow_sub_one₀ (by norm_num)]; rfl
    _ ≤ 2 ^ (k - 25) := zpow_le_zpow_right₀ (by norm_num) (by omega)

namespace RoundsTo

variable {q v : ℚ}

theorem neg (h : RoundsTo q v) : RoundsTo (-q) (-v) := by
  obtain ⟨e, n, hmin, hstep, rfl, hnear, hfits, htie⟩ := h
  refine ⟨e, -n, hmin, by rwa [abs_neg], by push_cast; ring, ?_, by rwa [abs_neg], ?_⟩
  · rwa [← neg_sub', abs_neg]
  · rw [← neg_sub', abs_neg, even_neg]
    exact htie

theorem nonneg (h : RoundsTo q v) (hq : 0 ≤ q) : 0 ≤ v := by
  obtain ⟨e, n, hmin, hstep, rfl, hnear, -⟩ := h
  have hpow : (0 : ℚ) < 2 ^ e := by positivity
  -- A negative multiple would be a whole step away from every number that is not negative.
  by_contra hneg
  have hn : n ≤ -1 := by
    by_contra hn
    have : (0 : ℚ) ≤ n := by exact_mod_cast (by omega : 0 ≤ n)
    exact hneg (by positivity)
  have hn' : (n : ℚ) ≤ -1 := by exact_mod_cast hn
  have hlow := (abs_le.1 hnear).1
  nlinarith

/-- The error is at most 2⁻²⁴ of the number, or half the smallest step. -/
theorem abs_sub_le (h : RoundsTo q v) : |v - q| ≤ |q| / 2 ^ 24 + 1 / 2 ^ 150 := by
  obtain ⟨e, n, hmin, hstep, rfl, hnear, -⟩ := h
  have hq := abs_nonneg q
  rcases hstep with rfl | hstep
  · have : (2 : ℚ) ^ (-149 : ℤ) / 2 = 1 / 2 ^ 150 := by norm_num
    have : 0 ≤ |q| / 2 ^ 24 := by positivity
    linarith
  · have : (2 : ℚ) ^ e / 2 ≤ |q| / 2 ^ 24 := by linarith
    have : (0 : ℚ) ≤ 1 / 2 ^ 150 := by positivity
    linarith

/-- What is rounded from a number below a power of two is off by at most that power, 25 bits further
down. -/
theorem abs_sub_le_of_exact_lt {k : ℤ} (h : RoundsTo q v) (hq : |q| < 2 ^ k) (hk : -125 ≤ k) :
    |v - q| ≤ 2 ^ (k - 25) := by
  obtain ⟨e, n, hmin, hstep, rfl, hnear, -⟩ := h
  suffices he : e ≤ k - 24 from hnear.trans (half_step_le he)
  rcases hstep with rfl | hstep
  · omega
  · have hlt : (2 : ℚ) ^ (e + 23) < 2 ^ k := by
      rw [zpow_add₀ (by norm_num), mul_comm]
      exact lt_of_le_of_lt (by exact_mod_cast hstep) hq
    have := (zpow_lt_zpow_iff_right₀ (by norm_num)).1 hlt
    omega

/-- A rounded number below a power of two is off by at most that power, 25 bits further down. -/
theorem abs_sub_le_of_abs_lt {k : ℤ} (h : RoundsTo q v) (hv : |v| < 2 ^ k) (hk : -125 ≤ k) :
    |v - q| ≤ 2 ^ (k - 25) := by
  obtain ⟨e, n, hmin, hstep, rfl, hnear, -⟩ := h
  have hpow : (0 : ℚ) < 2 ^ e := by positivity
  suffices he : e ≤ k - 24 from hnear.trans (half_step_le he)
  rcases hstep with rfl | hstep
  · omega
  · by_contra he
    -- The multiple is too large then, as it has 24 bits in front of the step.
    have hlow : (2 : ℚ) ^ 23 - 1 / 2 ≤ |(n : ℚ)| := by
      have htriangle := abs_sub_abs_le_abs_sub q (n * 2 ^ e)
      rw [abs_sub_comm, abs_mul, abs_of_pos hpow] at htriangle
      nlinarith
    have hn : 2 ^ 23 ≤ |n| := by
      have : ((2 ^ 23 - 1 : ℤ) : ℚ) < (|n| : ℤ) := by push_cast; linarith
      have : (2 ^ 23 - 1 : ℤ) < |n| := by exact_mod_cast this
      omega
    have hn' : (2 : ℚ) ^ 23 ≤ |(n : ℚ)| := by exact_mod_cast hn
    have hlarge : (2 : ℚ) ^ k ≤ |(n : ℚ) * 2 ^ e| := by
      rw [abs_mul, abs_of_pos hpow]
      calc (2 : ℚ) ^ k ≤ 2 ^ (e + 23) := zpow_le_zpow_right₀ (by norm_num) (by omega)
        _ = 2 ^ 23 * 2 ^ e := by rw [zpow_add₀ (by norm_num)]; norm_num; ring
        _ ≤ |(n : ℚ)| * 2 ^ e := by gcongr
    linarith

/-- A number of the grid is not changed by rounding. -/
theorem refl {u : UnpackedFloat} (h : IsCanonical u) :
    RoundsTo (unpackedValue u) (unpackedValue u) := by
  cases u with
  | finite s m e hm =>
    obtain ⟨hlt, hmin, hcan⟩ := h
    have hpow : (0 : ℚ) < 2 ^ e := by positivity
    have habs : |unpackedValue (.finite s m e hm)| = m * 2 ^ e := by
      cases s <;>
        simp only [unpackedValue_positive, unpackedValue_negative, abs_neg, abs_mul, Nat.abs_cast,
          abs_of_pos hpow]
    refine ⟨e, s.apply m, hmin, hcan.imp_right fun hfull => ?_, rfl, ?_, ?_, fun htie => ?_⟩
    · have hm : (2 : ℚ) ^ 23 ≤ m := by exact_mod_cast hfull
      rw [habs]
      gcongr
    · rw [sub_self, abs_zero]
      positivity
    · have hm : (m : ℚ) < 2 ^ 24 := by exact_mod_cast hlt
      rw [habs]
      gcongr
    · rw [sub_self, abs_zero] at htie
      linarith
  | _ => exact ⟨-149, 0, le_rfl, .inl rfl, by simp [unpackedValue], by norm_num [unpackedValue],
      by norm_num [unpackedValue], fun _ => Even.zero⟩

end RoundsTo

/-! ## Correctness of rounding -/

/-- The unpacked number is the rational number, rounded. It may still be too large. -/
structure IsRounding (q : ℚ) (u : UnpackedFloat) : Prop where
  isFinite : u.isFinite = true
  isCanonical : IsCanonical u
  roundsTo : RoundsTo q (unpackedValue u)

/-- A rational number with the given sign. -/
def signed (s : Sign) (q : ℚ) : ℚ :=
  match s with
  | .negative => -q
  | .positive => q

theorem unpackedValue_finite (s : Sign) (m : Nat) (e : ℤ) (h : 0 < m) :
    unpackedValue (.finite s m e h) = signed s (m * 2 ^ e) := by
  cases s <;> simp [signed]

theorem RoundsTo.signed {q v : ℚ} (h : RoundsTo q v) (s : Sign) :
    RoundsTo (signed s q) (signed s v) := by
  cases s with
  | negative => exact h.neg
  | positive => exact h

/-- The number of bits to cut off a mantissa. -/
def excess (m : Nat) (e : ℤ) : Nat :=
  (max (m.log2 + e - 23) (-149) - e).toNat

theorem targetExponent_eq (m : Nat) (e : ℤ) :
    Format.binary32.targetExponent (Float.Model.totalExponent m e) =
      max (m.log2 + e - 23) (-149) := by
  have hbits : (Format.binary32.mantissaBits : ℤ) = 24 := rfl
  have hmin : Format.binary32.minExponent = -149 := rfl
  simp only [Format.targetExponent, Float.Model.totalExponent, hbits, hmin]
  congr 1
  ring

theorem shiftToTargetExponent_eq (m : Nat) (e : ℤ) (acc : Accuracy) :
    UnpackedFloat.shiftToTargetExponent Format.binary32 m e acc =
      (ExtendedMantissa.ofMantissaAndAccuracy m acc >>> excess m e, e + excess m e) := by
  simp only [UnpackedFloat.shiftToTargetExponent, UnpackedFloat.shiftToExponent, targetExponent_eq,
    excess]

theorem neg149_le_add_excess (m : Nat) (e : ℤ) : -149 ≤ e + excess m e := by
  simp only [excess]
  omega

theorem div_pow_excess_lt (m : Nat) (e : ℤ) : m / 2 ^ excess m e < 2 ^ 24 := by
  rw [Nat.div_lt_iff_lt_mul (by positivity), ← pow_add]
  calc m < 2 ^ (m.log2 + 1) := Nat.lt_log2_self
    _ ≤ 2 ^ (24 + excess m e) := Nat.pow_le_pow_right (by omega) (by simp only [excess]; omega)

theorem two_pow_le_div_pow_excess {m : Nat} {e : ℤ} (hlong : e ≤ -149 ∨ 2 ^ 23 ≤ m) :
    e + excess m e = -149 ∨ 2 ^ 23 ≤ m / 2 ^ excess m e := by
  rw [or_iff_not_imp_left]
  intro hmin
  have hlog : e ≤ -149 ∨ 23 ≤ m.log2 :=
    hlong.imp_right fun h => (Nat.le_log2 (by omega)).2 h
  obtain ⟨hlog', hexcess⟩ : 23 ≤ m.log2 ∧ excess m e = m.log2 - 23 := by
    simp only [excess] at hmin ⊢
    omega
  rw [Nat.le_div_iff_mul_le (by positivity), ← pow_add, hexcess]
  have hm : m ≠ 0 := by
    rintro rfl
    simp at hlog'
  calc 2 ^ (23 + (m.log2 - 23)) = 2 ^ m.log2 := by congr 1; omega
    _ ≤ m := Nat.log2_self_le hm

/-- A mantissa that has just been rounded may be one bit too long; cutting it off loses nothing. -/
theorem shiftToTargetExponent_exact {m : Nat} {e : ℤ} (hm : m ≤ 2 ^ 24) (hmin : -149 ≤ e)
    (hfull : e = -149 ∨ 2 ^ 23 ≤ m) :
    let p := UnpackedFloat.shiftToTargetExponent Format.binary32 m e .exact
    (p.1.mantissa : ℚ) * 2 ^ p.2 = m * 2 ^ e ∧
      p.1.mantissa < 2 ^ 24 ∧ -149 ≤ p.2 ∧ (p.2 = -149 ∨ 2 ^ 23 ≤ p.1.mantissa) := by
  simp only [shiftToTargetExponent_eq, mantissa_shiftRight, ExtendedMantissa.ofMantissaAndAccuracy]
  rcases Nat.lt_or_ge m (2 ^ 24) with hlt | hge
  · have hlog : m.log2 ≤ 23 := by
      by_cases h0 : m = 0
      · simp [h0]
      · have := (Nat.log2_lt h0).2 hlt
        omega
    have hexcess : excess m e = 0 := by
      simp only [excess]
      omega
    simpa [hexcess] using ⟨hlt, hmin, hfull⟩
  · obtain rfl : m = 2 ^ 24 := le_antisymm hm hge
    have hexcess : excess (2 ^ 24) e = 1 := by
      simp only [excess, Nat.log2_two_pow]
      omega
    rw [hexcess]
    refine ⟨?_, by norm_num, by omega, .inr (by norm_num)⟩
    push_cast
    rw [zpow_add_one₀ (by norm_num)]
    ring

/-- The rounded mantissa of a shifted number is a rounded number. -/
theorem Describes.roundsTo {em : ExtendedMantissa} {e : ℤ} {q : ℚ} (h : Describes em (q / 2 ^ e))
    (hmin : -149 ≤ e) (hlt : em.mantissa < 2 ^ 24) (hfull : e = -149 ∨ 2 ^ 23 ≤ em.mantissa) :
    RoundsTo q (em.roundedMantissa * 2 ^ e) := by
  have hpow : (0 : ℚ) < 2 ^ e := by positivity
  have hlow : (em.mantissa : ℚ) * 2 ^ e ≤ q := (le_div_iff₀ hpow).1 h.mantissa_le
  have hhigh : q < (em.mantissa + 1) * 2 ^ e := (div_lt_iff₀ hpow).1 h.lt_mantissa_add_one
  have hq : |q| = q := abs_of_nonneg (le_trans (by positivity) hlow)
  have herror : |(em.roundedMantissa : ℚ) * 2 ^ e - q| =
      |(em.roundedMantissa : ℚ) - q / 2 ^ e| * 2 ^ e := by
    rw [← abs_of_pos hpow, ← abs_mul, abs_of_pos hpow, sub_mul, div_mul_cancel₀ _ hpow.ne']
  refine ⟨e, em.roundedMantissa, hmin, hfull.imp_right fun hbits => ?_, by norm_cast, ?_, ?_,
    fun htie => ?_⟩
  · have hm : (2 : ℚ) ^ 23 ≤ em.mantissa := by exact_mod_cast hbits
    rw [hq]
    calc (2 : ℚ) ^ 23 * 2 ^ e ≤ em.mantissa * 2 ^ e := by gcongr
      _ ≤ q := hlow
  · have hnear := h.abs_roundedMantissa_sub_le
    calc |(em.roundedMantissa : ℚ) * 2 ^ e - q|
        = |(em.roundedMantissa : ℚ) - q / 2 ^ e| * 2 ^ e := herror
      _ ≤ 1 / 2 * 2 ^ e := by gcongr
      _ = 2 ^ e / 2 := by ring
  · have hm : (em.mantissa : ℚ) + 1 ≤ 2 ^ 24 := by exact_mod_cast hlt
    rw [hq]
    calc q < (em.mantissa + 1) * 2 ^ e := hhigh
      _ ≤ 2 ^ 24 * 2 ^ e := by gcongr
  · have hhalf : |(em.roundedMantissa : ℚ) - q / 2 ^ e| = 1 / 2 := by
      rw [herror] at htie
      refine mul_right_cancel₀ hpow.ne' (htie.trans ?_)
      ring
    exact_mod_cast h.even_roundedMantissa hhalf

/-- A number with a mantissa that may be zero. -/
def ofMantissa (s : Sign) (m : Nat) (e : ℤ) : UnpackedFloat :=
  if h : m = 0 then .zero s else .finite s m e (Nat.pos_of_ne_zero h)

theorem isFinite_ofMantissa (s : Sign) (m : Nat) (e : ℤ) : (ofMantissa s m e).isFinite = true := by
  unfold ofMantissa
  split <;> rfl

theorem isCanonical_ofMantissa {s : Sign} {m : Nat} {e : ℤ} (hlt : m < 2 ^ 24) (hmin : -149 ≤ e)
    (hfull : e = -149 ∨ 2 ^ 23 ≤ m) : IsCanonical (ofMantissa s m e) := by
  unfold ofMantissa
  split
  · trivial
  · exact ⟨hlt, hmin, hfull⟩

theorem unpackedValue_ofMantissa (s : Sign) (m : Nat) (e : ℤ) :
    unpackedValue (ofMantissa s m e) = signed s (m * 2 ^ e) := by
  by_cases h : m = 0
  · cases s <;> simp [ofMantissa, signed, h]
  · cases s <;> simp [ofMantissa, signed, h]

theorem roundWithAccuracy_eq (s : Sign) (m : Nat) (e : ℤ) (acc : Accuracy) :
    UnpackedFloat.roundWithAccuracy Format.binary32 s m e acc =
      let first := UnpackedFloat.shiftToTargetExponent Format.binary32 m e acc
      let last := UnpackedFloat.shiftToTargetExponent Format.binary32 first.1.roundedMantissa
        first.2 .exact
      ofMantissa s last.1.mantissa last.2 := rfl

/-- A mantissa that is long enough, unless its exponent is small, is shifted to 24 bits or to the
smallest exponent, and then rounded. -/
theorem exists_roundWithAccuracy {m : Nat} {e : ℤ} {acc : Accuracy} {q : ℚ} (s : Sign)
    (hacc : Describes (.ofMantissaAndAccuracy m acc) (q / 2 ^ e))
    (hlong : e ≤ -149 ∨ 2 ^ 23 ≤ m) :
    ∃ (em : ExtendedMantissa) (e' : ℤ), Describes em (q / 2 ^ e') ∧ -149 ≤ e' ∧
      em.mantissa < 2 ^ 24 ∧ (e' = -149 ∨ 2 ^ 23 ≤ em.mantissa) ∧
      IsCanonical (UnpackedFloat.roundWithAccuracy Format.binary32 s m e acc) ∧
      unpackedValue (UnpackedFloat.roundWithAccuracy Format.binary32 s m e acc) =
        signed s (em.roundedMantissa * 2 ^ e') := by
  have hmantissa : (ExtendedMantissa.ofMantissaAndAccuracy m acc).mantissa = m := by
    rcases acc with _ | _ | _ | _ <;> rfl
  rw [roundWithAccuracy_eq, shiftToTargetExponent_eq m e acc]
  generalize hem : ExtendedMantissa.ofMantissaAndAccuracy m acc >>> excess m e = em
  have hem_mantissa : em.mantissa = m / 2 ^ excess m e := by
    rw [← hem, mantissa_shiftRight, hmantissa]
  have hshifted : Describes em (q / 2 ^ (e + excess m e)) := by
    rw [← hem, zpow_add₀ (by norm_num), ← div_div]
    exact_mod_cast hacc.shiftRight (excess m e)
  have hmin := neg149_le_add_excess m e
  have hlt : em.mantissa < 2 ^ 24 := hem_mantissa ▸ div_pow_excess_lt m e
  have hfull : e + excess m e = -149 ∨ 2 ^ 23 ≤ em.mantissa :=
    hem_mantissa ▸ two_pow_le_div_pow_excess hlong
  have hup := mantissa_le_roundedMantissa em
  have hdown := roundedMantissa_le em
  obtain ⟨hsame, hlt', hmin', hfull'⟩ := shiftToTargetExponent_exact (m := em.roundedMantissa)
    (by omega) hmin (by omega)
  refine ⟨em, _, hshifted, hmin, hlt, hfull, isCanonical_ofMantissa hlt' hmin' hfull', ?_⟩
  rw [unpackedValue_ofMantissa, hsame]

/-- Rounding a mantissa that is long enough, unless its exponent is small, leads to a rounded number
in canonical form. -/
theorem isRounding_roundWithAccuracy {m : Nat} {e : ℤ} {acc : Accuracy} {q : ℚ} (s : Sign)
    (hacc : Describes (.ofMantissaAndAccuracy m acc) (q / 2 ^ e))
    (hlong : e ≤ -149 ∨ 2 ^ 23 ≤ m) :
    IsRounding (signed s q) (UnpackedFloat.roundWithAccuracy Format.binary32 s m e acc) := by
  obtain ⟨em, e', hshifted, hmin, hlt, hfull, hcan, hvalue⟩ :=
    exists_roundWithAccuracy s hacc hlong
  refine ⟨isFinite_ofMantissa .., hcan, ?_⟩
  rw [hvalue]
  exact (hshifted.roundsTo hmin hlt hfull).signed s

/-- The accuracy of an exact mantissa. -/
theorem describes_exact (m : Nat) (e : ℤ) :
    Describes (.ofMantissaAndAccuracy m .exact) ((m : ℚ) * 2 ^ e / 2 ^ e) := by
  change (m : ℚ) * 2 ^ e / 2 ^ e = m
  rw [mul_div_assoc, div_self (by positivity), mul_one]

theorem isRounding_exact {m : Nat} {e : ℤ} (s : Sign) (hlong : e ≤ -149 ∨ 2 ^ 23 ≤ m) :
    IsRounding (signed s (m * 2 ^ e))
      (UnpackedFloat.roundWithAccuracy Format.binary32 s m e .exact) :=
  isRounding_roundWithAccuracy s (describes_exact m e) hlong

/-- A mantissa that is too short is made longer first. -/
theorem isRounding_round {m : Nat} (s : Sign) (hm : 0 < m) (e : ℤ) :
    IsRounding (signed s (m * 2 ^ e)) (UnpackedFloat.round Format.binary32 s m e) := by
  simp only [UnpackedFloat.round, UnpackedFloat.decreaseExponent, targetExponent_eq]
  generalize hshift : (e - max (m.log2 + e - 23 : ℤ) (-149)).toNat = shift
  have hsame : ((m <<< shift : Nat) : ℚ) * 2 ^ (e - shift) = m * 2 ^ e := by
    rw [Nat.shiftLeft_eq, zpow_sub₀ (by norm_num), zpow_natCast]
    push_cast
    field_simp
  rw [← hsame]
  apply isRounding_exact
  rw [or_iff_not_imp_left]
  intro hmin
  have hlog : m.log2 + shift ≥ 23 := by omega
  calc 2 ^ 23 ≤ 2 ^ (m.log2 + shift) := Nat.pow_le_pow_right (by omega) hlog
    _ = 2 ^ m.log2 * 2 ^ shift := Nat.pow_add ..
    _ ≤ m <<< shift := by
      rw [Nat.shiftLeft_eq]
      exact Nat.mul_le_mul_right _ (Nat.log2_self_le hm.ne')

theorem isRounding_normalize (m e : ℤ) (s : Sign) :
    IsRounding (m * 2 ^ e) (UnpackedFloat.normalize Format.binary32 m e s) := by
  simp only [UnpackedFloat.normalize]
  rcases lt_trichotomy m 0 with h | rfl | h
  · rw [Std.compare_eq_lt.2 h]
    have hround := isRounding_round .negative (m := (-m).toNat) (by omega) e
    have hm : (((-m).toNat : Nat) : ℚ) = -m := by exact_mod_cast Int.toNat_of_nonneg (by omega)
    simpa [signed, hm] using hround
  · exact ⟨rfl, trivial, by simpa using RoundsTo.refl (u := .zero s) trivial⟩
  · rw [Std.compare_eq_gt.2 h]
    have hround := isRounding_round .positive (m := m.toNat) (by omega) e
    have hm : ((m.toNat : Nat) : ℚ) = m := by exact_mod_cast Int.toNat_of_nonneg (by omega)
    simpa [signed, hm] using hround

end FlowchartLayout
