import FlowchartLayout.Proofs.Number.Rounding

/-!
# Arithmetic with single precision numbers

Each operation gives the exact result, rounded, as long as it is not too large; and a finite sum,
difference or product has finite operands.

## Main definitions

- `Approximates` — a number is the rounded form of a rational number

## Main statements

- `approximates_add`, `approximates_sub`, `approximates_mul`, `approximates_div`,
  `approximates_ofNat` — the operations round their exact results
- `value_ofNat` — natural numbers of 23 bits are exact
-/

namespace FlowchartLayout

open Float.Model (Format UnpackedFloat)
open Float.Model.UnpackedFloat (Sign Accuracy ExtendedMantissa)

/-- The number is the rational number, rounded, unless it has become infinite; and it has not if the
rational number is of moderate size. -/
structure Approximates (q : ℚ) (x : Float32) : Prop where
  roundsTo : x.isFinite = true → RoundsTo q (value x)
  isFinite : |q| ≤ 2 ^ 127 → x.isFinite = true

theorem RoundsTo.abs_lt {q v : ℚ} (h : RoundsTo q v) (hq : |q| ≤ 2 ^ 127) : |v| < 2 ^ 128 := by
  have herror := h.abs_sub_le
  have htriangle := abs_sub_abs_le_abs_sub v q
  have : |q| / 2 ^ 24 ≤ 2 ^ 127 / 2 ^ 24 := by gcongr
  norm_num at *
  linarith

theorem unpack_ofModel_pack {u : UnpackedFloat} (h : IsCanonical u) :
    (Float32.ofModel (.pack u)).toModel.unpack = overflow u :=
  unpack_pack h

/-- After packing, a number is finite just if it is below the power of two that 24 bits do not
reach. -/
theorem isFinite_pack_iff {u : UnpackedFloat} (hcan : IsCanonical u) (hfinite : u.isFinite = true) :
    (Float32.ofModel (.pack u)).isFinite = true ↔ |unpackedValue u| < 2 ^ 128 := by
  rw [Float32.isFinite, Float32.Model.isFinite, unpack_ofModel_pack hcan]
  cases u with
  | infinity | notANumber => cases hfinite
  | zero s => simp [overflow, UnpackedFloat.isFinite]
  | finite s m e hm =>
    obtain ⟨hlt, hmin, hfull⟩ := hcan
    have hvalue : |unpackedValue (.finite s m e hm)| = m * 2 ^ e := by
      cases s <;> simp
    rw [hvalue]
    by_cases he : e ≤ 104
    · have hm' : (m : ℚ) < 2 ^ 24 := by exact_mod_cast hlt
      have hpow : (2 : ℚ) ^ e ≤ 2 ^ (104 : ℤ) := zpow_le_zpow_right₀ (by norm_num) he
      have hsmall : (m : ℚ) * 2 ^ e < 2 ^ 128 := by
        calc (m : ℚ) * 2 ^ e < 2 ^ 24 * 2 ^ e := by gcongr
          _ ≤ 2 ^ 24 * 2 ^ (104 : ℤ) := by gcongr
          _ = 2 ^ 128 := by norm_num
      simp [overflow, he, UnpackedFloat.isFinite, hsmall]
    · have hm' : (2 : ℚ) ^ 23 ≤ m := by exact_mod_cast hfull.resolve_left (by omega)
      have hpow : (2 : ℚ) ^ (105 : ℤ) ≤ 2 ^ e := zpow_le_zpow_right₀ (by norm_num) (by omega)
      have hlarge : (2 : ℚ) ^ 128 ≤ m * 2 ^ e := by
        calc (2 : ℚ) ^ 128 = 2 ^ 23 * 2 ^ (105 : ℤ) := by norm_num
          _ ≤ (m : ℚ) * 2 ^ e := by gcongr
      simp [overflow, he, UnpackedFloat.isFinite, hlarge]

theorem IsRounding.pack {q : ℚ} {u : UnpackedFloat} (h : IsRounding q u) :
    Approximates q (.ofModel (.pack u)) := by
  obtain ⟨hfinite, hcan, hround⟩ := h
  constructor
  · intro hpacked
    suffices hsame : overflow u = u by rwa [value, unpack_ofModel_pack hcan, hsame]
    rw [Float32.isFinite, Float32.Model.isFinite, unpack_ofModel_pack hcan] at hpacked
    cases u with
    | finite s m e hm =>
      by_cases he : e ≤ 104
      · simp [overflow, he]
      · simp [overflow, he, UnpackedFloat.isFinite] at hpacked
    | _ => rfl
  · intro hq
    exact (isFinite_pack_iff hcan hfinite).2 (hround.abs_lt hq)

/-! ## Sums and differences -/

theorem shiftLeft_mul_zpow (m : Nat) {e e' : ℤ} (h : e' ≤ e) :
    ((m <<< (e - e').toNat : Nat) : ℚ) * 2 ^ e' = m * 2 ^ e := by
  obtain ⟨k, rfl⟩ := Int.le.dest h
  rw [Nat.shiftLeft_eq, zpow_add₀ (by norm_num)]
  simp
  ring

theorem apply_mul_zpow {s : Sign} {m : Nat} {e e' : ℤ} (hm : 0 < m) (h : e' ≤ e) :
    (s.apply (m <<< (e - e').toNat : Nat) : ℚ) * 2 ^ e' = unpackedValue (.finite s m e hm) := by
  have hshift := shiftLeft_mul_zpow m h
  cases s with
  | negative =>
    rw [unpackedValue_negative, Sign.apply, Int.cast_neg, Int.cast_natCast, neg_mul, hshift]
  | positive => rw [unpackedValue_positive, Sign.apply, Int.cast_natCast, hshift]

theorem isRounding_add {u v : UnpackedFloat} (hu : u.isFinite = true) (hv : v.isFinite = true)
    (hcu : IsCanonical u) (hcv : IsCanonical v) :
    IsRounding (unpackedValue u + unpackedValue v) (UnpackedFloat.add Format.binary32 u v) := by
  cases u with
  | infinity | notANumber => cases hu
  | zero s =>
    rw [unpackedValue_zero, zero_add]
    cases v with
    | infinity | notANumber => cases hv
    | zero t =>
      cases s <;> cases t <;> exact ⟨rfl, trivial, .refl (u := .zero .positive) trivial⟩
    | finite t m e h => exact ⟨rfl, hcv, .refl hcv⟩
  | finite s m e h =>
    cases v with
    | infinity | notANumber => cases hv
    | zero t =>
      rw [unpackedValue_zero, add_zero]
      exact ⟨rfl, hcu, .refl hcu⟩
    | finite t m' e' h' =>
      rw [← apply_mul_zpow h (min_le_left e e'), ← apply_mul_zpow h' (min_le_right e e'),
        ← add_mul]
      exact_mod_cast isRounding_normalize _ _ _

theorem isFinite_of_add {u v : UnpackedFloat}
    (h : (UnpackedFloat.add Format.binary32 u v).isFinite = true) :
    u.isFinite = true ∧ v.isFinite = true := by
  cases u with
  | notANumber => cases h
  | infinity s =>
    cases v with
    | infinity t => cases s <;> cases t <;> cases h
    | _ => cases h
  | _ =>
    cases v with
    | infinity | notANumber => cases h
    | _ => exact ⟨rfl, rfl⟩

theorem apply_neg (s : Sign) (n : ℤ) : (-s).apply n = -s.apply n := by
  cases s with
  | negative => exact (neg_neg n).symm
  | positive => rfl

/-- A difference is the sum with the opposite number. -/
theorem sub_eq_add_opposite (u v : UnpackedFloat) :
    UnpackedFloat.sub Format.binary32 u v = UnpackedFloat.add Format.binary32 u v.neg := by
  cases u with
  | finite s m e h =>
    cases v with
    | finite t m' e' h' =>
      simp only [UnpackedFloat.sub, UnpackedFloat.add, UnpackedFloat.neg, apply_neg,
        Int.sub_eq_add_neg]
    | _ => rfl
  | _ => cases v <;> rfl

theorem isFinite_neg (u : UnpackedFloat) : u.neg.isFinite = u.isFinite := by
  cases u <;> rfl

theorem isCanonical_neg {u : UnpackedFloat} (h : IsCanonical u) : IsCanonical u.neg := by
  cases u <;> exact h

theorem unpackedValue_neg (u : UnpackedFloat) : unpackedValue u.neg = -unpackedValue u := by
  cases u with
  | finite s m e h =>
    simp only [UnpackedFloat.neg, unpackedValue, apply_neg, Int.cast_neg, neg_mul]
  | _ => rfl

/-! ## Products and quotients -/

theorem signed_mul (s t : Sign) (q r : ℚ) : signed (s * t) (q * r) = signed s q * signed t r :=
  match s, t with
  | .negative, .negative => (neg_mul_neg q r).symm
  | .negative, .positive => (neg_mul q r).symm
  | .positive, .negative => (mul_neg q r).symm
  | .positive, .positive => rfl

theorem signed_div (s t : Sign) (q r : ℚ) : signed (s / t) (q / r) = signed s q / signed t r :=
  match s, t with
  | .negative, .negative => (neg_div_neg_eq q r).symm
  | .negative, .positive => (neg_div r q).symm
  | .positive, .negative => (div_neg q).symm
  | .positive, .positive => rfl

theorem isRounding_zero (s : Sign) : IsRounding 0 (.zero s) :=
  ⟨rfl, trivial, .refl (u := .zero s) trivial⟩

theorem isRounding_mul {u v : UnpackedFloat} (hu : u.isFinite = true) (hv : v.isFinite = true)
    (hcu : IsCanonical u) (hcv : IsCanonical v) :
    IsRounding (unpackedValue u * unpackedValue v) (UnpackedFloat.mul Format.binary32 u v) := by
  cases u with
  | infinity | notANumber => cases hu
  | zero s =>
    rw [unpackedValue_zero, zero_mul]
    cases v with
    | infinity | notANumber => cases hv
    | _ => exact isRounding_zero _
  | finite s m e h =>
    cases v with
    | infinity | notANumber => cases hv
    | zero t =>
      rw [unpackedValue_zero, mul_zero]
      exact isRounding_zero _
    | finite t m' e' h' =>
      obtain ⟨hlt, hmin, hfull⟩ := hcu
      obtain ⟨hlt', hmin', hfull'⟩ := hcv
      have hvalue : (m : ℚ) * 2 ^ e * (m' * 2 ^ e') = (m * m' : Nat) * 2 ^ (e + e') := by
        rw [zpow_add₀ (by norm_num)]
        push_cast
        ring
      rw [unpackedValue_finite, unpackedValue_finite, ← signed_mul, hvalue]
      refine isRounding_exact (s * t) ?_
      rcases hfull with rfl | hfull
      · rcases hfull' with rfl | hfull'
        · exact .inl (by norm_num)
        · exact .inr (hfull'.trans (Nat.le_mul_of_pos_left m' h))
      · exact .inr (hfull.trans (Nat.le_mul_of_pos_right m h'))

theorem isFinite_of_mul {u v : UnpackedFloat}
    (h : (UnpackedFloat.mul Format.binary32 u v).isFinite = true) :
    u.isFinite = true ∧ v.isFinite = true := by
  cases u with
  | notANumber => cases h
  | infinity s => cases v <;> cases h
  | _ =>
    cases v with
    | infinity | notANumber => cases h
    | _ => exact ⟨rfl, rfl⟩

/-- The accuracy of a quotient says where the remainder is. -/
theorem describes_accuracyOfFraction {num den : Nat} (hden : 0 < den) :
    Describes (.ofMantissaAndAccuracy (num / den)
      (UnpackedFloat.accuracyOfFraction (num % den) den)) ((num : ℚ) / den) := by
  have hden' : (0 : ℚ) < den := by exact_mod_cast hden
  have hsplit : (num : ℚ) / den = (num / den : Nat) + (num % den : Nat) / den := by
    field_simp
    exact_mod_cast (Nat.div_add_mod num den).symm
  have hlt : ((num % den : Nat) : ℚ) < den := by exact_mod_cast Nat.mod_lt num hden
  rw [hsplit]
  generalize num % den = r at hlt ⊢
  unfold UnpackedFloat.accuracyOfFraction
  by_cases hzero : r = 0
  · simp [hzero, ExtendedMantissa.ofMantissaAndAccuracy, Describes]
  · have hpos : (0 : ℚ) < r / den := by
      have : (0 : ℚ) < r := by exact_mod_cast Nat.pos_of_ne_zero hzero
      positivity
    have hone : (r : ℚ) / den < 1 := (div_lt_one hden').2 hlt
    rw [if_neg hzero]
    rcases lt_trichotomy (2 * r) den with h | h | h
    · have hhalf : (2 * r : ℚ) < den := by exact_mod_cast h
      have : (r : ℚ) / den < 1 / 2 := (div_lt_iff₀ hden').2 (by linarith)
      rw [Std.compare_eq_lt.2 h]
      exact ⟨by linarith, by linarith⟩
    · have hhalf : (2 * r : ℚ) = den := by exact_mod_cast h
      have : (r : ℚ) / den = 1 / 2 := (div_eq_iff hden'.ne').2 (by linarith)
      rw [Nat.compare_eq_eq.2 h, this]
      rfl
    · have hhalf : (den : ℚ) < 2 * r := by exact_mod_cast h
      have : 1 / 2 < (r : ℚ) / den := (lt_div_iff₀ hden').2 (by linarith)
      rw [Std.compare_eq_gt.2 h]
      exact ⟨by linarith, by linarith⟩

/-- The exponent at which a quotient has enough bits. -/
def quotientExponent (m : Nat) (e : ℤ) (m' : Nat) (e' : ℤ) : ℤ :=
  min (e - e') (max (m.log2 + e - (m'.log2 + e') - 24) (-149))

theorem divCore_eq (m : Nat) (e : ℤ) (m' : Nat) (e' : ℤ) :
    UnpackedFloat.divCore Format.binary32 m e m' e' =
      let e'' := quotientExponent m e m' e'
      let num := m <<< (e - e' - e'').toNat
      (num / m', e'', UnpackedFloat.accuracyOfFraction (num % m') m') := by
  have htarget : min (e - e') (Format.binary32.targetExponent
      (Float.Model.totalExponent m e - Float.Model.totalExponent m' e')) =
      quotientExponent m e m' e' := by
    have hbits : (Format.binary32.mantissaBits : ℤ) = 24 := rfl
    have hmin : Format.binary32.minExponent = -149 := rfl
    simp only [Format.targetExponent, Float.Model.totalExponent, hbits, hmin, quotientExponent]
    congr 2
    ring
  simp only [UnpackedFloat.divCore, htarget]

/-- A quotient has at least 24 bits unless its exponent is small. -/
theorem two_pow_le_quotient {m m' : Nat} {e e' : ℤ} (hm : 0 < m) (hm' : 0 < m')
    (hmin : -149 < quotientExponent m e m' e') :
    2 ^ 23 ≤ (m <<< (e - e' - quotientExponent m e m' e').toNat) / m' := by
  generalize hk : (e - e' - quotientExponent m e m' e').toNat = k
  have hbits : m'.log2 + 24 ≤ m.log2 + k := by
    simp only [quotientExponent] at hmin hk
    omega
  rw [Nat.le_div_iff_mul_le hm', Nat.shiftLeft_eq]
  calc 2 ^ 23 * m' ≤ 2 ^ 23 * 2 ^ (m'.log2 + 1) := by gcongr; exact Nat.lt_log2_self.le
    _ = 2 ^ (m'.log2 + 24) := by rw [← Nat.pow_add]; congr 1; omega
    _ ≤ 2 ^ (m.log2 + k) := Nat.pow_le_pow_right (by omega) hbits
    _ = 2 ^ m.log2 * 2 ^ k := Nat.pow_add ..
    _ ≤ m * 2 ^ k := Nat.mul_le_mul_right _ (Nat.log2_self_le hm.ne')

/-- The mantissa, the exponent and the accuracy of a quotient describe it. -/
theorem describes_quotient {m m' : Nat} {e e' : ℤ} (hm' : 0 < m') :
    Describes
      (.ofMantissaAndAccuracy ((m <<< (e - e' - quotientExponent m e m' e').toNat) / m')
        (UnpackedFloat.accuracyOfFraction
          ((m <<< (e - e' - quotientExponent m e m' e').toNat) % m') m'))
      ((m : ℚ) * 2 ^ e / (m' * 2 ^ e') / 2 ^ quotientExponent m e m' e') := by
  have hle : quotientExponent m e m' e' ≤ e - e' := min_le_left _ _
  have hshift := shiftLeft_mul_zpow m hle
  rw [zpow_sub₀ (by norm_num), ← eq_div_iff (by positivity)] at hshift
  have hquot : (m : ℚ) * 2 ^ e / (m' * 2 ^ e') / 2 ^ quotientExponent m e m' e' =
      ((m <<< (e - e' - quotientExponent m e m' e').toNat : Nat) : ℚ) / m' := by
    rw [hshift]
    field_simp
  rw [hquot]
  exact describes_accuracyOfFraction hm'

theorem isRounding_div {u v : UnpackedFloat} (hu : u.isFinite = true) (hv : unpackedValue v ≠ 0) :
    IsRounding (unpackedValue u / unpackedValue v) (UnpackedFloat.div Format.binary32 u v) := by
  cases v with
  | finite t m' e' h' =>
    cases u with
    | infinity | notANumber => cases hu
    | zero s =>
      rw [unpackedValue_zero, zero_div]
      exact isRounding_zero _
    | finite s m e h =>
      rw [unpackedValue_finite, unpackedValue_finite, ← signed_div]
      simp only [UnpackedFloat.div, divCore_eq]
      refine isRounding_roundWithAccuracy (s / t) (describes_quotient h') ?_
      rw [or_iff_not_imp_left, not_le]
      exact two_pow_le_quotient h h'
  | _ => exact absurd rfl hv

theorem isFinite_of_div {u v : UnpackedFloat} (hv : v.isFinite = true)
    (h : (UnpackedFloat.div Format.binary32 u v).isFinite = true) : u.isFinite = true := by
  cases u with
  | notANumber => cases h
  | infinity s =>
    cases v with
    | infinity | notANumber => cases hv
    | _ => cases h
  | _ => rfl

/-! ## Operations on packed numbers -/

theorem isFinite_of_pack {u : UnpackedFloat}
    (h : (Float32.ofModel (.pack u)).isFinite = true) : u.isFinite = true := by
  cases u with
  | infinity s =>
    have hunpack := unpack_pack (u := .infinity s) trivial
    simp only [Float32.isFinite, Float32.Model.isFinite, hunpack] at h
    exact h
  | notANumber =>
    have hunpack := unpack_pack (u := .notANumber) trivial
    simp only [Float32.isFinite, Float32.Model.isFinite, hunpack] at h
    exact h
  | _ => rfl

variable {x y : Float32}

theorem finite_of_add (h : (x + y).isFinite = true) : x.isFinite = true ∧ y.isFinite = true :=
  isFinite_of_add (isFinite_of_pack h)

theorem finite_of_sub (h : (x - y).isFinite = true) : x.isFinite = true ∧ y.isFinite = true := by
  have hsub := isFinite_of_pack h
  rw [sub_eq_add_opposite] at hsub
  obtain ⟨hx, hy⟩ := isFinite_of_add hsub
  exact ⟨hx, (isFinite_neg _).symm.trans hy⟩

theorem finite_of_mul (h : (x * y).isFinite = true) : x.isFinite = true ∧ y.isFinite = true :=
  isFinite_of_mul (isFinite_of_pack h)

theorem finite_of_div (hy : y.isFinite = true) (h : (x / y).isFinite = true) :
    x.isFinite = true :=
  isFinite_of_div hy (isFinite_of_pack h)

theorem approximates_add (hx : x.isFinite = true) (hy : y.isFinite = true) :
    Approximates (value x + value y) (x + y) :=
  (isRounding_add hx hy (isCanonical_unpack x) (isCanonical_unpack y)).pack

theorem isRounding_sub (hx : x.isFinite = true) (hy : y.isFinite = true) :
    IsRounding (value x - value y)
      (UnpackedFloat.sub Format.binary32 x.toModel.unpack y.toModel.unpack) := by
  have hround := isRounding_add hx ((isFinite_neg _).trans hy) (isCanonical_unpack x)
    (isCanonical_neg (isCanonical_unpack y))
  rwa [← sub_eq_add_opposite, unpackedValue_neg, ← sub_eq_add_neg] at hround

theorem approximates_sub (hx : x.isFinite = true) (hy : y.isFinite = true) :
    Approximates (value x - value y) (x - y) :=
  (isRounding_sub hx hy).pack

theorem approximates_mul (hx : x.isFinite = true) (hy : y.isFinite = true) :
    Approximates (value x * value y) (x * y) :=
  (isRounding_mul hx hy (isCanonical_unpack x) (isCanonical_unpack y)).pack

theorem approximates_div (hx : x.isFinite = true) (hy : value y ≠ 0) :
    Approximates (value x / value y) (x / y) :=
  (isRounding_div hx hy).pack

theorem roundsTo_add (h : (x + y).isFinite = true) :
    RoundsTo (value x + value y) (value (x + y)) :=
  (approximates_add (finite_of_add h).1 (finite_of_add h).2).roundsTo h

theorem roundsTo_sub (h : (x - y).isFinite = true) :
    RoundsTo (value x - value y) (value (x - y)) :=
  (approximates_sub (finite_of_sub h).1 (finite_of_sub h).2).roundsTo h

theorem roundsTo_mul (h : (x * y).isFinite = true) :
    RoundsTo (value x * value y) (value (x * y)) :=
  (approximates_mul (finite_of_mul h).1 (finite_of_mul h).2).roundsTo h

theorem roundsTo_div (hy : y.isFinite = true) (hzero : value y ≠ 0) (h : (x / y).isFinite = true) :
    RoundsTo (value x / value y) (value (x / y)) :=
  (approximates_div (finite_of_div hy h) hzero).roundsTo h

/-! ## Natural numbers -/

/-- A number of 24 bits is not changed by rounding. -/
theorem RoundsTo.eq_of_multiple {q v : ℚ} {n e : ℤ} (h : RoundsTo q v) (hq : q = n * 2 ^ e)
    (hn : |n| < 2 ^ 24) (hmin : -149 ≤ e) : v = q := by
  obtain ⟨e', k, hmin', hstep, rfl, hnear, -⟩ := h
  have hpow : (0 : ℚ) < 2 ^ e' := by positivity
  have he : e' ≤ e := by
    rcases hstep with rfl | hstep
    · exact hmin
    · by_contra he
      have hn' : (|n| : ℚ) < 2 ^ 24 := by exact_mod_cast hn
      have htwo : (2 : ℚ) ^ (e + 1) ≤ 2 ^ e' := zpow_le_zpow_right₀ (by norm_num) (by omega)
      have hpow' : (0 : ℚ) < 2 ^ e := by positivity
      rw [zpow_add_one₀ (by norm_num)] at htwo
      rw [hq, abs_mul, abs_of_pos hpow'] at hstep
      nlinarith
  -- Now both numbers are multiples of the step.
  obtain ⟨d, rfl⟩ := Int.le.dest he
  have hgrid : q = (n * 2 ^ d : ℤ) * 2 ^ e' := by
    rw [hq, zpow_add₀ (by norm_num), zpow_natCast]
    push_cast
    ring
  have hsame : k = n * 2 ^ d := by
    rw [hgrid, ← sub_mul, abs_mul, abs_of_pos hpow, le_div_iff₀ (by norm_num), mul_right_comm,
      mul_le_iff_le_one_left hpow] at hnear
    have hdiff : |k - n * 2 ^ d| * 2 ≤ 1 := by exact_mod_cast hnear
    have hzero : |k - n * 2 ^ d| = 0 := by
      have := abs_nonneg (k - n * 2 ^ d)
      omega
    exact sub_eq_zero.1 (abs_eq_zero.1 hzero)
  rw [hgrid, hsame]

theorem RoundsTo.eq_natCast {n : Nat} {v : ℚ} (h : RoundsTo n v) (hn : n < 2 ^ 24) : v = n :=
  h.eq_of_multiple (n := n) (e := 0) (by simp) (by simpa using hn) (by norm_num)

theorem approximates_toUInt64 {n : Nat} (hn : n < 2 ^ 64) :
    Approximates n n.toUInt64.toFloat32 := by
  have hround := (isRounding_normalize n 0 .positive).pack
  have hcast : n.toUInt64.toNat = n := UInt64.toNat_ofNat_of_lt hn
  rw [zpow_zero, mul_one, Int.cast_natCast] at hround
  unfold UInt64.toFloat32 Float32.Model.ofUInt64 UnpackedFloat.ofUInt64 UnpackedFloat.ofNat
  rwa [hcast]

/-- The powers of ten up to the tenth have at most 24 bits. -/
theorem unpack_powerOfTen : ∀ k : Fin 11, ∃ m e hm,
    (Float32.exactlyRepresentablePowersOfTen[k]).toModel.unpack = .finite .positive m e hm ∧
      (m : ℚ) * 2 ^ (e : ℤ) = 10 ^ k.val
  | 0 => ⟨2 ^ 23, -23, by decide, rfl, by norm_num⟩
  | 1 => ⟨10 * 2 ^ 20, -20, by decide, rfl, by norm_num⟩
  | 2 => ⟨10 ^ 2 * 2 ^ 17, -17, by decide, rfl, by norm_num⟩
  | 3 => ⟨10 ^ 3 * 2 ^ 14, -14, by decide, rfl, by norm_num⟩
  | 4 => ⟨10 ^ 4 * 2 ^ 10, -10, by decide, rfl, by norm_num⟩
  | 5 => ⟨10 ^ 5 * 2 ^ 7, -7, by decide, rfl, by norm_num⟩
  | 6 => ⟨10 ^ 6 * 2 ^ 4, -4, by decide, rfl, by norm_num⟩
  | 7 => ⟨10 ^ 7, 0, by decide, rfl, by norm_num⟩
  | 8 => ⟨10 ^ 8 / 2 ^ 3, 3, by decide, rfl, by norm_num⟩
  | 9 => ⟨10 ^ 9 / 2 ^ 6, 6, by decide, rfl, by norm_num⟩
  | 10 => ⟨10 ^ 10 / 2 ^ 10, 10, by decide, rfl, by norm_num⟩

theorem value_powerOfTen {k : Nat} (hk : k < 11) :
    (Float32.exactlyRepresentablePowersOfTen[k]).isFinite = true ∧
      value (Float32.exactlyRepresentablePowersOfTen[k]) = 10 ^ k := by
  obtain ⟨m, e, hm, hunpack, hvalue⟩ := unpack_powerOfTen ⟨k, hk⟩
  change (Float32.exactlyRepresentablePowersOfTen[k]).toModel.unpack = _ at hunpack
  rw [value, Float32.isFinite, Float32.Model.isFinite, hunpack, unpackedValue_positive]
  exact ⟨rfl, hvalue⟩

/-- Natural numbers of 23 bits are converted exactly. -/
theorem value_toUInt64 {n : Nat} (hn : n < 2 ^ 23) :
    n.toUInt64.toFloat32.isFinite = true ∧ value n.toUInt64.toFloat32 = n := by
  have hexact := approximates_toUInt64 (n := n) (by omega)
  have hbound : (n : ℚ) < 2 ^ 23 := by exact_mod_cast hn
  have hfinite := hexact.isFinite (by rw [Nat.abs_cast]; norm_num at *; linarith)
  exact ⟨hfinite, (hexact.roundsTo hfinite).eq_natCast (by omega)⟩

/-- Small numbers are converted exactly and multiplied by a power of ten, here by 1. -/
theorem approximates_mul_powerOfTen {n : Nat} (hn : n < 2 ^ 23) :
    Approximates n
      (n.toUInt64.toFloat32 * Float32.exactlyRepresentablePowersOfTen[0]) := by
  obtain ⟨hfinite, hvalue⟩ := value_toUInt64 hn
  obtain ⟨hone, hvalue'⟩ := value_powerOfTen (k := 0) (by norm_num)
  have hmul := approximates_mul hfinite hone
  rwa [hvalue, hvalue', pow_zero, mul_one] at hmul

/-- Large numbers are rounded once. -/
theorem approximates_ofScientific {n : Nat} (hn : 2 ^ 23 ≤ n) :
    Approximates n (Float32.ofModel (Float32.Model.ofScientific n 0)) := by
  refine IsRounding.pack ?_
  have hsmall : ¬ (0 : ℤ) < -((2 ^ Format.binary32.exponentBits : ℤ) + n.log2) := by
    have hbits : ((2 : ℤ) ^ Format.binary32.exponentBits) = 256 := rfl
    omega
  rw [UnpackedFloat.ofScientific, dif_neg (by omega), if_neg (by decide), if_neg hsmall,
    if_pos le_rfl]
  have hround := isRounding_exact (m := n <<< 24 * 10 ^ 0) (e := -24 + 0)
    (.positive * .positive) (.inr (by rw [Nat.shiftLeft_eq]; omega))
  have hvalue : signed (.positive * .positive) ((n <<< 24 * 10 ^ 0 : Nat) * 2 ^ (-24 + 0 : ℤ)) =
      (n : ℚ) := by
    change ((n <<< 24 * 10 ^ 0 : Nat) * 2 ^ (-24 + 0 : ℤ) : ℚ) = n
    rw [Nat.shiftLeft_eq]
    push_cast
    norm_num
    ring
  rwa [hvalue] at hround

theorem approximates_ofNat (n : Nat) : Approximates n n.toFloat32 := by
  change Approximates n (Float32.ofScientific n false 0)
  unfold Float32.ofScientific
  split
  · rename_i h
    exact approximates_mul_powerOfTen h.1
  · exact approximates_ofScientific (by omega)

/-- Natural numbers of 24 bits are exact. -/
theorem value_ofNat {n : Nat} (hn : n < 2 ^ 24) :
    n.toFloat32.isFinite = true ∧ value n.toFloat32 = n := by
  have hbound : (n : ℚ) < 2 ^ 24 := by exact_mod_cast hn
  have hfinite := (approximates_ofNat n).isFinite (by rw [Nat.abs_cast]; norm_num at *; linarith)
  exact ⟨hfinite, ((approximates_ofNat n).roundsTo hfinite).eq_natCast hn⟩

theorem value_zero : value 0 = 0 :=
  (value_ofNat (n := 0) (by norm_num)).2.trans Nat.cast_zero

theorem isFinite_one : (1 : Float32).isFinite = true := (value_ofNat (n := 1) (by norm_num)).1

theorem value_one : value 1 = 1 :=
  (value_ofNat (n := 1) (by norm_num)).2.trans Nat.cast_one

end FlowchartLayout
