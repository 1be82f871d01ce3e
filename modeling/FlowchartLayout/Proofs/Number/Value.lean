import FlowchartLayout.Number.Binary32
import Mathlib

/-!
# Values of single precision numbers

A finite number stands for a rational number. Comparison, and with it the larger of two numbers,
agrees with the order of the rational numbers, with an infinity at either end.

## Main definitions

- `value` — the rational number that a finite number stands for
- `extended` — the same with both infinities
- `IsCanonical` — the form in which numbers are unpacked

## Main statements

- `unpack_pack` — packing loses nothing but numbers that are too large
- `lt_iff_extended`, `lt_iff_value` — comparison is the order of the values
-/

namespace FlowchartLayout

open Float.Model (Format UnpackedFloat)
open Float.Model.UnpackedFloat (Sign)

/-- The rational number that an unpacked number stands for, and 0 if it stands for none. -/
def unpackedValue : UnpackedFloat → ℚ
  | .finite s m e _ => s.apply m * 2 ^ e
  | _ => 0

/-- The rational number that a finite number stands for, and 0 for infinities and NaN. -/
def value (x : Float32) : ℚ :=
  unpackedValue x.toModel.unpack

/-- A mantissa has at most 24 bits, and uses all of them unless the exponent is the smallest one. -/
def IsCanonical : UnpackedFloat → Prop
  | .finite _ m e _ => m < 2 ^ 24 ∧ -149 ≤ e ∧ (e = -149 ∨ 2 ^ 23 ≤ m)
  | _ => True

/-! ## Packing -/

/-- The number with the given sign, exponent bits and mantissa bits. -/
def ofFields (s : Sign) (exponent : BitVec 8) (mantissa : BitVec 23) : UnpackedFloat :=
  if exponent = -1#8 then
    if mantissa = 0#23 then .infinity s else .notANumber
  else if exponent = 0#8 then
    if h : mantissa = 0#23 then .zero s
    else .finite s mantissa.toNat (-149) (by simpa [BitVec.toNat_pos, BitVec.pos_iff_ne_zero])
  else .finite s (2 ^ 23 + mantissa.toNat) (exponent.toNat - 150) (by omega)

theorem finite_congr {s : Sign} {m m' : Nat} {e e' : Int} (hm : 0 < m) (hmm : m = m')
    (hee : e = e') : UnpackedFloat.finite s m e hm = .finite s m' e' (hmm ▸ hm) := by
  subst hmm hee
  rfl

theorem toNat_implicitBit (mantissa : BitVec 23) :
    (1#1 ++ mantissa).toNat = 2 ^ 23 + mantissa.toNat := by
  rw [BitVec.toNat_append, ← Nat.shiftLeft_add_eq_or_of_lt mantissa.isLt]
  rfl

theorem unpack_eq_ofFields (b : BitVec 32) :
    UnpackedFloat.unpack Format.binary32 b =
      ofFields (Sign.ofBitVec (@UnpackedFloat.unpackSign Format.binary32 b))
        (@UnpackedFloat.unpackExponent Format.binary32 b)
        (@UnpackedFloat.unpackMantissa Format.binary32 b) := by
  have hbias : (Format.binary32.exponentBias : Int) = 127 := rfl
  simp only [UnpackedFloat.unpack, ofFields, hbias]
  split
  · rfl
  · split
    · rename_i hzero
      split
      · rfl
      · exact finite_congr _ rfl (by simp [hzero])
    · exact finite_congr _ (toNat_implicitBit _) (by push_cast; ring)

theorem isCanonical_ofFields (s : Sign) (exponent : BitVec 8) (mantissa : BitVec 23) :
    IsCanonical (ofFields s exponent mantissa) := by
  have hm := mantissa.isLt
  unfold ofFields
  split
  · split <;> exact trivial
  · split
    · split
      · exact trivial
      · exact ⟨by omega, le_rfl, .inl rfl⟩
    · next hzero =>
      have hpos : exponent.toNat ≠ 0 := fun h => hzero (BitVec.eq_of_toNat_eq (by simp [h]))
      simp only [IsCanonical]
      omega

/-- Numbers are unpacked in canonical form. -/
theorem isCanonical_unpack (x : Float32) : IsCanonical x.toModel.unpack := by
  rw [Float32.Model.unpack, unpack_eq_ofFields]
  exact isCanonical_ofFields ..

theorem unpack_packComponents (s : Sign) (exponent : BitVec 8) (mantissa : BitVec 23) :
    UnpackedFloat.unpack Format.binary32
      (UnpackedFloat.packComponents Format.binary32 s exponent mantissa) =
    ofFields s exponent mantissa := by
  rw [unpack_eq_ofFields, UnpackedFloat.unpackExponent_packComponents,
    UnpackedFloat.unpackMantissa_packComponents, UnpackedFloat.unpackSign_packComponents,
    Sign.ofBitVec_toBitVec]

theorem ofFields_normal {s : Sign} {m : Nat} {e : Int} (hm : 0 < m) (hfull : 2 ^ 23 ≤ m)
    (hlt : m < 2 ^ 24) (hmin : -149 ≤ e) (hmax : e ≤ 104) :
    ofFields s (BitVec.ofNat 8 (e + 150).toNat) (BitVec.ofNat 23 m) = .finite s m e hm := by
  have hexp : (BitVec.ofNat 8 (e + 150).toNat).toNat = (e + 150).toNat := by
    rw [BitVec.toNat_ofNat]
    omega
  have hones : BitVec.ofNat 8 (e + 150).toNat ≠ -1#8 := by
    intro h
    have htoNat : (e + 150).toNat = 255 := by rw [← hexp, h]; rfl
    omega
  have hzero : BitVec.ofNat 8 (e + 150).toNat ≠ 0#8 := by
    intro h
    have htoNat : (e + 150).toNat = 0 := by rw [← hexp, h]; rfl
    omega
  rw [ofFields, if_neg hones, if_neg hzero]
  exact finite_congr _ (by rw [BitVec.toNat_ofNat]; omega) (by rw [hexp]; omega)

theorem ofFields_subnormal {s : Sign} {m : Nat} (hm : 0 < m) (hlt : m < 2 ^ 23) :
    ofFields s 0#8 (BitVec.ofNat 23 m) = .finite s m (-149) hm := by
  have hmantissa : (BitVec.ofNat 23 m).toNat = m := by
    rw [BitVec.toNat_ofNat]
    omega
  have hzero : BitVec.ofNat 23 m ≠ 0#23 := by
    intro h
    have htoNat : m = 0 := by rw [← hmantissa, h]; rfl
    omega
  rw [ofFields, if_neg (by decide), if_pos rfl, dif_neg hzero]
  exact finite_congr _ hmantissa rfl

/-- The number that is left of an unpacked one when it is packed: an infinity if it is too large. -/
def overflow : UnpackedFloat → UnpackedFloat
  | .finite s m e h => if e ≤ 104 then .finite s m e h else .infinity s
  | u => u

/-- Packing loses nothing but numbers that are too large. -/
theorem unpack_pack {u : UnpackedFloat} (h : IsCanonical u) :
    (Float32.Model.pack u).unpack = overflow u := by
  simp only [Float32.Model.unpack, Float32.Model.pack]
  cases u with
  | infinity s => exact unpack_packComponents s (-1#8) 0#23
  | notANumber => exact unpack_packComponents .positive (-1#8) (1#23 <<< 22)
  | zero s => exact unpack_packComponents s 0#8 0#23
  | finite s m e hm =>
    obtain ⟨hlt, hmin, hcan⟩ := h
    have hbias : (Format.binary32.exponentBias : Int) = 127 := rfl
    have hbits : Format.binary32.mantissaBits = 24 := rfl
    simp only [UnpackedFloat.pack, hbias, hbits, overflow]
    by_cases hbig : e ≤ 104
    · rw [if_neg (by omega), if_pos hbig]
      by_cases hfull : 2 ^ 23 ≤ m
      · have hlog : m.log2 = 23 := (Nat.log2_eq_iff (by omega)).2 ⟨hfull, hlt⟩
        rw [if_pos (by omega), show e + 127 + (23 : Nat) = e + 150 by omega]
        exact (unpack_packComponents ..).trans (ofFields_normal hm hfull hlt hmin hbig)
      · have hlog : ¬ m.log2 + 1 = 24 := fun h =>
          hfull ((Nat.log2_eq_iff (by omega)).1 (by omega : m.log2 = 23)).1
        obtain rfl : e = -149 := by omega
        rw [if_neg hlog]
        exact (unpack_packComponents ..).trans (ofFields_subnormal hm (by omega))
    · rw [if_pos (by omega), if_neg hbig]
      exact unpack_packComponents s (-1#8) 0#23

/-! ## Order -/

/-- The number that an unpacked number stands for, between the infinities. -/
def unpackedExtended : UnpackedFloat → WithBot (WithTop ℚ)
  | .infinity .negative => ⊥
  | .infinity .positive => ⊤
  | u => ((unpackedValue u : WithTop ℚ) : WithBot (WithTop ℚ))

/-- The number that a number other than NaN stands for, between the infinities. -/
def extended (x : Float32) : WithBot (WithTop ℚ) :=
  unpackedExtended x.toModel.unpack

theorem magnitude_lt_of_exponent_lt {m m' : Nat} {e e' : Int} (hm : m < 2 ^ 24)
    (hm' : 2 ^ 23 ≤ m') (h : e < e') : (m : ℚ) * 2 ^ e < m' * 2 ^ e' := by
  have hstep : (2 : ℚ) ^ (e + 1) ≤ 2 ^ e' := zpow_le_zpow_right₀ (by norm_num) (by omega)
  calc (m : ℚ) * 2 ^ e < 2 ^ 24 * 2 ^ e := by
        have : (m : ℚ) < 2 ^ 24 := by exact_mod_cast hm
        gcongr
    _ = 2 ^ 23 * 2 ^ (e + 1) := by rw [zpow_add_one₀ (by norm_num)]; ring
    _ ≤ m' * 2 ^ e' := by
        have : (2 : ℚ) ^ 23 ≤ m' := by exact_mod_cast hm'
        gcongr

/-- In canonical form, the exponents decide first, and then the mantissas. -/
theorem compare_eq_lt_iff {s s' : Sign} {m m' : Nat} {e e' : Int} {hm : 0 < m} {hm' : 0 < m'}
    (h : IsCanonical (.finite s m e hm)) (h' : IsCanonical (.finite s' m' e' hm')) :
    (compare e e').then (compare m m') = .lt ↔ (m : ℚ) * 2 ^ e < m' * 2 ^ e' := by
  obtain ⟨hlt, hmin, hcan⟩ := h
  obtain ⟨hlt', hmin', hcan'⟩ := h'
  rcases lt_trichotomy e e' with he | rfl | he
  · have hvalue := magnitude_lt_of_exponent_lt hlt (hcan'.resolve_left (by omega)) he
    simp [Std.compare_eq_lt.2 he, hvalue]
  · have hpos : (0 : ℚ) < 2 ^ e := by positivity
    simp [hpos, Std.compare_eq_lt]
  · have hvalue := magnitude_lt_of_exponent_lt hlt' (hcan.resolve_left (by omega)) he
    simp [Std.compare_eq_gt.2 he, hvalue.le]

@[simp]
theorem unpackedValue_positive (m : Nat) (e : Int) (h : 0 < m) :
    unpackedValue (.finite .positive m e h) = m * 2 ^ e := by
  simp [unpackedValue, Sign.apply]

theorem value_of_unpack {x : Float32} {m : Nat} {e : ℤ} {hm : 0 < m}
    (h : x.toModel.unpack = .finite .positive m e hm) : value x = m * 2 ^ e := by
  rw [value, h, unpackedValue_positive]

@[simp]
theorem unpackedValue_negative (m : Nat) (e : Int) (h : 0 < m) :
    unpackedValue (.finite .negative m e h) = -(m * 2 ^ e) := by
  simp [unpackedValue, Sign.apply]

theorem magnitude_pos {m : Nat} (h : 0 < m) (e : Int) : (0 : ℚ) < m * 2 ^ e := by
  positivity

theorem swap_compare (e e' : Int) (m m' : Nat) :
    ((compare e e').then (compare m m')).swap = (compare e' e).then (compare m' m) := by
  rw [Ordering.swap_then, Std.OrientedOrd.eq_swap (a := e'), Std.OrientedOrd.eq_swap (a := m')]

@[simp]
theorem unpackedValue_zero (s : Sign) : unpackedValue (.zero s) = 0 := rfl

theorem unpackedExtended_of_isFinite {u : UnpackedFloat} (h : u.isFinite = true) :
    unpackedExtended u = ((unpackedValue u : WithTop ℚ) : WithBot (WithTop ℚ)) := by
  cases u with
  | infinity s => cases h
  | _ => rfl

/-- Comparison of finite numbers is the order of their values. -/
theorem compare_finite_eq_lt_iff {u v : UnpackedFloat} (hu : IsCanonical u) (hv : IsCanonical v)
    (hu' : u.isFinite = true) (hv' : v.isFinite = true) :
    u.compare v = some .lt ↔ unpackedValue u < unpackedValue v := by
  cases u with
  | infinity | notANumber => cases hu'
  | zero s =>
    cases v with
    | infinity | notANumber => cases hv'
    | zero t => simp [UnpackedFloat.compare]
    | finite t m e h =>
      have hpos := magnitude_pos h e
      cases t <;> simp [UnpackedFloat.compare, hpos, hpos.le]
  | finite s m e h =>
    have hpos := magnitude_pos h e
    cases v with
    | infinity | notANumber => cases hv'
    | zero t => cases s <;> simp [UnpackedFloat.compare, hpos, hpos.le]
    | finite t m' e' h' =>
      have hpos' := magnitude_pos h' e'
      cases s <;> cases t <;>
        simp only [UnpackedFloat.compare, unpackedValue_positive, unpackedValue_negative,
          swap_compare, Option.some.injEq, compare_eq_lt_iff hu hv, compare_eq_lt_iff hv hu,
          neg_lt_neg_iff, reduceCtorEq, true_iff, false_iff] <;>
        linarith

theorem coe_lt_infinity (q : ℚ) : ((q : WithTop ℚ) : WithBot (WithTop ℚ)) < ⊤ :=
  WithBot.coe_lt_coe.2 (WithTop.coe_lt_top q)

theorem compare_infinity_of_isFinite {u : UnpackedFloat} (h : u.isFinite = true) (s : Sign) :
    u.compare (.infinity s) = some (if s == .positive then .lt else .gt) := by
  cases u with
  | infinity | notANumber => cases h
  | _ => cases s <;> rfl

theorem infinity_compare_of_isFinite {u : UnpackedFloat} (h : u.isFinite = true) (s : Sign) :
    UnpackedFloat.compare (.infinity s) u = some (if s == .positive then .gt else .lt) := by
  cases u with
  | infinity | notANumber => cases h
  | _ => cases s <;> rfl

theorem eq_infinity_of_not_isFinite {u : UnpackedFloat} (h : ¬ u.isFinite = true)
    (hnan : u.isNaN = false) : ∃ s, u = .infinity s := by
  cases u with
  | infinity s => exact ⟨s, rfl⟩
  | notANumber => cases hnan
  | _ => exact absurd rfl h

theorem compare_eq_some_lt_iff {u v : UnpackedFloat} (hu : IsCanonical u) (hv : IsCanonical v)
    (hu' : u.isNaN = false) (hv' : v.isNaN = false) :
    u.compare v = some .lt ↔ unpackedExtended u < unpackedExtended v := by
  by_cases hfu : u.isFinite = true
  · rw [unpackedExtended_of_isFinite hfu]
    by_cases hfv : v.isFinite = true
    · rw [compare_finite_eq_lt_iff hu hv hfu hfv, unpackedExtended_of_isFinite hfv,
        WithBot.coe_lt_coe, WithTop.coe_lt_coe]
    · obtain ⟨t, rfl⟩ := eq_infinity_of_not_isFinite hfv hv'
      rw [compare_infinity_of_isFinite hfu]
      cases t with
      | negative => exact iff_of_false nofun not_lt_bot
      | positive => exact iff_of_true rfl (coe_lt_infinity _)
  · obtain ⟨s, rfl⟩ := eq_infinity_of_not_isFinite hfu hu'
    by_cases hfv : v.isFinite = true
    · rw [infinity_compare_of_isFinite hfv, unpackedExtended_of_isFinite hfv]
      cases s with
      | negative => exact iff_of_true rfl (WithBot.bot_lt_coe _)
      | positive => exact iff_of_false nofun (coe_lt_infinity _).not_gt
    · obtain ⟨t, rfl⟩ := eq_infinity_of_not_isFinite hfv hv'
      cases s <;> cases t <;> simp [UnpackedFloat.compare, unpackedExtended, compare]

/-- Numbers that compare as equal are the same number, or zeros of any sign. -/
theorem eq_or_zero_of_compare_eq {u v : UnpackedFloat} (h : u.compare v = some .eq) :
    u = v ∨ ∃ s t, u = .zero s ∧ v = .zero t := by
  cases u with
  | notANumber => cases h
  | infinity s => cases v with
    | notANumber => cases s <;> cases h
    | infinity t => cases s <;> cases t <;> first | exact .inl rfl | cases h
    | zero t | finite t => cases s <;> cases h
  | zero s => cases v with
    | notANumber => cases h
    | infinity t | finite t => cases t <;> cases h
    | zero t => exact .inr ⟨s, t, rfl, rfl⟩
  | finite s m e hm => cases v with
    | notANumber => cases h
    | infinity t | zero t => cases s <;> cases t <;> cases h
    | finite t m' e' hm' =>
      have hsame : (compare e e').then (compare m m') = .eq → e = e' ∧ m = m' := by
        simp [Ordering.then_eq_eq]
      cases s <;> cases t <;> simp only [UnpackedFloat.compare, Option.some.injEq,
        Ordering.swap_eq_eq, reduceCtorEq] at h
      all_goals
        obtain ⟨rfl, rfl⟩ := hsame h
        exact .inl rfl

theorem lt_iff_compare (x y : Float32) :
    x < y ↔ x.toModel.unpack.compare y.toModel.unpack = some .lt := by
  simp [LT.lt, Float32.lt, Float32.Model.lt, UnpackedFloat.lt]

theorem lt_iff_extended {x y : Float32} (hx : x.isNaN = false) (hy : y.isNaN = false) :
    x < y ↔ extended x < extended y :=
  (lt_iff_compare x y).trans
    (compare_eq_some_lt_iff (isCanonical_unpack x) (isCanonical_unpack y) hx hy)

theorem lt_iff_value {x y : Float32} (hx : x.isFinite = true) (hy : y.isFinite = true) :
    x < y ↔ value x < value y :=
  (lt_iff_compare x y).trans
    (compare_finite_eq_lt_iff (isCanonical_unpack x) (isCanonical_unpack y) hx hy)

/-- Equal numbers, of which one is not zero, have the same form. -/
theorem unpack_eq_of_beq {x y : Float32} (h : (x == y) = true) (hx : extended x ≠ 0) :
    x.toModel.unpack = y.toModel.unpack := by
  have hbeq : (x.toModel.unpack.compare y.toModel.unpack == some .eq) = true := h
  have hcompare : x.toModel.unpack.compare y.toModel.unpack = some .eq := by simpa using hbeq
  rcases eq_or_zero_of_compare_eq hcompare with heq | ⟨s, t, hzero, -⟩
  · exact heq
  · refine absurd ?_ hx
    rw [extended, hzero]
    rfl

theorem isNaN_of_isFinite {x : Float32} (h : x.isFinite = true) : x.isNaN = false := by
  simp only [Float32.isFinite, Float32.isNaN, Float32.Model.isFinite, Float32.Model.isNaN] at h ⊢
  generalize x.toModel.unpack = u at h ⊢
  cases u with
  | notANumber => cases h
  | _ => rfl

theorem extended_of_isFinite {x : Float32} (h : x.isFinite = true) :
    extended x = ((value x : WithTop ℚ) : WithBot (WithTop ℚ)) :=
  unpackedExtended_of_isFinite h

/-- A number between two finite ones is finite. -/
theorem isFinite_of_extended_mem {x : Float32} {a b : ℚ} (hnan : x.isNaN = false)
    (ha : ((a : WithTop ℚ) : WithBot (WithTop ℚ)) ≤ extended x)
    (hb : extended x ≤ ((b : WithTop ℚ) : WithBot (WithTop ℚ))) : x.isFinite = true := by
  by_contra hfinite
  obtain ⟨s, hs⟩ := eq_infinity_of_not_isFinite hfinite hnan
  simp only [extended, hs] at ha hb
  cases s with
  | negative => exact absurd ha (WithBot.bot_lt_coe _).not_ge
  | positive => exact absurd hb (coe_lt_infinity _).not_ge

/-! ## The larger of two numbers -/

theorem isNaN_larger_right {x y : Float32} (hy : y.isNaN = false) :
    (larger x y).isNaN = false := by
  unfold larger
  split
  · exact hy
  · split
    · exact hy
    · next hx _ => exact Bool.eq_false_of_not_eq_true hx

theorem extended_larger {x y : Float32} (hx : x.isNaN = false) (hy : y.isNaN = false) :
    extended (larger x y) = max (extended x) (extended y) := by
  rw [larger, hx, if_neg Bool.false_ne_true]
  by_cases h : x < y
  · rw [if_pos h, max_eq_right ((lt_iff_extended hx hy).1 h).le]
  · rw [if_neg h, max_eq_left (not_lt.1 fun hlt => h ((lt_iff_extended hx hy).2 hlt))]

theorem extended_le_larger_right {x y : Float32} (hy : y.isNaN = false) :
    extended y ≤ extended (larger x y) := by
  by_cases hx : x.isNaN = true
  · rw [larger, if_pos hx]
  · rw [extended_larger (Bool.eq_false_of_not_eq_true hx) hy]
    exact le_max_right _ _

end FlowchartLayout
