import FlowchartLayout.Proofs.Number.Arithmetic

/-!
# Rounding and order

No single precision number is nearer to an exact result than the rounded one. So rounding keeps the
order of exact results, and it does not cross a single precision number. With an infinity in place
of a result that is too large, a bound on the exact result is a bound on the result.

## Main definitions

- `IsOutermost` — one of several numbers that none of the others lies beyond

## Main statements

- `lt_iff`, `le_iff` — comparison is an order of all numbers but NaN
- `le_larger` — the larger of two numbers keeps bounds, NaN included
- `isOutermost_smaller`, `isOutermost_larger` — the smallest and the largest of several numbers
- `RoundsTo.nearest` — the rounded number is the nearest one
- `IsRounding.le_pack`, `IsRounding.pack_le` — a result does not cross a bound on the exact one
- `le_add`, `le_sub` — sums and differences keep bounds, infinite operands included
- `sub_div_sub_le_one` — the ratio of two distances from one point is not more than 1
-/

namespace FlowchartLayout

open Float.Model (Format UnpackedFloat)
open Float.Model.UnpackedFloat (Sign)

/-! ## Comparison -/

theorem compare_eq_none_iff {u v : UnpackedFloat} :
    u.compare v = none ↔ u.isNaN = true ∨ v.isNaN = true := by
  cases u with
  | notANumber => simp [UnpackedFloat.compare, UnpackedFloat.isNaN]
  | infinity s => cases v <;> cases s <;> simp [UnpackedFloat.compare, UnpackedFloat.isNaN]
  | zero s =>
    cases v with
    | infinity t | finite t => cases t <;> simp [UnpackedFloat.compare, UnpackedFloat.isNaN]
    | _ => simp [UnpackedFloat.compare, UnpackedFloat.isNaN]
  | finite s =>
    cases v with
    | notANumber => cases s <;> simp [UnpackedFloat.compare, UnpackedFloat.isNaN]
    | infinity t | zero t | finite t =>
      cases s <;> cases t <;> simp [UnpackedFloat.compare, UnpackedFloat.isNaN]

/-- Comparison the other way round. -/
theorem compare_swap (u v : UnpackedFloat) :
    v.compare u = (u.compare v).map Ordering.swap := by
  cases u with
  | notANumber => cases v with
    | notANumber => rfl
    | infinity t | zero t | finite t => cases t <;> rfl
  | infinity s => cases v with
    | infinity t => cases s <;> cases t <;> rfl
    | notANumber | zero t | finite t => cases s <;> rfl
  | zero s => cases v with
    | notANumber | zero t => rfl
    | infinity t | finite t => cases t <;> rfl
  | finite s m e hm => cases v with
    | notANumber | zero t => cases s <;> rfl
    | infinity t => cases t <;> rfl
    | finite t m' e' hm' =>
      cases s <;> cases t <;> simp [UnpackedFloat.compare, swap_compare]

theorem lt_iff {x y : Float32} :
    x < y ↔ x.isNaN = false ∧ y.isNaN = false ∧ extended x < extended y := by
  constructor
  · intro h
    have hcompare := (lt_iff_compare x y).1 h
    have hnan : ¬ (x.isNaN = true ∨ y.isNaN = true) := fun hnan => by
      rw [compare_eq_none_iff.2 hnan] at hcompare
      cases hcompare
    rw [not_or, Bool.not_eq_true, Bool.not_eq_true] at hnan
    exact ⟨hnan.1, hnan.2, (lt_iff_extended hnan.1 hnan.2).1 h⟩
  · rintro ⟨hx, hy, h⟩
    exact (lt_iff_extended hx hy).2 h

theorem le_iff_compare (x y : Float32) :
    x ≤ y ↔ ∃ o, x.toModel.unpack.compare y.toModel.unpack = some o ∧ o ≠ .gt := by
  have hle : x ≤ y ↔ (x.toModel.unpack.compare y.toModel.unpack).any (·.isLE) = true :=
    decide_eq_true_iff
  rw [hle]
  cases x.toModel.unpack.compare y.toModel.unpack with
  | none => simp
  | some o => cases o <;> simp

theorem le_iff {x y : Float32} :
    x ≤ y ↔ x.isNaN = false ∧ y.isNaN = false ∧ extended x ≤ extended y := by
  have hgt : x.toModel.unpack.compare y.toModel.unpack = some .gt ↔ y < x := by
    rw [lt_iff_compare, compare_swap x.toModel.unpack]
    cases x.toModel.unpack.compare y.toModel.unpack with
    | none => simp
    | some o => cases o <;> simp
  have hnone : x.toModel.unpack.compare y.toModel.unpack = none ↔
      x.isNaN = true ∨ y.isNaN = true := compare_eq_none_iff
  rw [le_iff_compare]
  constructor
  · rintro ⟨o, ho, hne⟩
    have hnan : ¬ (x.isNaN = true ∨ y.isNaN = true) := by
      rw [← hnone, ho]
      exact Option.some_ne_none o
    rw [not_or, Bool.not_eq_true, Bool.not_eq_true] at hnan
    refine ⟨hnan.1, hnan.2, not_lt.1 fun hlt => hne ?_⟩
    exact Option.some.inj (ho.symm.trans (hgt.2 (lt_iff.2 ⟨hnan.2, hnan.1, hlt⟩)))
  · rintro ⟨hx, hy, hle⟩
    have hsome : x.toModel.unpack.compare y.toModel.unpack ≠ none := by
      rw [Ne, hnone, hx, hy]
      simp
    obtain ⟨o, ho⟩ := Option.ne_none_iff_exists'.1 hsome
    refine ⟨o, ho, ?_⟩
    rintro rfl
    exact absurd (lt_iff.1 (hgt.1 ho)).2.2 hle.not_gt

theorem le_self {x : Float32} (h : x.isNaN = false) : x ≤ x :=
  le_iff.2 ⟨h, h, le_rfl⟩

theorem le_of_le_of_lt {x y z : Float32} (hxy : x ≤ y) (hyz : y < z) : x ≤ z := by
  obtain ⟨hx, -, hle⟩ := le_iff.1 hxy
  obtain ⟨-, hz, hlt⟩ := lt_iff.1 hyz
  exact le_iff.2 ⟨hx, hz, hle.trans hlt.le⟩

/-- The larger of two numbers keeps the bounds of the first one, whatever the second one is. -/
theorem le_larger {a x : Float32} (h : a ≤ x) (y : Float32) : a ≤ larger x y := by
  rw [larger, (le_iff.1 h).2.1, if_neg Bool.false_ne_true]
  split
  · next hlt => exact le_of_le_of_lt h hlt
  · exact h

theorem larger_le {a x y : Float32} (hx : x ≤ a) (hy : y ≤ a) : larger x y ≤ a := by
  unfold larger
  split
  · exact hy
  · split
    · exact hy
    · exact hx

theorem smaller_le {a x y : Float32} (hx : x ≤ a) (hy : y ≤ a) : smaller x y ≤ a := by
  unfold smaller
  split
  · exact hy
  · split
    · exact hy
    · exact hx

/-! ## The outermost of several numbers -/

/-- The number is found by going through several in order and picking one of two each time. It is
one of them, and none of them lies beyond it. -/
structure IsOutermost (pick : Float32 → Float32 → Float32) (beyond : Float32 → Float32 → Prop)
    (xs : List Float32) (x : Float32) : Prop where
  picked : ∃ first rest, xs = first :: rest ∧ x = rest.foldl pick first
  mem : x ∈ xs
  not_beyond : ∀ y ∈ xs, ¬ beyond y x

section Pick

variable {α : Type} [LinearOrder α] {key : Float32 → α} {beyond : Float32 → Float32 → Prop}
  [DecidableRel beyond]

/-- Of two numbers the second one is picked if the first one is NaN or if the second one lies beyond
it. If either of them lies beyond a number, so does the one that is picked. -/
theorem beyond_pick
    (hkey : ∀ x y, beyond x y ↔ x.isNaN = false ∧ y.isNaN = false ∧ key x < key y)
    {x y z : Float32} (h : beyond x z ∨ beyond y z) :
    beyond (if x.isNaN then y else if beyond y x then y else x) z := by
  cases hx : x.isNaN with
  | true =>
    refine h.resolve_left fun hxz => ?_
    rw [((hkey x z).1 hxz).1] at hx
    cases hx
  | false =>
    rw [if_neg Bool.false_ne_true]
    split
    · next hyx =>
      rcases h with hxz | hyz
      · obtain ⟨hy, -, hlt⟩ := (hkey y x).1 hyx
        obtain ⟨-, hz, hlt'⟩ := (hkey x z).1 hxz
        exact (hkey y z).2 ⟨hy, hz, hlt.trans hlt'⟩
      · exact hyz
    · next hyx =>
      rcases h with hxz | hyz
      · exact hxz
      · obtain ⟨hy, hz, hlt⟩ := (hkey y z).1 hyz
        have hle : key x ≤ key y := not_lt.1 fun hlt => hyx ((hkey y x).2 ⟨hy, hx, hlt⟩)
        exact (hkey x z).2 ⟨hx, hz, hle.trans_lt hlt⟩

theorem isOutermost_foldl (key : Float32 → α)
    (hkey : ∀ x y, beyond x y ↔ x.isNaN = false ∧ y.isNaN = false ∧ key x < key y)
    {pick : Float32 → Float32 → Float32}
    (hpick : ∀ x y, pick x y = if x.isNaN then y else if beyond y x then y else x)
    (first : Float32) (rest : List Float32) :
    IsOutermost pick beyond (first :: rest) (rest.foldl pick first) where
  picked := ⟨first, rest, rfl, rfl⟩
  mem := by
    refine List.foldlRecOn (motive := (· ∈ first :: rest)) rest pick List.mem_cons_self ?_
    intro x hx y hy
    rw [hpick]
    split
    · exact List.mem_cons_of_mem _ hy
    · split
      · exact List.mem_cons_of_mem _ hy
      · exact hx
  not_beyond := by
    induction rest generalizing first with
    | nil =>
      intro y hy h
      rw [List.mem_singleton.1 hy] at h
      exact lt_irrefl _ ((hkey _ _).1 h).2.2
    | cons next rest ih =>
      have hstep {x : Float32} (h : beyond first x ∨ beyond next x) :
          beyond (pick first next) x := by
        rw [hpick]
        exact beyond_pick hkey h
      intro y hy h
      have hpicked := ih (pick first next) _ List.mem_cons_self
      rcases List.mem_cons.1 hy with rfl | hy
      · exact hpicked (hstep (.inl h))
      · rcases List.mem_cons.1 hy with rfl | hy
        · exact hpicked (hstep (.inr h))
        · exact ih (pick first next) y (List.mem_cons_of_mem _ hy) h

end Pick

theorem isOutermost_smaller (first : Float32) (rest : List Float32) :
    IsOutermost smaller (· < ·) (first :: rest) (rest.foldl smaller first) :=
  isOutermost_foldl extended (fun _ _ => lt_iff) (fun _ _ => rfl) first rest

theorem isOutermost_larger (first : Float32) (rest : List Float32) :
    IsOutermost larger (· > ·) (first :: rest) (rest.foldl larger first) :=
  isOutermost_foldl (fun x => OrderDual.toDual (extended x))
    (fun _ _ => lt_iff.trans (by rw [OrderDual.toDual_lt_toDual, and_left_comm]))
    (fun _ _ => rfl) first rest

/-- A number between two others is neither of the infinities. -/
theorem isFinite_of_lt_of_lt {x y z : Float32} (hxy : x < y) (hyz : y < z) :
    y.isFinite = true := by
  by_contra hfinite
  have hlow := (lt_iff.1 hxy).2.2
  have hhigh := (lt_iff.1 hyz).2.2
  obtain ⟨s, hs⟩ := eq_infinity_of_not_isFinite hfinite (lt_iff.1 hxy).2.1
  simp only [extended, hs] at hlow hhigh
  cases s with
  | negative => exact not_lt_bot hlow
  | positive => exact not_top_lt hhigh

/-! ## Nearest numbers -/

/-- Numbers in canonical form are multiples of powers of two, by a factor of at most 24 bits. -/
theorem IsCanonical.exists_multiple {u : UnpackedFloat} (h : IsCanonical u) :
    ∃ n e : ℤ, -149 ≤ e ∧ |n| < 2 ^ 24 ∧ unpackedValue u = n * 2 ^ e := by
  cases u with
  | finite s m e hm =>
    obtain ⟨hlt, hmin, -⟩ := h
    refine ⟨s.apply m, e, hmin, ?_, rfl⟩
    have hlt' : (m : ℤ) < 2 ^ 24 := by exact_mod_cast hlt
    cases s <;> simpa [Sign.apply] using hlt'
  | _ => exact ⟨0, -149, le_rfl, by norm_num, by simp [unpackedValue]⟩

/-- All numbers are multiples of the smallest one. -/
theorem exists_smallest_multiple (x : Float32) : ∃ k : ℤ, value x = k * 2 ^ (-149 : ℤ) := by
  obtain ⟨n, e, hmin, -, hvalue⟩ := (isCanonical_unpack x).exists_multiple
  obtain ⟨d, rfl⟩ := Int.le.dest hmin
  refine ⟨n * 2 ^ d, ?_⟩
  rw [value, hvalue, zpow_add₀ (by norm_num), zpow_natCast]
  push_cast
  ring

/-- A multiple of a step at most half a step away is a nearest one. -/
theorem abs_sub_le_of_multiple {q : ℚ} {n e : ℤ} (h : |(n : ℚ) * 2 ^ e - q| ≤ 2 ^ e / 2) (k : ℤ) :
    |(n : ℚ) * 2 ^ e - q| ≤ |(k : ℚ) * 2 ^ e - q| := by
  by_cases hnk : n = k
  · rw [hnk]
  · have hpow : (0 : ℚ) < 2 ^ e := by positivity
    have hone : (1 : ℚ) ≤ |(n : ℚ) - k| := by exact_mod_cast Int.one_le_abs (sub_ne_zero.2 hnk)
    have hapart : (2 : ℚ) ^ e ≤ |(n : ℚ) * 2 ^ e - k * 2 ^ e| := by
      rw [← sub_mul, abs_mul, abs_of_pos hpow]
      exact le_mul_of_one_le_left hpow.le hone
    have htriangle := abs_sub_le ((n : ℚ) * 2 ^ e) q (k * 2 ^ e)
    rw [abs_sub_comm q] at htriangle
    linarith

/-- No single precision number is nearer to the exact number than the rounded one. -/
theorem RoundsTo.nearest {q v : ℚ} (h : RoundsTo q v) {u : UnpackedFloat} (hu : IsCanonical u) :
    |v - q| ≤ |unpackedValue u - q| := by
  obtain ⟨e, n, hmin, hstep, rfl, hnear, -⟩ := h
  obtain ⟨m, e', hmin', hm, hvalue⟩ := hu.exists_multiple
  rw [hvalue]
  by_cases he : e ≤ e'
  · obtain ⟨d, rfl⟩ := Int.le.dest he
    have hmultiple : (m : ℚ) * 2 ^ (e + d) = ((m * 2 ^ d : ℤ) : ℚ) * 2 ^ e := by
      rw [zpow_add₀ (by norm_num), zpow_natCast]
      push_cast
      ring
    rw [hmultiple]
    exact abs_sub_le_of_multiple hnear _
  · -- numbers with smaller steps lie on the near side of 24 bits of these steps
    have hlarge := hstep.resolve_left (by omega)
    have hsmall : |(m : ℚ) * 2 ^ e'| ≤ 2 ^ 23 * 2 ^ e := by
      have hm' : (|m| : ℚ) ≤ 2 ^ 24 := by exact_mod_cast hm.le
      rw [abs_mul, abs_of_pos (by positivity : (0 : ℚ) < 2 ^ e')]
      calc (|m| : ℚ) * 2 ^ e' ≤ 2 ^ 24 * 2 ^ (e - 1) :=
            mul_le_mul hm' (zpow_le_zpow_right₀ (by norm_num) (by omega)) (by positivity)
              (by norm_num)
        _ = 2 ^ 23 * 2 ^ e := by rw [zpow_sub_one₀ (by norm_num)]; ring
    have hgrid : |(n : ℚ) * 2 ^ e - q| ≤ |q| - 2 ^ 23 * 2 ^ e := by
      by_cases hq : 0 ≤ q
      · rw [abs_of_nonneg hq] at hlarge ⊢
        have hgrid := abs_sub_le_of_multiple hnear (2 ^ 23)
        simp only [Int.cast_pow, Int.cast_ofNat] at hgrid
        rwa [abs_of_nonpos (sub_nonpos.2 hlarge), neg_sub] at hgrid
      · rw [abs_of_neg (not_le.1 hq)] at hlarge ⊢
        have hgrid := abs_sub_le_of_multiple hnear (-2 ^ 23)
        simp only [Int.cast_neg, Int.cast_pow, Int.cast_ofNat, neg_mul] at hgrid
        rwa [abs_of_nonneg (by linarith : 0 ≤ -((2 : ℚ) ^ 23 * 2 ^ e) - q), neg_sub_comm] at hgrid
    calc |(n : ℚ) * 2 ^ e - q| ≤ |q| - 2 ^ 23 * 2 ^ e := hgrid
      _ ≤ |q| - |(m : ℚ) * 2 ^ e'| := sub_le_sub_left hsmall _
      _ ≤ |q - m * 2 ^ e'| := abs_sub_abs_le_abs_sub q _
      _ = |(m : ℚ) * 2 ^ e' - q| := abs_sub_comm q _

/-- Rounding does not cross a single precision number above the exact one. -/
theorem RoundsTo.le_unpackedValue {q v : ℚ} (h : RoundsTo q v) {u : UnpackedFloat}
    (hu : IsCanonical u) (hle : q ≤ unpackedValue u) : v ≤ unpackedValue u := by
  by_contra hlt
  have hlt := not_le.1 hlt
  have hnear := h.nearest hu
  rw [abs_of_nonneg (by linarith), abs_of_nonneg (by linarith)] at hnear
  linarith

/-- Rounding does not cross a single precision number below the exact one. -/
theorem RoundsTo.unpackedValue_le {q v : ℚ} (h : RoundsTo q v) {u : UnpackedFloat}
    (hu : IsCanonical u) (hle : unpackedValue u ≤ q) : unpackedValue u ≤ v := by
  have hneg := h.neg.le_unpackedValue (isCanonical_neg hu)
    (by rw [unpackedValue_neg]; exact neg_le_neg hle)
  rw [unpackedValue_neg] at hneg
  exact neg_le_neg_iff.1 hneg

/-- Rounding keeps the order of exact numbers. -/
theorem RoundsTo.value_le_value {q r : ℚ} {x y : Float32} (hx : RoundsTo q (value x))
    (hy : RoundsTo r (value y)) (hlt : q < r) : value x ≤ value y := by
  by_contra hgt
  have hgt := not_le.1 hgt
  -- the middle of both would be at least as large as `r` and at most as large as `q`
  have hnear := sq_le_sq.2 (hx.nearest (isCanonical_unpack y))
  have hnear' := sq_le_sq.2 (hy.nearest (isCanonical_unpack x))
  change (value x - q) ^ 2 ≤ (value y - q) ^ 2 at hnear
  change (value y - r) ^ 2 ≤ (value x - r) ^ 2 at hnear'
  nlinarith

/-! ## Results of operations -/

theorem overflow_ofFields (s : Sign) (exponent : BitVec 8) (mantissa : BitVec 23) :
    overflow (ofFields s exponent mantissa) = ofFields s exponent mantissa := by
  unfold ofFields
  split
  · split <;> rfl
  · next hones =>
    split
    · split
      · rfl
      · rw [overflow, if_pos (by norm_num)]
    · have hmax : exponent.toNat ≠ 255 := fun h => hones (BitVec.eq_of_toNat_eq (by rw [h]; rfl))
      have hlt := exponent.isLt
      rw [overflow, if_pos (by omega)]

/-- No number is too large for its form. -/
theorem overflow_unpack (x : Float32) : overflow x.toModel.unpack = x.toModel.unpack := by
  rw [Float32.Model.unpack, unpack_eq_ofFields]
  exact overflow_ofFields ..

theorem abs_value_lt {x : Float32} (h : x.isFinite = true) : |value x| < 2 ^ 128 := by
  refine (isFinite_pack_iff (isCanonical_unpack x) h).1 ?_
  rw [Float32.isFinite, Float32.Model.isFinite, unpack_ofModel_pack (isCanonical_unpack x),
    overflow_unpack]
  exact h

/-- What is too large becomes an infinity of its sign. -/
theorem overflow_cases {u : UnpackedFloat} (hcan : IsCanonical u) (hfinite : u.isFinite = true) :
    overflow u = u ∨ (overflow u = .infinity .positive ∧ 2 ^ 128 ≤ unpackedValue u) ∨
      (overflow u = .infinity .negative ∧ unpackedValue u ≤ -2 ^ 128) := by
  cases u with
  | infinity | notANumber => cases hfinite
  | zero s => exact .inl rfl
  | finite s m e hm =>
    by_cases he : e ≤ 104
    · exact .inl (if_pos he)
    · have hoverflow : overflow (.finite s m e hm) = .infinity s := if_neg he
      have hlarge : ¬ |unpackedValue (.finite s m e hm)| < 2 ^ 128 := by
        rw [← isFinite_pack_iff hcan hfinite, Float32.isFinite, Float32.Model.isFinite,
          unpack_ofModel_pack hcan, hoverflow]
        exact Bool.false_ne_true
      have hpos := magnitude_pos hm e
      rw [hoverflow]
      cases s with
      | positive =>
        rw [unpackedValue_positive, abs_of_pos hpos, not_lt] at hlarge
        exact .inr (.inl ⟨rfl, by rwa [unpackedValue_positive]⟩)
      | negative =>
        rw [unpackedValue_negative, abs_neg, abs_of_pos hpos, not_lt] at hlarge
        exact .inr (.inr ⟨rfl, by rw [unpackedValue_negative]; exact neg_le_neg hlarge⟩)

theorem extended_pack {u : UnpackedFloat} (hcan : IsCanonical u) :
    extended (.ofModel (.pack u)) = unpackedExtended (overflow u) := by
  rw [extended, unpack_ofModel_pack hcan]

theorem isNaN_pack {u : UnpackedFloat} (hcan : IsCanonical u) :
    (Float32.ofModel (.pack u)).isNaN = (overflow u).isNaN := by
  rw [Float32.isNaN, Float32.Model.isNaN, unpack_ofModel_pack hcan]

theorem isNaN_unpacked_of_isFinite {u : UnpackedFloat} (h : u.isFinite = true) :
    u.isNaN = false := by
  cases u with
  | notANumber => cases h
  | _ => rfl

namespace IsRounding

variable {q : ℚ} {u : UnpackedFloat} {x : Float32}

/-- A bound below the exact result is a bound below the result. -/
theorem le_pack (h : IsRounding q u) (hx : x.isFinite = true) (hle : value x ≤ q) :
    x ≤ .ofModel (.pack u) := by
  have hbound : value x ≤ unpackedValue u := h.roundsTo.unpackedValue_le (isCanonical_unpack x) hle
  have habs := abs_lt.1 (abs_value_lt hx)
  rw [le_iff, isNaN_pack h.isCanonical, extended_pack h.isCanonical, extended_of_isFinite hx]
  refine ⟨isNaN_of_isFinite hx, ?_⟩
  rcases overflow_cases h.isCanonical h.isFinite with hsame | ⟨hinf, -⟩ | ⟨-, hlow⟩
  · rw [hsame, unpackedExtended_of_isFinite h.isFinite]
    exact ⟨isNaN_unpacked_of_isFinite h.isFinite,
      WithBot.coe_le_coe.2 (WithTop.coe_le_coe.2 hbound)⟩
  · rw [hinf]
    exact ⟨rfl, le_top⟩
  · linarith

/-- A bound above the exact result is a bound above the result. -/
theorem pack_le (h : IsRounding q u) (hx : x.isFinite = true) (hle : q ≤ value x) :
    .ofModel (.pack u) ≤ x := by
  have hbound : unpackedValue u ≤ value x := h.roundsTo.le_unpackedValue (isCanonical_unpack x) hle
  have habs := abs_lt.1 (abs_value_lt hx)
  rw [le_iff, isNaN_pack h.isCanonical, extended_pack h.isCanonical, extended_of_isFinite hx]
  rcases overflow_cases h.isCanonical h.isFinite with hsame | ⟨-, hhigh⟩ | ⟨hinf, -⟩
  · rw [hsame, unpackedExtended_of_isFinite h.isFinite]
    exact ⟨isNaN_unpacked_of_isFinite h.isFinite, isNaN_of_isFinite hx,
      WithBot.coe_le_coe.2 (WithTop.coe_le_coe.2 hbound)⟩
  · linarith
  · rw [hinf]
    exact ⟨rfl, isNaN_of_isFinite hx, bot_le⟩

/-- A result is finite if the exact one is not larger than some finite number. -/
theorem isFinite_pack (h : IsRounding q u) (hx : x.isFinite = true) (hle : |q| ≤ |value x|) :
    (Float32.ofModel (.pack u)).isFinite = true := by
  obtain ⟨w, hw, habs⟩ : ∃ w, IsCanonical w ∧ unpackedValue w = |value x| := by
    rcases abs_choice (value x) with hpos | hneg
    · exact ⟨_, isCanonical_unpack x, hpos.symm⟩
    · exact ⟨_, isCanonical_neg (isCanonical_unpack x), (unpackedValue_neg _).trans hneg.symm⟩
  have hbounds := abs_le.1 hle
  rw [← habs] at hbounds
  have hhigh := h.roundsTo.le_unpackedValue hw hbounds.2
  have hlow := h.roundsTo.unpackedValue_le (isCanonical_neg hw)
    (by rw [unpackedValue_neg]; exact hbounds.1)
  rw [unpackedValue_neg] at hlow
  rw [isFinite_pack_iff h.isCanonical h.isFinite]
  refine lt_of_le_of_lt (abs_le.2 ⟨hlow, hhigh⟩) ?_
  rw [habs]
  exact abs_value_lt hx

end IsRounding

/-! ## Sums and differences -/

/-- A sum keeps a bound of its first term, which may be infinite. -/
theorem le_pack_add {u v : UnpackedFloat} (hcu : IsCanonical u) (hcv : IsCanonical v)
    (hnan : u.isNaN = false) (hv : v.isFinite = true) {a : ℚ}
    (ha : ((a : WithTop ℚ) : WithBot (WithTop ℚ)) ≤ unpackedExtended u) {z : Float32}
    (hz : z.isFinite = true) (h : value z ≤ a + unpackedValue v) :
    z ≤ .ofModel (.pack (UnpackedFloat.add Format.binary32 u v)) := by
  by_cases hu : u.isFinite = true
  · rw [unpackedExtended_of_isFinite hu, WithBot.coe_le_coe, WithTop.coe_le_coe] at ha
    exact (isRounding_add hu hv hcu hcv).le_pack hz (by linarith)
  · obtain ⟨s, rfl⟩ := eq_infinity_of_not_isFinite hu hnan
    cases s with
    | negative => exact absurd ha (WithBot.bot_lt_coe _).not_ge
    | positive =>
      have hsum : UnpackedFloat.add Format.binary32 (.infinity .positive) v =
          .infinity .positive := by
        cases v with
        | infinity | notANumber => cases hv
        | _ => rfl
      rw [hsum, le_iff, isNaN_pack (u := .infinity .positive) trivial,
        extended_pack (u := .infinity .positive) trivial]
      exact ⟨isNaN_of_isFinite hz, rfl, le_top⟩

section Bounds

variable {a n p x y z : Float32}

theorem le_add (hax : a ≤ x) (ha : a.isFinite = true) (hy : y.isFinite = true)
    (hz : z.isFinite = true) (h : value z ≤ value a + value y) : z ≤ x + y := by
  obtain ⟨-, hnan, hle⟩ := le_iff.1 hax
  rw [extended_of_isFinite ha] at hle
  exact le_pack_add (isCanonical_unpack x) (isCanonical_unpack y) hnan hy hle hz h

theorem le_sub (hax : a ≤ x) (ha : a.isFinite = true) (hy : y.isFinite = true)
    (hz : z.isFinite = true) (h : value z ≤ value a - value y) : z ≤ x - y := by
  obtain ⟨-, hnan, hle⟩ := le_iff.1 hax
  rw [extended_of_isFinite ha] at hle
  have hsum := le_pack_add (isCanonical_unpack x) (isCanonical_neg (isCanonical_unpack y)) hnan
    ((isFinite_neg _).trans hy) hle hz (by rwa [unpackedValue_neg, ← sub_eq_add_neg])
  rw [← sub_eq_add_opposite] at hsum
  exact hsum

/-- The difference of numbers that are not negative is not too large. -/
theorem isFinite_sub (hx : x.isFinite = true) (hy : y.isFinite = true) (hx0 : 0 ≤ value x)
    (hy0 : 0 ≤ value y) : (x - y).isFinite = true := by
  rcases le_total (value x) (value y) with hle | hle
  · refine (isRounding_sub hx hy).isFinite_pack hy ?_
    rw [abs_of_nonneg hy0, abs_of_nonpos (by linarith)]
    linarith
  · refine (isRounding_sub hx hy).isFinite_pack hx ?_
    rw [abs_of_nonneg hx0, abs_of_nonneg (by linarith)]
    linarith

/-- The difference of different numbers is not rounded to zero. -/
theorem value_sub_pos (hlt : value y < value x) (h : (x - y).isFinite = true) :
    0 < value (x - y) := by
  obtain ⟨k, hk⟩ := exists_smallest_multiple x
  obtain ⟨l, hl⟩ := exists_smallest_multiple y
  have hstep : (1 : ℚ) / 2 ^ 149 ≤ value x - value y := by
    rw [hk, hl, mul_lt_mul_iff_left₀ (by positivity)] at hlt
    have hone : (1 : ℚ) ≤ k - l := by
      have : l < k := by exact_mod_cast hlt
      exact_mod_cast (by omega : 1 ≤ k - l)
    rw [hk, hl, ← sub_mul, show (2 : ℚ) ^ (-149 : ℤ) = 1 / 2 ^ 149 by norm_num]
    exact le_mul_of_one_le_left (by positivity) hone
  have herror := abs_le.1 (roundsTo_sub h).abs_sub_le
  have hpos : (0 : ℚ) < value x - value y := lt_of_lt_of_le (by norm_num) hstep
  rw [abs_of_pos hpos] at herror
  norm_num at hstep herror
  linarith

/-! ## Ratios -/

theorem unpack_sub_infinity {s : Sign} (hx : x.toModel.unpack = .infinity s)
    (hy : y.isFinite = true) : (x - y).toModel.unpack = .infinity s := by
  have hsub : UnpackedFloat.sub Format.binary32 x.toModel.unpack y.toModel.unpack =
      .infinity s := by
    rw [Float32.isFinite, Float32.Model.isFinite] at hy
    rw [hx]
    cases hform : y.toModel.unpack with
    | infinity | notANumber =>
      rw [hform] at hy
      cases hy
    | _ => rfl
  show (Float32.ofModel (.pack _)).toModel.unpack = _
  rw [hsub]
  exact unpack_ofModel_pack trivial

theorem isRounding_div_infinity {u : UnpackedFloat} (hu : u.isFinite = true) (s : Sign) :
    IsRounding 0 (UnpackedFloat.div Format.binary32 u (.infinity s)) := by
  cases u with
  | infinity | notANumber => cases hu
  | _ => exact isRounding_zero _

/-- The ratio of the distances of two numbers from a point below the larger one is not more than 1,
even if the larger one is infinite. -/
theorem sub_div_sub_le_one (hp : p.isFinite = true) (hp0 : 0 ≤ value p) (ha : 0 < a)
    (han : a < n) (hpn : p < n) : (a - p) / (n - p) ≤ 1 := by
  have hfinite_a := isFinite_of_lt_of_lt ha han
  have ha0 : 0 < value a := by
    have hlt := (lt_iff_value rfl hfinite_a).1 ha
    rwa [value_zero] at hlt
  have hfinite := isFinite_sub hfinite_a hp ha0.le hp0
  by_cases hn : n.isFinite = true
  · have hpn' := (lt_iff_value hp hn).1 hpn
    have hfinite_n := isFinite_sub hn hp (by linarith) hp0
    have hpos := value_sub_pos hpn' hfinite_n
    have hle : value (a - p) ≤ value (n - p) :=
      (roundsTo_sub hfinite).value_le_value (roundsTo_sub hfinite_n)
        (by linarith [(lt_iff_value hfinite_a hn).1 han])
    refine (isRounding_div hfinite hpos.ne').pack_le isFinite_one ?_
    rw [value_one]
    exact (div_le_one hpos).2 hle
  · obtain ⟨s, hs⟩ := eq_infinity_of_not_isFinite hn (lt_iff.1 han).2.1
    have hdiff := unpack_sub_infinity hs hp
    have hratio := isRounding_div_infinity hfinite s
    rw [← hdiff] at hratio
    refine hratio.pack_le isFinite_one ?_
    rw [value_one]
    exact zero_le_one

end Bounds

end FlowchartLayout
