import FlowchartLayout.Number.Reading
import FlowchartLayout.Proofs.Number.Order
import FlowchartLayout.Proofs.Number.Overflow
import FlowchartLayout.Proofs.Text.Runs
import Mathlib.Data.Nat.Digits.Lemmas

/-!
# Written decimals

A decimal is read as the nearest number of single precision. What it stands for is said by the
places of its digits, and the rounding by `RoundsTo` and the bound from which on there are
infinities.

## Main definitions

- `IsNearest` — a number is the nearest one of single precision, or infinite
- `decimalValue` — the natural number that digits write
- `DecimalText` — digits with an optional point, and the number that they write

## Main statements

- `isNearest_ofDecimal` — a decimal is rounded once, on either of two ways
- `DecimalText.exists_readDigits?` — a written decimal is read as the nearest number
- `exists_decimalText` — of digits and points nothing else is read
-/

namespace FlowchartLayout

open Float.Model (Format UnpackedFloat)
open Float.Model.UnpackedFloat (Sign Accuracy ExtendedMantissa)

/-! ## Nearest numbers -/

/-- The number is the nearest one of single precision to a rational number that is not negative. It
is infinite from the bound on. -/
structure IsNearest (q : ℚ) (x : Float32) : Prop where
  isFinite_iff : x.isFinite = true ↔ q < overflowBound
  roundsTo : x.isFinite = true → RoundsTo q (value x)
  eq_top : x.isFinite = false → extended x = ⊤

theorem IsNearest.of_isFinite {q : ℚ} {x : Float32} (hfinite : x.isFinite = true)
    (hbound : q < overflowBound) (hround : RoundsTo q (value x)) : IsNearest q x where
  isFinite_iff := iff_of_true hfinite hbound
  roundsTo _ := hround
  eq_top h := absurd h (by rw [hfinite]; decide)

/-- Far below the bound, a number that is rounded once is the nearest one. -/
theorem Approximates.isNearest {q : ℚ} {x : Float32} (h : Approximates q x) (hq : 0 ≤ q)
    (hsmall : q ≤ 2 ^ 127) : IsNearest q x := by
  have hfinite : x.isFinite = true := h.isFinite (by rwa [abs_of_nonneg hq])
  exact .of_isFinite hfinite (hsmall.trans_lt two_pow_lt_overflowBound) (h.roundsTo hfinite)

/-- The nearest number to one below half the smallest step is zero. -/
theorem isNearest_zero {q : ℚ} (hq : 0 ≤ q) (hlt : q < 2 ^ (-150 : ℤ)) :
    IsNearest q (.ofModel (.pack (.zero .positive))) := by
  have hunpack : (Float32.ofModel (.pack (.zero .positive))).toModel.unpack = .zero .positive :=
    unpack_ofModel_pack (u := .zero .positive) trivial
  have hvalue : value (.ofModel (.pack (.zero .positive))) = 0 := by
    rw [value, hunpack]
    rfl
  have hhalf : (2 : ℚ) ^ (-150 : ℤ) = 2 ^ (-149 : ℤ) / 2 := by norm_num
  refine .of_isFinite ?_ (hlt.trans ?_) ?_
  · rw [Float32.isFinite, Float32.Model.isFinite, hunpack]
    rfl
  · norm_num [overflowBound]
  · rw [hvalue]
    refine ⟨-149, 0, le_rfl, .inl rfl, by simp, ?_, ?_, fun _ => Even.zero⟩
    · rw [zero_sub, abs_neg, abs_of_nonneg hq, ← hhalf]
      exact hlt.le
    · rw [abs_of_nonneg hq]
      exact hlt.trans (by norm_num)

/-- Far above the bound the nearest number is infinite. -/
theorem isNearest_infinity {q : ℚ} (hq : overflowBound ≤ q) :
    IsNearest q (.ofModel (.pack (.infinity .positive))) := by
  have hunpack :
      (Float32.ofModel (.pack (.infinity .positive))).toModel.unpack = .infinity .positive :=
    unpack_ofModel_pack (u := .infinity .positive) trivial
  have hinfinite : ¬ (Float32.ofModel (.pack (.infinity .positive))).isFinite = true := by
    rw [Float32.isFinite, Float32.Model.isFinite, hunpack]
    exact Bool.false_ne_true
  refine ⟨iff_of_false hinfinite (not_lt.2 hq), fun h => absurd h hinfinite, fun _ => ?_⟩
  rw [extended, hunpack]
  rfl

/-- Rounding a mantissa that is long enough leads to the nearest number. -/
theorem isNearest_roundWithAccuracy {m : Nat} {e : ℤ} {acc : Accuracy} {q : ℚ}
    (hacc : Describes (.ofMantissaAndAccuracy m acc) (q / 2 ^ e))
    (hlong : e ≤ -149 ∨ 2 ^ 23 ≤ m) :
    IsNearest q (.ofModel (.pack
      (UnpackedFloat.roundWithAccuracy Format.binary32 .positive m e acc))) := by
  have hround : IsRounding q (UnpackedFloat.roundWithAccuracy Format.binary32 .positive m e acc) :=
    isRounding_roundWithAccuracy .positive hacc hlong
  refine ⟨isFinite_roundWithAccuracy_iff .positive hacc hlong, hround.pack.roundsTo,
    fun hinfinite => ?_⟩
  have hpow : (0 : ℚ) < 2 ^ e := by positivity
  have hq : 0 ≤ q := by
    rw [← zero_mul ((2 : ℚ) ^ e)]
    exact (le_div_iff₀ hpow).1 ((Nat.cast_nonneg _).trans hacc.mantissa_le)
  have hnonneg := hround.roundsTo.nonneg hq
  rw [extended_pack hround.isCanonical]
  rw [Float32.isFinite, Float32.Model.isFinite, unpack_ofModel_pack hround.isCanonical] at hinfinite
  rcases overflow_cases hround.isCanonical hround.isFinite with hsame | ⟨htop, -⟩ | ⟨-, hlarge⟩
  · rw [hsame, hround.isFinite] at hinfinite
    cases hinfinite
  · rw [htop]
    rfl
  · linarith

/-! ## Decimals -/

/-- With an exponent that is far below the number of its digits, a decimal is small. -/
theorem mul_zpow_lt_two_zpow {m : Nat} {e : ℤ} (h : e < -(256 + m.log2)) :
    (m : ℚ) * 10 ^ e < 2 ^ (-150 : ℤ) := by
  obtain ⟨k, rfl⟩ : ∃ k : Nat, e = -k := ⟨(-e).toNat, by omega⟩
  have hlt : m * 2 ^ 150 < 10 ^ k := by
    calc m * 2 ^ 150 < 2 ^ (m.log2 + 1) * 2 ^ 150 :=
          Nat.mul_lt_mul_of_pos_right Nat.lt_log2_self (by norm_num)
      _ = 2 ^ (m.log2 + 1 + 150) := (Nat.pow_add ..).symm
      _ ≤ 2 ^ k := Nat.pow_le_pow_right (by omega) (by omega)
      _ ≤ 10 ^ k := Nat.pow_le_pow_left (by omega) k
  have hlt' : (m : ℚ) * 2 ^ 150 < 10 ^ k := by exact_mod_cast hlt
  have hhalf : (2 : ℚ) ^ (-150 : ℤ) = 1 / 2 ^ 150 := by norm_num
  rw [zpow_neg, zpow_natCast, ← div_eq_mul_inv, hhalf, div_lt_div_iff₀ (by positivity) (by norm_num),
    one_mul]
  exact hlt'

theorem overflowBound_le_mul_zpow {m : Nat} {e : ℤ} (hm : m ≠ 0) (h : 256 < e) :
    overflowBound ≤ (m : ℚ) * 10 ^ e := by
  have hone : (1 : ℚ) ≤ m := by exact_mod_cast Nat.pos_of_ne_zero hm
  calc overflowBound ≤ 10 ^ (39 : ℤ) := by norm_num [overflowBound]
    _ ≤ 10 ^ e := zpow_le_zpow_right₀ (by norm_num) (by omega)
    _ ≤ m * 10 ^ e := le_mul_of_one_le_left (by positivity) hone

/-- A decimal that is converted in one step becomes the nearest number. -/
theorem isNearest_ofScientific (m : Nat) (e : ℤ) :
    IsNearest (m * 10 ^ e) (.ofModel (Float32.Model.ofScientific m e)) := by
  have hbits : ((2 : ℤ) ^ Format.binary32.exponentBits) = 256 := rfl
  rw [Float32.Model.ofScientific, UnpackedFloat.ofScientific, hbits]
  by_cases hm : m = 0
  · rw [dif_pos hm, hm, Nat.cast_zero, zero_mul]
    exact isNearest_zero le_rfl (by positivity)
  rw [dif_neg hm]
  by_cases hlarge : 256 < e
  · rw [if_pos hlarge]
    exact isNearest_infinity (overflowBound_le_mul_zpow hm hlarge)
  rw [if_neg hlarge]
  by_cases hsmall : e < -(256 + m.log2)
  · rw [if_pos hsmall]
    exact isNearest_zero (by positivity) (mul_zpow_lt_two_zpow hsmall)
  rw [if_neg hsmall]
  by_cases he : 0 ≤ e
  · -- the mantissa is made longer and multiplied by the power of ten
    obtain ⟨k, rfl⟩ := Int.eq_ofNat_of_zero_le he
    have hmantissa : Format.binary32.mantissaBits = 24 := rfl
    have hvalue : ((m <<< 24 * 10 ^ k : Nat) : ℚ) * 2 ^ (-((24 : Nat) : ℤ) + 0) =
        m * 10 ^ (k : ℤ) := by
      rw [Nat.shiftLeft_eq, zpow_natCast]
      push_cast
      norm_num
      ring
    have hlong : 2 ^ 23 ≤ m <<< 24 * 10 ^ k := by
      rw [Nat.shiftLeft_eq]
      exact (by omega : 2 ^ 23 ≤ m * 2 ^ 24).trans
        (Nat.le_mul_of_pos_right _ (Nat.pow_pos (by norm_num)))
    rw [if_pos he, ← hvalue]
    simp only [UnpackedFloat.mul, hmantissa, Int.toNat_natCast]
    exact isNearest_roundWithAccuracy (describes_exact _ _) (.inr hlong)
  · -- the mantissa is divided by the power of ten
    obtain ⟨k, rfl⟩ : ∃ k : Nat, e = -k := ⟨(-e).toNat, by omega⟩
    have hvalue : (m : ℚ) * 2 ^ (0 : ℤ) / ((10 ^ k : Nat) * 2 ^ (0 : ℤ)) = m * 10 ^ (-k : ℤ) := by
      rw [zpow_zero, mul_one, mul_one, zpow_neg, zpow_natCast, div_eq_mul_inv]
      push_cast
      rfl
    have htoNat : (-(-(k : ℤ))).toNat = k := by omega
    rw [if_neg he, ← hvalue]
    simp only [UnpackedFloat.div, divCore_eq, htoNat]
    refine isNearest_roundWithAccuracy (describes_quotient (by positivity)) ?_
    rw [or_iff_not_imp_left, not_le]
    exact two_pow_le_quotient (Nat.pos_of_ne_zero hm) (by positivity)

/-- The quick way of reading short decimals: both numbers are exact, and their product is rounded
once. Short decimals are below the bound. -/
theorem isNearest_mul_powerOfTen {m k : Nat} (hm : m < 2 ^ 23) (hk : k < 11) :
    IsNearest (m * 10 ^ (k : ℤ))
      (m.toUInt64.toFloat32 * Float32.exactlyRepresentablePowersOfTen[k]) := by
  obtain ⟨hfinite, hvalue⟩ := value_toUInt64 hm
  obtain ⟨hpower, hvalue'⟩ := value_powerOfTen hk
  have hround := approximates_mul hfinite hpower
  rw [hvalue, hvalue'] at hround
  have hm' : (m : ℚ) ≤ 2 ^ 23 := by exact_mod_cast hm.le
  have hk' : (10 : ℚ) ^ k ≤ 10 ^ 10 := pow_le_pow_right₀ (by norm_num) (by omega)
  have hbound : (m : ℚ) * 10 ^ k ≤ 2 ^ 23 * 10 ^ 10 := by gcongr
  rw [zpow_natCast]
  exact hround.isNearest (by positivity) (hbound.trans (by norm_num))

theorem isNearest_div_powerOfTen {m k : Nat} (hm : m < 2 ^ 23) (hk : k < 11) :
    IsNearest (m * 10 ^ (-k : ℤ))
      (m.toUInt64.toFloat32 / Float32.exactlyRepresentablePowersOfTen[k]) := by
  obtain ⟨hfinite, hvalue⟩ := value_toUInt64 hm
  obtain ⟨-, hvalue'⟩ := value_powerOfTen hk
  have hround := approximates_div hfinite (by rw [hvalue']; positivity)
  rw [hvalue, hvalue'] at hround
  have hm' : (m : ℚ) ≤ 2 ^ 23 := by exact_mod_cast hm.le
  have hbound : (m : ℚ) / 10 ^ k ≤ 2 ^ 23 :=
    (div_le_self (by positivity) (one_le_pow₀ (by norm_num))).trans hm'
  rw [zpow_neg, zpow_natCast, ← div_eq_mul_inv]
  exact hround.isNearest (by positivity) (hbound.trans (by norm_num))

/-- A decimal in single precision is the nearest number, on whichever way it is converted. -/
theorem isNearest_ofDecimal (m : Nat) (e : ℤ) : IsNearest (m * 10 ^ e) (ofDecimal m e) := by
  cases e with
  | ofNat k =>
    change IsNearest _ (Float32.ofScientific m false k)
    unfold Float32.ofScientific
    split
    · next h => exact isNearest_mul_powerOfTen h.1 (Nat.lt_succ_of_le h.2)
    · exact isNearest_ofScientific m k
  | negSucc k =>
    change IsNearest _ (Float32.ofScientific m true (k + 1))
    unfold Float32.ofScientific
    split
    · next h => exact isNearest_div_powerOfTen h.1 (Nat.lt_succ_of_le h.2)
    · exact isNearest_ofScientific m _

/-! ## Written decimals -/

/-- The natural number that digits write, each of them by its place. -/
def decimalValue (digits : List Char) : Nat :=
  Nat.ofDigits 10 (digits.map fun d => d.toNat - '0'.toNat).reverse

/-- Digits with an optional point, at least one digit in all, write a number. -/
inductive DecimalText : List Char → ℚ → Prop where
  | whole {digits : List Char} (hne : digits ≠ []) (hdigits : ∀ c ∈ digits, c.isDigit = true) :
      DecimalText digits (decimalValue digits)
  | point {whole fraction : List Char} (hne : whole ≠ [] ∨ fraction ≠ [])
      (hwhole : ∀ c ∈ whole, c.isDigit = true) (hfraction : ∀ c ∈ fraction, c.isDigit = true) :
      DecimalText (whole ++ '.' :: fraction)
        (decimalValue whole + decimalValue fraction / 10 ^ fraction.length)

theorem natOfDigits_eq (digits : List Char) : natOfDigits digits = decimalValue digits := by
  rw [decimalValue, Nat.ofDigits_eq_foldr, List.foldr_reverse, List.foldl_map]
  exact List.foldl_ext _ _ _ fun n d _ => Nat.add_comm _ _

/-- Digits behind others move those to higher places. -/
theorem decimalValue_append (whole fraction : List Char) :
    decimalValue (whole ++ fraction) =
      decimalValue whole * 10 ^ fraction.length + decimalValue fraction := by
  simp only [decimalValue, List.map_append, List.reverse_append, Nat.ofDigits_append,
    List.length_reverse, List.length_map]
  ring

/-- A character of a written number without a power of ten. -/
def isDecimalChar (c : Char) : Bool :=
  c.isDigit || c == '.'

theorem readDigits?_whole {digits : List Char} (hne : digits ≠ [])
    (hdigits : ∀ c ∈ digits, c.isDigit = true) :
    readDigits? digits = some (ofDecimal (decimalValue digits) 0) := by
  have htake := takeWhile_run (s := []) hdigits (by simp)
  have hdrop := dropWhile_run (s := []) hdigits (by simp)
  rw [List.append_nil] at htake hdrop
  simp [readDigits?, List.span_eq_takeWhile_dropWhile, htake, hdrop, hne, natOfDigits_eq]

theorem readDigits?_point {whole fraction : List Char} (hne : whole ≠ [] ∨ fraction ≠ [])
    (hwhole : ∀ c ∈ whole, c.isDigit = true) (hfraction : ∀ c ∈ fraction, c.isDigit = true) :
    readDigits? (whole ++ '.' :: fraction) =
      some (ofDecimal (decimalValue (whole ++ fraction)) (-fraction.length)) := by
  have hpoint : ∀ c ∈ ('.' :: fraction).head?, c.isDigit = false := by
    rintro c ⟨⟩
    decide
  have htake := takeWhile_run (s := []) hfraction (by simp)
  have hdrop := dropWhile_run (s := []) hfraction (by simp)
  rw [List.append_nil] at htake hdrop
  have hsome : (whole.isEmpty && fraction.isEmpty) = false := by
    rcases hne with h | h <;> simp [h]
  simp [readDigits?, List.span_eq_takeWhile_dropWhile, takeWhile_run hwhole hpoint,
    dropWhile_run hwhole hpoint, htake, hdrop, hsome, natOfDigits_eq]

/-- What follows the digits at the start of a run begins with a point. -/
theorem eq_point_of_dropWhile {s rest : List Char} {c : Char}
    (hrun : ∀ c ∈ s, isDecimalChar c = true) (h : s.dropWhile Char.isDigit = c :: rest) :
    c = '.' := by
  have hmem : c ∈ s := (List.dropWhile_sublist _).subset (h ▸ List.mem_cons_self)
  have hnot : c.isDigit = false := by
    have := List.head?_dropWhile_not Char.isDigit s
    rw [h] at this
    simpa using this
  have hc := hrun c hmem
  rw [isDecimalChar, hnot, Bool.false_or] at hc
  exact beq_iff_eq.1 hc

/-- Of runs of digits and points, only written numbers are read. -/
theorem exists_decimalText {s : List Char} {x : Float32} (hrun : ∀ c ∈ s, isDecimalChar c = true)
    (h : readDigits? s = some x) : ∃ q, DecimalText s q := by
  have hsplit : s = s.takeWhile Char.isDigit ++ s.dropWhile Char.isDigit :=
    List.takeWhile_append_dropWhile.symm
  have hwhole : ∀ c ∈ s.takeWhile Char.isDigit, c.isDigit = true :=
    fun c hc => List.mem_takeWhile_imp hc
  simp only [readDigits?, List.span_eq_takeWhile_dropWhile] at h
  cases hrest : s.dropWhile Char.isDigit with
  | nil =>
    rw [hrest, List.append_nil] at hsplit
    rw [← hsplit] at hwhole
    have hne : s ≠ [] := by
      rintro rfl
      simp at h
    exact ⟨_, .whole hne hwhole⟩
  | cons c rest =>
    obtain rfl := eq_point_of_dropWhile hrun hrest
    have hrun' : ∀ c ∈ rest, isDecimalChar c = true := fun c hc =>
      hrun c ((List.dropWhile_sublist _).subset (hrest ▸ List.mem_cons_of_mem _ hc))
    rw [hrest] at hsplit h
    have hfraction : ∀ c ∈ rest.takeWhile Char.isDigit, c.isDigit = true :=
      fun c hc => List.mem_takeWhile_imp hc
    cases hend : rest.dropWhile Char.isDigit with
    | nil =>
      have hrest' : rest.takeWhile Char.isDigit = rest := by
        have := List.takeWhile_append_dropWhile (p := Char.isDigit) (l := rest)
        rwa [hend, List.append_nil] at this
      rw [hrest'] at hfraction
      rw [hsplit]
      refine ⟨_, .point ?_ hwhole hfraction⟩
      -- without digits nothing is read
      by_contra hne
      rw [not_or, not_not, not_not] at hne
      simp [hne.1, hne.2] at h
    | cons c rest' =>
      -- a second point
      obtain rfl := eq_point_of_dropWhile hrun' hend
      simp [hend] at h

/-- A written decimal is read as the nearest number. -/
theorem DecimalText.exists_readDigits? {s : List Char} {q : ℚ} (h : DecimalText s q) :
    ∃ x, readDigits? s = some x ∧ IsNearest q x := by
  cases h with
  | whole hne hdigits =>
    refine ⟨_, readDigits?_whole hne hdigits, ?_⟩
    simpa using isNearest_ofDecimal (decimalValue s) 0
  | @point whole fraction hne hwhole hfraction =>
    have hvalue : (decimalValue (whole ++ fraction) : ℚ) * 10 ^ (-fraction.length : ℤ) =
        decimalValue whole + decimalValue fraction / 10 ^ fraction.length := by
      rw [decimalValue_append, zpow_neg, zpow_natCast, ← div_eq_mul_inv]
      push_cast
      rw [add_div, mul_div_cancel_right₀ _ (by positivity)]
    refine ⟨_, readDigits?_point hne hwhole hfraction, ?_⟩
    rw [← hvalue]
    exact isNearest_ofDecimal _ _

/-- A run of digits and points is read as a finite number, or as none, just if the number that it
writes is below the bound. -/
theorem isFinite_readDigits?_iff {s : List Char} (hrun : ∀ c ∈ s, isDecimalChar c = true) :
    (∀ x, readDigits? s = some x → x.isFinite = true) ↔
      ∀ q, DecimalText s q → q < overflowBound := by
  constructor
  · intro hfinite q hq
    obtain ⟨x, hx, hnearest⟩ := hq.exists_readDigits?
    exact hnearest.isFinite_iff.1 (hfinite x hx)
  · intro hbound x hx
    obtain ⟨q, hq⟩ := exists_decimalText hrun hx
    obtain ⟨y, hy, hnearest⟩ := hq.exists_readDigits?
    rw [hx] at hy
    rw [Option.some.inj hy]
    exact hnearest.isFinite_iff.2 (hbound q hq)

end FlowchartLayout
