import FlowchartLayout.Number.Numeral
import Mathlib.Data.Nat.Digits.Defs

/-!
# Written numerals

The numeral of a number follows the grammar of documents: at least one digit before the point and
no needless zero in front, digits after the point, and digits in the power of ten.

## Main definitions

- `PowerOfTen.Regular`, `Numeral.Regular` — the grammar

## Main statements

- `Decimal.digits_shortest_ne_zero` — the shortest decimal of a positive number is not zero
- `Numeral.regular_of_ofSingle?` — written numerals are regular
-/

namespace FlowchartLayout

/-! ## Digits -/

theorem isDigit_of_mem_digitsOf {n : Nat} {c : Char} (h : c ∈ Decimal.digitsOf n) :
    c.isDigit = true :=
  Nat.isDigit_of_mem_toDigits (by decide) (by decide) h

theorem digitsOf_ne_nil {n : Nat} : Decimal.digitsOf n ≠ [] :=
  Nat.toDigits_ne_nil

theorem digitsOf_of_lt {n : Nat} (h : n < 10) : Decimal.digitsOf n = [n.digitChar] :=
  Nat.toDigits_of_lt_base h

theorem digitsOf_of_le {n : Nat} (h : 10 ≤ n) :
    Decimal.digitsOf n = Decimal.digitsOf (n / 10) ++ [(n % 10).digitChar] :=
  Nat.toDigits_of_base_le (by decide) h

theorem head?_append_of_ne_nil {l l' : List Char} (h : l ≠ []) : (l ++ l').head? = l.head? := by
  obtain ⟨c, cs, rfl⟩ := List.exists_cons_of_ne_nil h
  rfl

theorem digitChar_ne_zero {n : Nat} (hn : n ≠ 0) (h : n < 10) : n.digitChar ≠ '0' := by
  have hall : ∀ k < 10, k ≠ 0 → Nat.digitChar k ≠ '0' := by decide
  exact hall n h hn

/-- The digits of a number do not start with a zero, unless the number is zero. -/
theorem head?_digitsOf_ne_zero {n : Nat} (hn : n ≠ 0) :
    (Decimal.digitsOf n).head? ≠ some '0' := by
  induction n using Nat.strongRecOn with
  | ind n ih =>
    rcases Nat.lt_or_ge n 10 with h | h
    · rw [digitsOf_of_lt h, List.head?_cons]
      exact fun heq => digitChar_ne_zero hn h (Option.some.inj heq)
    · rw [digitsOf_of_le h, head?_append_of_ne_nil digitsOf_ne_nil]
      exact ih (n / 10) (by omega) (by omega)

namespace Decimal

/-- As many zeros as there are at the end of the digits can be split off a number. -/
theorem div_pow_zeros_ne_zero {n : Nat} (hn : n ≠ 0) :
    n / 10 ^ ((digitsOf n).reverse.takeWhile (· == '0')).length ≠ 0 := by
  induction n using Nat.strongRecOn with
  | ind n ih =>
    rcases Nat.lt_or_ge n 10 with h | h
    · have hlast : (n.digitChar == '0') = false := beq_false_of_ne (digitChar_ne_zero hn h)
      simpa [digitsOf_of_lt h, hlast] using hn
    · rw [digitsOf_of_le h, List.reverse_append, List.reverse_singleton, List.singleton_append]
      by_cases hlast : n % 10 = 0
      · have hrest := ih (n / 10) (by omega) (by omega)
        simpa [hlast, Nat.digitChar, Nat.pow_succ', ← Nat.div_div_eq_div_mul] using hrest
      · have hchar : ((n % 10).digitChar == '0') = false :=
          beq_false_of_ne (digitChar_ne_zero hlast (Nat.mod_lt _ (by decide)))
        simpa [hchar] using hn

theorem digits_trimZeros_ne_zero {d : Decimal} (h : d.digits ≠ 0) : d.trimZeros.digits ≠ 0 := by
  unfold trimZeros
  simp only [if_neg h]
  exact div_pow_zeros_ne_zero h

end Decimal

namespace RoundingInterval

variable {i : RoundingInterval}

theorem le_of_contains {x : Nat} (h : i.contains x = true) : i.low ≤ x := by
  unfold contains at h
  split at h
  · simp only [Bool.and_eq_true, decide_eq_true_eq] at h
    exact h.1
  · simp only [Bool.and_eq_true, decide_eq_true_eq] at h
    exact Nat.le_of_lt h.1

/-- Zero does not round to a number that lies above some positive number. -/
theorem ne_zero_of_onGrid {k d : Nat} (hlow : 0 < i.low) (h : i.onGrid k = some d) : d ≠ 0 := by
  have hbelow (hfits : i.contains (i.value / Nat.pow 10 k * Nat.pow 10 k) = true) :
      i.value / Nat.pow 10 k ≠ 0 := by
    intro hzero
    have := le_of_contains hfits
    rw [hzero, Nat.zero_mul] at this
    omega
  unfold onGrid at h
  simp only at h
  split at h
  · next hfits =>
    rw [Bool.and_eq_true] at hfits
    cases h
    split
    · exact hbelow hfits.1
    · exact Nat.succ_ne_zero _
  · split at h
    · next hfits =>
      cases h
      exact hbelow hfits
    · split at h
      · cases h
        exact Nat.succ_ne_zero _
      · cases h

theorem digits_search_ne_zero (hlow : 0 < i.low) (hvalue : 0 < i.value) (k : Nat) :
    (i.search k).digits ≠ 0 := by
  induction k with
  | zero => exact Nat.ne_of_gt hvalue
  | succ k ih =>
    unfold search
    split
    · next d hgrid => exact ne_zero_of_onGrid hlow hgrid
    · exact ih

theorem low_ofBinary_pos {m : Nat} (hm : 0 < m) (q : Int) (narrowBelow : Bool) :
    0 < (ofBinary m q narrowBelow).low ∧ 0 < (ofBinary m q narrowBelow).value := by
  unfold ofBinary
  have hscale : 0 < if 2 ≤ q then Nat.pow 2 (q - 2).toNat else Nat.pow 5 (2 - q).toNat := by
    split
    · exact Nat.pow_pos (by decide)
    · exact Nat.pow_pos (by decide)
  constructor
  · refine Nat.mul_pos ?_ hscale
    split <;> omega
  · exact Nat.mul_pos (by omega) hscale

end RoundingInterval

/-- The shortest decimal of a positive number is not zero. -/
theorem Decimal.digits_shortest_ne_zero {m : Nat} (hm : 0 < m) (q : Int) (narrowBelow : Bool) :
    (Decimal.shortest m q narrowBelow).digits ≠ 0 := by
  obtain ⟨hlow, hvalue⟩ := RoundingInterval.low_ofBinary_pos hm q narrowBelow
  exact digits_trimZeros_ne_zero (RoundingInterval.digits_search_ne_zero hlow hvalue _)

/-! ## The grammar -/

/-- A power of ten has digits, and its sign is a sign. -/
structure PowerOfTen.Regular (p : PowerOfTen) : Prop where
  sign : ∀ c ∈ p.sign, c = '+' ∨ c = '-'
  digits : ∀ c ∈ p.digits, c.isDigit = true
  digits_ne_nil : p.digits ≠ []

/-- The parts of a numeral are such that its text can be read as a number. -/
structure Numeral.Regular (n : Numeral) : Prop where
  whole : ∀ c ∈ n.whole, c.isDigit = true
  whole_ne_nil : n.whole ≠ []
  /-- A zero in front stands alone. -/
  leading : n.whole = ['0'] ∨ n.whole.head? ≠ some '0'
  fraction : ∀ c ∈ n.fraction, c.isDigit = true
  power : ∀ p ∈ n.power, p.Regular

namespace Numeral

/-- Numerals of numbers other than zero are regular, be they plain or with a power of ten. -/
theorem regular_ofDecimal (range : PlainRange) (negative : Bool) {d : Decimal}
    (hd : d.digits ≠ 0) : (ofDecimal range negative d).Regular := by
  have hdigits (c : Char) (hc : c ∈ Decimal.digitsOf d.digits) : c.isDigit = true :=
    isDigit_of_mem_digitsOf hc
  have hne : Decimal.digitsOf d.digits ≠ [] := digitsOf_ne_nil
  have hhead := head?_digitsOf_ne_zero hd
  have hzeros (k : Nat) (c : Char) (hc : c ∈ List.replicate k '0') : c.isDigit = true := by
    rw [List.eq_of_mem_replicate hc]
    rfl
  unfold ofDecimal
  simp only
  split
  · split
    · -- an integer
      refine ⟨?_, by simp [hne], .inr ?_, by simp, by simp⟩
      · intro c hc
        exact (List.mem_append.1 hc).elim (hdigits c) (hzeros _ c)
      · rwa [head?_append_of_ne_nil hne]
    · split
      · -- the point stands among the digits
        next hpoint =>
        refine ⟨fun c hc => hdigits c (List.mem_of_mem_take hc), ?_, .inr ?_,
          fun c hc => hdigits c (List.mem_of_mem_drop hc), by simp⟩
        · simp only [ne_eq, List.take_eq_nil_iff, hne, or_false]
          omega
        · rwa [List.head?_take, if_neg (by omega)]
      · -- the point stands before the digits
        refine ⟨by simp, by simp, .inl rfl, ?_, by simp⟩
        intro c hc
        exact (List.mem_append.1 hc).elim (hzeros _ c) (hdigits c)
  · refine ⟨fun c hc => hdigits c (List.mem_of_mem_take hc), by simp [hne], .inr ?_,
      fun c hc => hdigits c (List.mem_of_mem_drop hc), ?_⟩
    · rwa [List.head?_take, if_neg (by omega)]
    · rintro p ⟨⟩
      refine ⟨?_, fun c hc => isDigit_of_mem_digitsOf hc, digitsOf_ne_nil⟩
      rintro c ⟨⟩
      split
      · exact .inl rfl
      · exact .inr rfl

theorem regular_of_ofUnpacked? {format : Float.Model.Format} {range : PlainRange}
    {x : Float.Model.UnpackedFloat} {n : Numeral} (h : ofUnpacked? format range x = some n) :
    n.Regular := by
  unfold ofUnpacked? at h
  split at h
  · next sign m q hm =>
    cases h
    exact regular_ofDecimal range _ (Decimal.digits_shortest_ne_zero hm q _)
  · cases h
    exact ⟨by simp, by simp, .inl rfl, by simp, by simp⟩
  · cases h

/-- Written numerals are regular. -/
theorem regular_of_ofSingle? {x : Float32} {n : Numeral} (h : ofSingle? x = some n) : n.Regular :=
  regular_of_ofUnpacked? h

end Numeral

end FlowchartLayout
