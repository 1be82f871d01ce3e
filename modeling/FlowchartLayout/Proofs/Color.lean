import FlowchartLayout.Color
import Mathlib.Data.Nat.Digits.Lemmas

/-!
# Written colours

A colour is read from three, six or eight hexadecimal digits of either case. All of them stand for
eight digits, with which the colour is written.

## Main definitions

- `Color.hexDigits` — the hexadecimal digits
- `Color.StandsFor` — the eight digits for which fewer digits stand
- `Color.padded` — the digits of a number behind zeros

## Main statements

- `Color.ofHex?_hex` — the full written form of a colour is read as that colour
- `Color.ofHex?_exact` — which texts are colours, which colours they are, and how these are written
-/

namespace FlowchartLayout.Color

theorem isHexDigit_digitChar {n : Nat} (h : n < 16) : isHexDigit (Nat.digitChar n) = true := by
  have hall : ∀ k < 16, isHexDigit (Nat.digitChar k) = true := by decide
  exact hall n h

theorem hexDigitValue_digitChar {n : Nat} (h : n < 16) :
    hexDigitValue (Nat.digitChar n) = n := by
  have hall : ∀ k < 16, hexDigitValue (Nat.digitChar k) = k := by decide
  exact hall n h

theorem hexValue_append_singleton (digits : List Char) (d : Char) :
    hexValue (digits ++ [d]) = 16 * hexValue digits + hexDigitValue d := by
  rw [hexValue, List.foldl_append]
  rfl

/-- The hexadecimal digits of a number stand for it. -/
theorem hexValue_toDigits (n : Nat) :
    (Nat.toDigits 16 n).all isHexDigit = true ∧ hexValue (Nat.toDigits 16 n) = n := by
  induction n using Nat.strongRecOn with
  | ind n ih =>
    rcases Nat.lt_or_ge n 16 with h | h
    · rw [Nat.toDigits_of_lt_base h]
      exact ⟨by simp [isHexDigit_digitChar h], by simp [hexValue, hexDigitValue_digitChar h]⟩
    · obtain ⟨hrest, hvalue⟩ := ih (n / 16) (by omega)
      have hlast : n % 16 < 16 := Nat.mod_lt n (by decide)
      rw [Nat.toDigits_of_base_le (by decide) h, hexValue_append_singleton, hvalue,
        hexDigitValue_digitChar hlast]
      exact ⟨by simp [hrest, isHexDigit_digitChar hlast], by omega⟩

theorem hexValue_zeros_append (k : Nat) (digits : List Char) :
    hexValue (List.replicate k '0' ++ digits) = hexValue digits := by
  induction k with
  | zero => rfl
  | succ k ih =>
    rw [List.replicate_succ, List.cons_append, hexValue, List.foldl_cons]
    exact ih

/-- Eight hexadecimal digits are read as they are. -/
theorem ofHex?_of_length {digits : List Char} (hdigits : digits.all isHexDigit = true)
    (hlength : digits.length = 8) :
    ofHex? ('#' :: digits) = some ⟨UInt32.ofNat (hexValue digits)⟩ := by
  rw [ofHex?.eq_def]
  simp only [if_pos hdigits]
  split
  · simp at hlength
  · next h => omega
  · rfl
  · next h => exact absurd hlength h

/-- The full written form of a colour is read as that colour. -/
theorem ofHex?_hex (c : Color) : ofHex? c.hex = some c := by
  obtain ⟨hdigits, hvalue⟩ := hexValue_toDigits c.rgba.toNat
  have hlength : (Nat.toDigits 16 c.rgba.toNat).length ≤ 8 :=
    Nat.toDigits_length 16 _ 8 (by decide) c.rgba.toNat_lt
  rw [hex, List.cons_append, ofHex?_of_length]
  · rw [hexValue_zeros_append, hvalue, UInt32.ofNat_toNat]
  · rw [List.all_append, hdigits, Bool.and_true, List.all_eq_true]
    intro d hd
    rw [List.eq_of_mem_replicate hd]
    rfl
  · rw [List.length_append, List.length_replicate]
    omega

/-! ## The digits of a colour -/

/-- The ASCII hexadecimal digits, small and capital. -/
def hexDigits : List Char :=
  "0123456789abcdefABCDEF".toList

/-- The eight digits that the digits of a written colour stand for: a single digit stands for two
of it, and a colour without an opacity is opaque. -/
inductive StandsFor : List Char → List Char → Prop where
  | short (r g b : Char) : StandsFor [r, g, b] [r, r, g, g, b, b, 'f', 'f']
  | withoutOpacity {digits : List Char} (h : digits.length = 6) :
      StandsFor digits (digits ++ ['f', 'f'])
  | full {digits : List Char} (h : digits.length = 8) : StandsFor digits digits

theorem isHexDigit_iff {d : Char} : isHexDigit d = true ↔ d ∈ hexDigits := by
  constructor
  · intro h
    have hascii : d.toNat < 128 := by
      simp only [isHexDigit, Char.isDigit, Bool.or_eq_true, Bool.and_eq_true, decide_eq_true_eq,
        Char.le_def, UInt32.le_iff_toNat_le] at h
      have hval : d.toNat = d.val.toNat := rfl
      rcases h with (h | h) | h
      · have hlast : '9'.val.toNat = 57 := rfl
        omega
      · have hlast : 'f'.val.toNat = 102 := rfl
        omega
      · have hlast : 'F'.val.toNat = 70 := rfl
        omega
    have hall : ∀ n < 128, isHexDigit (Char.ofNat n) = true → Char.ofNat n ∈ hexDigits := by decide
    rw [← Char.ofNat_toNat d] at h ⊢
    exact hall _ (by simpa using hascii) h
  · have hall : hexDigits.all isHexDigit = true := by decide
    exact List.all_eq_true.1 hall d

/-- A digit of either case has a value, which is written as the small digit. -/
theorem digitChar_hexDigitValue {d : Char} (h : d ∈ hexDigits) :
    hexDigitValue d < 16 ∧ Nat.digitChar (hexDigitValue d) = d.toLower := by
  have hall : (hexDigits.all fun d =>
      decide (hexDigitValue d < 16 ∧ Nat.digitChar (hexDigitValue d) = d.toLower)) = true := by
    decide
  exact of_decide_eq_true (List.all_eq_true.1 hall d h)

/-- Digits stand for a number by their places. -/
theorem hexValue_eq_ofDigits (digits : List Char) :
    hexValue digits = Nat.ofDigits 16 (digits.map hexDigitValue).reverse := by
  induction digits using List.reverseRecOn with
  | nil => rfl
  | append_singleton digits d ih =>
    rw [hexValue_append_singleton, List.map_append, List.reverse_append, List.map_singleton,
      List.reverse_singleton, List.singleton_append, Nat.ofDigits_cons, ← ih]
    exact Nat.add_comm _ _

/-- Eight digits stand for a number of 32 bits. -/
theorem hexValue_lt {digits : List Char} (hdigits : ∀ d ∈ digits, d ∈ hexDigits)
    (hlength : digits.length = 8) : hexValue digits < 2 ^ 32 := by
  rw [hexValue_eq_ofDigits]
  have hlt : ∀ n ∈ (digits.map hexDigitValue).reverse, n < 16 := by
    intro n hn
    obtain ⟨d, hd, rfl⟩ := List.mem_map.1 (List.mem_reverse.1 hn)
    exact (digitChar_hexDigitValue (hdigits d hd)).1
  have hbound := Nat.ofDigits_lt_base_pow_length (by decide : 1 < 16) hlt
  rw [List.length_reverse, List.length_map, hlength] at hbound
  exact hbound

/-! ## Digits behind zeros -/

/-- The digits of a number, behind as many zeros as make them `width` digits. -/
def padded (width n : Nat) : List Char :=
  List.replicate (width - (Nat.toDigits 16 n).length) '0' ++ Nat.toDigits 16 n

theorem hex_eq (c : Color) : c.hex = '#' :: padded 8 c.rgba.toNat := rfl

/-- One more digit at the end. -/
theorem padded_succ {width n d : Nat} (hwidth : 0 < width) (hd : d < 16) :
    padded (width + 1) (16 * n + d) = padded width n ++ [Nat.digitChar d] := by
  rcases Nat.eq_zero_or_pos n with rfl | hn
  · obtain ⟨k, rfl⟩ : ∃ k, width = k + 1 := ⟨width - 1, by omega⟩
    have hzeros : padded (k + 1) 0 = List.replicate (k + 1) '0' := List.replicate_succ'.symm
    rw [hzeros, padded, Nat.mul_zero, Nat.zero_add, Nat.toDigits_of_lt_base hd]
    rfl
  · have hquotient : (16 * n + d) / 16 = n := by omega
    have hremainder : (16 * n + d) % 16 = d := by omega
    rw [padded, Nat.toDigits_of_base_le (by decide) (by omega), hquotient, hremainder, padded,
      List.length_append, List.length_singleton, Nat.add_sub_add_right, List.append_assoc]

/-- The number for which digits stand is written with the same digits, in small letters. -/
theorem padded_hexValue {digits : List Char} (hdigits : ∀ d ∈ digits, d ∈ hexDigits)
    (hne : digits ≠ []) : padded digits.length (hexValue digits) = digits.map Char.toLower := by
  induction digits using List.reverseRecOn with
  | nil => exact absurd rfl hne
  | append_singleton digits d ih =>
    obtain ⟨hlt, hchar⟩ := digitChar_hexDigitValue (hdigits d (by simp))
    rw [hexValue_append_singleton, List.length_append, List.length_singleton, List.map_append,
      List.map_singleton, ← hchar]
    rcases List.eq_nil_or_concat digits with rfl | ⟨_, _, hconcat⟩
    · -- a single digit has no zeros before it
      show padded 1 (16 * 0 + hexDigitValue d) = [Nat.digitChar (hexDigitValue d)]
      rw [Nat.mul_zero, Nat.zero_add, padded, Nat.toDigits_of_lt_base hlt]
      rfl
    · have hne' : digits ≠ [] := by simp [hconcat]
      rw [padded_succ (List.length_pos_iff.2 hne') hlt,
        ih (fun e he => hdigits e (List.mem_append_left _ he)) hne']

/-! ## Reading -/

theorem StandsFor.length_eq {digits full : List Char} (h : StandsFor digits full) :
    full.length = 8 := by
  cases h with
  | short => rfl
  | withoutOpacity h => rw [List.length_append, h]; rfl
  | full h => exact h

theorem StandsFor.forall_mem {digits full : List Char} (h : StandsFor digits full)
    (hdigits : ∀ d ∈ digits, d ∈ hexDigits) : ∀ d ∈ full, d ∈ hexDigits := by
  have hf : 'f' ∈ hexDigits := by decide
  cases h with
  | short r g b => simp_all
  | withoutOpacity => simp_all [or_imp]
  | full => exact hdigits

theorem exists_standsFor_iff {digits : List Char} :
    (∃ full, StandsFor digits full) ↔
      digits.length = 3 ∨ digits.length = 6 ∨ digits.length = 8 := by
  constructor
  · rintro ⟨full, h⟩
    cases h with
    | short => exact .inl rfl
    | withoutOpacity h => exact .inr (.inl h)
    | full h => exact .inr (.inr h)
  · rintro (h | h | h)
    · obtain ⟨r, g, b, rfl⟩ := List.length_eq_three.1 h
      exact ⟨_, .short r g b⟩
    · exact ⟨_, .withoutOpacity h⟩
    · exact ⟨_, .full h⟩

/-- Digits are read as the number for which the full form stands. -/
theorem ofHex?_of_standsFor {digits full : List Char} (h : StandsFor digits full)
    (hdigits : ∀ d ∈ digits, d ∈ hexDigits) :
    ofHex? ('#' :: digits) = some ⟨UInt32.ofNat (hexValue full)⟩ := by
  have hall : digits.all isHexDigit = true :=
    List.all_eq_true.2 fun d hd => isHexDigit_iff.2 (hdigits d hd)
  have hf : hexDigitValue 'f' = 15 := rfl
  cases h with
  | short r g b =>
    simp only [ofHex?, if_pos hall, ofComponents, hexValue, List.foldl_cons, List.foldl_nil, hf]
    congr 3
    omega
  | withoutOpacity h =>
    have hvalue : hexValue (digits ++ ['f', 'f']) = 256 * hexValue digits + 255 := by
      rw [← List.singleton_append, ← List.append_assoc, hexValue_append_singleton,
        hexValue_append_singleton, hf]
      omega
    rw [hvalue, ofHex?.eq_def]
    simp only [if_pos hall]
    split
    · simp at h
    · rfl
    · next h8 => exact absurd (h.symm.trans h8) (by decide)
    · next h6 _ => exact absurd h h6
  | full h => exact ofHex?_of_length hall h

/-- Nothing else is read. -/
theorem exists_standsFor_of_ofHex? {s : List Char} {c : Color} (h : ofHex? s = some c) :
    ∃ digits full, s = '#' :: digits ∧ (∀ d ∈ digits, d ∈ hexDigits) ∧ StandsFor digits full := by
  unfold ofHex? at h
  split at h
  · next digits =>
    split at h
    · next hall =>
      have hdigits : ∀ d ∈ digits, d ∈ hexDigits := fun d hd =>
        isHexDigit_iff.1 (List.all_eq_true.1 hall d hd)
      have hlength : digits.length = 3 ∨ digits.length = 6 ∨ digits.length = 8 := by
        split at h
        · exact .inl rfl
        · next h6 => exact .inr (.inl h6)
        · next h8 => exact .inr (.inr h8)
        · cases h
      obtain ⟨full, hfull⟩ := exists_standsFor_iff.2 hlength
      exact ⟨digits, full, rfl, hdigits, hfull⟩
    · cases h
  · cases h

/-- The full written form of a colour that was read has the digits for which the read ones stand,
in small letters. -/
theorem hex_ofHex? {digits full : List Char} (h : StandsFor digits full)
    (hdigits : ∀ d ∈ digits, d ∈ hexDigits) :
    (⟨UInt32.ofNat (hexValue full)⟩ : Color).hex = '#' :: full.map Char.toLower := by
  have hne : full ≠ [] := List.ne_nil_of_length_eq_add_one h.length_eq
  have hfull := h.forall_mem hdigits
  rw [hex_eq, UInt32.toNat_ofNat_of_lt' (hexValue_lt hfull h.length_eq),
    ← padded_hexValue hfull hne, h.length_eq]

/-- The full written form of a colour is read as that colour. What is read is a `#` and three, six
or eight hexadecimal digits, nothing else; the colour is the number of their full form, which is how
it is written, in small letters. -/
theorem ofHex?_exact :
    (∀ c : Color, ofHex? c.hex = some c) ∧
    (∀ s, (ofHex? s).isSome = true ↔
      ∃ digits, s = '#' :: digits ∧ (∀ d ∈ digits, d ∈ hexDigits) ∧
        (digits.length = 3 ∨ digits.length = 6 ∨ digits.length = 8)) ∧
    ∀ s c, ofHex? s = some c →
      ∃ digits full, s = '#' :: digits ∧ StandsFor digits full ∧
        c.rgba.toNat = Nat.ofDigits 16 (full.map hexDigitValue).reverse ∧
        c.hex = '#' :: full.map Char.toLower := by
  refine ⟨ofHex?_hex, fun s => ⟨fun h => ?_, ?_⟩, fun s c h => ?_⟩
  · obtain ⟨c, hc⟩ := Option.isSome_iff_exists.1 h
    obtain ⟨digits, full, hs, hdigits, hfull⟩ := exists_standsFor_of_ofHex? hc
    exact ⟨digits, hs, hdigits, exists_standsFor_iff.1 ⟨full, hfull⟩⟩
  · rintro ⟨digits, rfl, hdigits, hlength⟩
    obtain ⟨full, hfull⟩ := exists_standsFor_iff.2 hlength
    rw [ofHex?_of_standsFor hfull hdigits]
    rfl
  · obtain ⟨digits, full, rfl, hdigits, hfull⟩ := exists_standsFor_of_ofHex? h
    rw [ofHex?_of_standsFor hfull hdigits] at h
    cases h
    refine ⟨digits, full, rfl, hfull, ?_, hex_ofHex? hfull hdigits⟩
    rw [UInt32.toNat_ofNat_of_lt' (hexValue_lt (hfull.forall_mem hdigits) hfull.length_eq),
      hexValue_eq_ofDigits]

/-- Three digits of either case, and how the colour is written. -/
theorem ofHex?_mixedCase :
    (ofHex? "#1aF".toList).isSome = true ∧ ofHex? "#1aF".toList = some ⟨0x11AAFFFF⟩ ∧
      (⟨0x11AAFFFF⟩ : Color).hex = "#11aaffff".toList := by
  have hread : ofHex? "#1aF".toList = some ⟨0x11AAFFFF⟩ := by decide
  have hall : ['1', 'a', 'F'].all isHexDigit = true := by decide
  have hdigits : ∀ d ∈ ['1', 'a', 'F'], d ∈ hexDigits := fun d hd =>
    isHexDigit_iff.1 (List.all_eq_true.1 hall d hd)
  refine ⟨(ofHex?_exact.2.1 _).2 ⟨['1', 'a', 'F'], rfl, hdigits, .inl rfl⟩, hread, ?_⟩
  obtain ⟨digits, full, hs, hfull, -, hhex⟩ := ofHex?_exact.2.2 _ _ hread
  obtain rfl : digits = ['1', 'a', 'F'] := (List.cons.inj hs).2.symm
  cases hfull with
  | short => exact hhex
  | withoutOpacity h => exact absurd h (by decide)
  | full h => exact absurd h (by decide)

end FlowchartLayout.Color
