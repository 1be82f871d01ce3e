import FlowchartLayout.Text.EncodedMarkup

/-!
# Encoded texts

An ASCII character is the byte of its code point. All bytes of another character are at least 128,
and a character is told by its first byte from the inside of another one.

## Main statements

- `toUInt8_mem_utf8EncodeChar_iff` — an ASCII byte encodes its own character only
- `map_smallByte_encoded` — small letters can be made in the bytes
- `slice?_encoded` — the slice between two places that lie between characters
- `takeWhile_encoded`, `isPrefixOf_encoded` — ASCII characters are found in the bytes
-/

namespace FlowchartLayout

theorem encoded_nil : encoded [] = [] := rfl

theorem encoded_cons (c : Char) (s : List Char) :
    encoded (c :: s) = String.utf8EncodeChar c ++ encoded s :=
  List.flatMap_cons

theorem encoded_append (s t : List Char) : encoded (s ++ t) = encoded s ++ encoded t :=
  List.flatMap_append

/-- The bytes of a string. -/
theorem toList_toUTF8 (s : String) : s.toUTF8.data.toList = encoded s.toList := by
  conv => lhs; rw [← String.ofList_toList (s := s)]
  exact List.toList_data_toByteArray

/-! ## Bytes of a character -/

theorem utf8EncodeChar_of_lt {c : Char} (h : c.toNat < 128) :
    String.utf8EncodeChar c = [c.toUInt8] := by
  have hle : c.val.toNat ≤ 127 := Nat.le_of_lt_succ h
  simp only [String.utf8EncodeChar, if_pos hle]
  rfl

theorem encoded_cons_of_lt {c : Char} (h : c.toNat < 128) (s : List Char) :
    encoded (c :: s) = c.toUInt8 :: encoded s := by
  rw [encoded_cons, utf8EncodeChar_of_lt h, List.singleton_append]

/-- Beyond ASCII, a character starts with a byte from 192 on, and all its bytes are from 128 on. -/
theorem exists_utf8EncodeChar_of_le {c : Char} (h : 128 ≤ c.toNat) :
    ∃ b rest, String.utf8EncodeChar c = b :: rest ∧ 192 ≤ b.toNat ∧ ∀ d ∈ rest, 128 ≤ d.toNat := by
  have hgt : ¬c.val.toNat ≤ 127 := fun hle => absurd h (Nat.not_le.2 (Nat.lt_succ_of_le hle))
  simp only [String.utf8EncodeChar, if_neg hgt]
  split
  · refine ⟨_, _, rfl, ?_, ?_⟩
    · rw [UInt8.toNat_ofNat']
      omega
    · rw [List.forall_mem_singleton, UInt8.toNat_ofNat']
      omega
  · split
    · refine ⟨_, _, rfl, ?_, ?_⟩
      · rw [UInt8.toNat_ofNat']
        omega
      · simp only [List.mem_cons, List.not_mem_nil, or_false, forall_eq_or_imp, forall_eq,
          UInt8.toNat_ofNat']
        omega
    · refine ⟨_, _, rfl, ?_, ?_⟩
      · rw [UInt8.toNat_ofNat']
        omega
      · simp only [List.mem_cons, List.not_mem_nil, or_false, forall_eq_or_imp, forall_eq,
          UInt8.toNat_ofNat']
        omega

theorem le_of_mem_utf8EncodeChar {c : Char} (h : 128 ≤ c.toNat) {b : UInt8}
    (hb : b ∈ String.utf8EncodeChar c) : 128 ≤ b.toNat := by
  obtain ⟨first, rest, hc, hfirst, hrest⟩ := exists_utf8EncodeChar_of_le h
  rw [hc, List.mem_cons] at hb
  rcases hb with rfl | hb
  · omega
  · exact hrest b hb

theorem toNat_toUInt8 {w : Char} (hw : w.toNat < 128) : w.toUInt8.toNat = w.toNat := by
  show w.val.toUInt8.toNat = w.val.toNat
  rw [UInt32.toNat_toUInt8]
  have h : w.val.toNat < 128 := hw
  omega

theorem toUInt8_inj {w c : Char} (hw : w.toNat < 128) (hc : c.toNat < 128) :
    w.toUInt8 = c.toUInt8 ↔ w = c := by
  constructor
  · intro h
    have hnat := congrArg UInt8.toNat h
    rw [toNat_toUInt8 hw, toNat_toUInt8 hc] at hnat
    rw [← Char.ofNat_toNat w, hnat, Char.ofNat_toNat]
  · rintro rfl
    rfl

/-- The byte of an ASCII character occurs in that character only. -/
theorem toUInt8_mem_utf8EncodeChar_iff {w c : Char} (hw : w.toNat < 128) :
    w.toUInt8 ∈ String.utf8EncodeChar c ↔ w = c := by
  by_cases hc : c.toNat < 128
  · rw [utf8EncodeChar_of_lt hc, List.mem_singleton, toUInt8_inj hw hc]
  · refine iff_of_false (fun hmem => ?_) (fun h => hc (h ▸ hw))
    have hle := le_of_mem_utf8EncodeChar (Nat.not_lt.1 hc) hmem
    rw [toNat_toUInt8 hw] at hle
    omega

/-! ## Small letters -/

theorem smallByte_of_le {b : UInt8} (h : 128 ≤ b.toNat) : smallByte b = b := by
  rw [smallByte, if_neg]
  rw [Bool.and_eq_true, decide_eq_true_eq, decide_eq_true_eq, UInt8.le_iff_toNat_le,
    UInt8.le_iff_toNat_le]
  have hlast : (0x5A : UInt8).toNat = 90 := rfl
  omega

theorem toLower_of_le {c : Char} (h : 128 ≤ c.toNat) : c.toLower = c := by
  refine dif_neg ?_
  rintro ⟨-, hle⟩
  rw [UInt32.le_iff_toNat_le] at hle
  exact absurd h (Nat.not_le.2 (Nat.lt_of_le_of_lt hle (by decide)))

/-- What capitals and small letters have in common is seen from ASCII. -/
theorem forall_toLower {p : Char → Char → Prop}
    (hascii : ∀ n < 128, p (Char.ofNat n) (Char.ofNat n).toLower)
    (h : ∀ c, 128 ≤ c.toNat → p c c) (c : Char) : p c c.toLower := by
  by_cases hc : c.toNat < 128
  · have hp := hascii c.toNat hc
    rwa [Char.ofNat_toNat] at hp
  · rw [toLower_of_le (Nat.not_lt.1 hc)]
    exact h c (Nat.not_lt.1 hc)

theorem map_smallByte_utf8EncodeChar (c : Char) :
    (String.utf8EncodeChar c).map smallByte = String.utf8EncodeChar c.toLower := by
  refine forall_toLower (p := fun c d => (String.utf8EncodeChar c).map smallByte =
    String.utf8EncodeChar d) (by decide) (fun c hc => ?_) c
  have hbytes : ∀ b ∈ String.utf8EncodeChar c, smallByte b = b := fun b hb =>
    smallByte_of_le (le_of_mem_utf8EncodeChar hc hb)
  exact (List.map_congr_left hbytes).trans (List.map_id' _)

/-- Small letters can be made in the bytes, where they take as much room. -/
theorem map_smallByte_encoded (s : List Char) :
    (encoded s).map smallByte = encoded (s.map Char.toLower) := by
  induction s with
  | nil => rfl
  | cons c s ih =>
    rw [encoded_cons, List.map_append, map_smallByte_utf8EncodeChar, ih, List.map_cons,
      encoded_cons]

theorem length_encoded_toLower (s : List Char) :
    (encoded (s.map Char.toLower)).length = (encoded s).length := by
  rw [← map_smallByte_encoded, List.length_map]

/-! ## Slices -/

theorem continuesChar_eq_false_iff {b : UInt8} :
    continuesChar b = false ↔ b.toNat < 128 ∨ 192 ≤ b.toNat := by
  rw [continuesChar, Bool.and_eq_false_iff, decide_eq_false_iff_not, decide_eq_false_iff_not,
    UInt8.le_iff_toNat_le, UInt8.lt_iff_toNat_lt, Nat.not_le, Nat.not_lt]
  rfl

/-- No text starts within a character. -/
theorem continuesChar_head?_encoded (s : List Char) :
    ∀ b ∈ (encoded s).head?, continuesChar b = false := by
  cases s with
  | nil => nofun
  | cons c s =>
    rw [encoded_cons]
    by_cases hc : c.toNat < 128
    · rw [utf8EncodeChar_of_lt hc]
      rintro b ⟨⟩
      rw [continuesChar_eq_false_iff, toNat_toUInt8 hc]
      exact .inl hc
    · obtain ⟨first, rest, hfirst, hle, -⟩ := exists_utf8EncodeChar_of_le (Nat.not_lt.1 hc)
      rw [hfirst]
      rintro b ⟨⟩
      rw [continuesChar_eq_false_iff]
      exact .inr hle

theorem isBoundary_encoded (s t : List Char) :
    isBoundary (encoded (s ++ t)) (encoded s).length = true := by
  rw [isBoundary, encoded_append, List.getElem?_append_right (Nat.le_refl _), Nat.sub_self,
    ← List.head?_eq_getElem?]
  cases h : (encoded t).head? with
  | none =>
    rw [List.head?_eq_none_iff] at h
    simp [h]
  | some b => simp [continuesChar_head?_encoded t b h]

/-- Between places that lie between characters, the bytes are those of the characters there. -/
theorem slice?_encoded (a k r : List Char) :
    slice? (encoded (a ++ k ++ r)) (encoded a).length (encoded (a ++ k)).length =
      some (encoded k) := by
  have hstart : isBoundary (encoded (a ++ k ++ r)) (encoded a).length = true := by
    rw [List.append_assoc]
    exact isBoundary_encoded a (k ++ r)
  have hle : (encoded a).length ≤ (encoded (a ++ k)).length := by
    rw [encoded_append, List.length_append]
    exact Nat.le_add_right _ _
  rw [slice?, hstart, isBoundary_encoded (a ++ k) r, decide_eq_true hle, encoded_append (a ++ k),
    List.take_left, encoded_append a, List.drop_left]
  rfl

/-! ## ASCII characters in the bytes -/

/-- The bytes before an ASCII character are the characters before it. -/
theorem takeWhile_encoded {w : Char} (hw : w.toNat < 128) (s : List Char) :
    (encoded s).takeWhile (· != w.toUInt8) = encoded (s.takeWhile (· != w)) := by
  induction s with
  | nil => rfl
  | cons c s ih =>
    by_cases hc : w = c
    · subst hc
      rw [encoded_cons_of_lt hw, List.takeWhile_cons_of_neg (by simp),
        List.takeWhile_cons_of_neg (by simp), encoded_nil]
    · have hrun : ∀ b ∈ String.utf8EncodeChar c, (b != w.toUInt8) = true := by
        intro b hb
        rw [bne_iff_ne]
        rintro rfl
        exact hc ((toUInt8_mem_utf8EncodeChar_iff hw).1 hb)
      rw [encoded_cons, List.takeWhile_append_of_pos hrun, ih,
        List.takeWhile_cons_of_pos (p := (· != w)) (bne_iff_ne.2 (Ne.symm hc)), encoded_cons]

theorem toUInt8_mem_encoded_iff {w : Char} (hw : w.toNat < 128) (s : List Char) :
    w.toUInt8 ∈ encoded s ↔ w ∈ s := by
  rw [encoded, List.mem_flatMap]
  constructor
  · rintro ⟨c, hc, hmem⟩
    rwa [(toUInt8_mem_utf8EncodeChar_iff hw).1 hmem]
  · intro h
    exact ⟨w, h, (toUInt8_mem_utf8EncodeChar_iff hw).2 rfl⟩

/-- ASCII characters are at the start of the bytes if they are at the start of the text. -/
theorem isPrefixOf_encoded {word : List Char} (hword : ∀ w ∈ word, w.toNat < 128)
    (s : List Char) : (encoded word).isPrefixOf (encoded s) = word.isPrefixOf s := by
  induction word generalizing s with
  | nil => rfl
  | cons w word ih =>
    obtain ⟨hw, hword⟩ := List.forall_mem_cons.1 hword
    rw [encoded_cons_of_lt hw]
    cases s with
    | nil => rfl
    | cons c s =>
      by_cases hc : w = c
      · subst hc
        rw [encoded_cons_of_lt hw, List.isPrefixOf_cons_cons, List.isPrefixOf_cons_cons,
          beq_self_eq_true, beq_self_eq_true, ih hword]
      · -- the first byte of the other character is another one, too
        obtain ⟨b, rest, hb⟩ := List.exists_cons_of_ne_nil (String.utf8EncodeChar_ne_nil (c := c))
        have hbyte : (w.toUInt8 == b) = false := by
          rw [beq_eq_false_iff_ne]
          rintro rfl
          exact hc ((toUInt8_mem_utf8EncodeChar_iff hw).1 (hb ▸ List.mem_cons_self))
        have hchar : (w == c) = false := beq_eq_false_iff_ne.2 hc
        rw [encoded_cons, hb, List.cons_append, List.isPrefixOf_cons_cons,
          List.isPrefixOf_cons_cons, hbyte, hchar, Bool.false_and, Bool.false_and]

theorem isAlpha_of_le {c : Char} (h : 128 ≤ c.toNat) : c.isAlpha = false := by
  rw [Bool.eq_false_iff]
  intro halpha
  have hcases : c.isUpper = true ∨ c.isLower = true := Bool.or_eq_true_iff.1 halpha
  rcases hcases with hcapital | hsmall
  · have hbounds : 'A'.val ≤ c.val ∧ c.val ≤ 'Z'.val := of_decide_eq_true hcapital
    have hle : c.toNat ≤ 90 := UInt32.le_iff_toNat_le.1 hbounds.2
    omega
  · have hle : c.toNat ≤ 122 :=
      UInt32.le_iff_toNat_le.1 (of_decide_eq_true (Bool.and_eq_true_iff.1 hsmall).2)
    omega

theorem opensTagInBytes_encoded (s : List Char) : opensTagInBytes (encoded s) = opensTag s := by
  cases s with
  | nil => rfl
  | cons c s =>
    by_cases hc : c.toNat < 128
    · have hall : ∀ n < 128,
          opensTagInBytes [(Char.ofNat n).toUInt8] = opensTag [Char.ofNat n] := by decide
      have h := hall c.toNat hc
      rw [Char.ofNat_toNat] at h
      rw [encoded_cons_of_lt hc]
      exact h
    · -- neither the character nor its first byte is a letter or a slash
      obtain ⟨b, rest, hb, hle, -⟩ := exists_utf8EncodeChar_of_le (Nat.not_lt.1 hc)
      have hbyte : opensTagInBytes (b :: (rest ++ encoded s)) = false := by
        rw [← Bool.not_eq_true]
        intro h
        simp only [opensTagInBytes, Bool.or_eq_true, Bool.and_eq_true, decide_eq_true_eq,
          UInt8.le_iff_toNat_le, UInt8.reduceToNat, beq_iff_eq] at h
        rcases h with (h | h) | rfl
        · omega
        · omega
        · exact absurd hle (by decide)
      have hchar : opensTag (c :: s) = false := by
        have hne : c ≠ '/' := fun h => hc (h ▸ by decide)
        rw [opensTag, isAlpha_of_le (Nat.not_lt.1 hc), beq_eq_false_iff_ne.2 hne, Bool.or_false]
      rw [encoded_cons, hb, List.cons_append, hbyte, hchar]

end FlowchartLayout
