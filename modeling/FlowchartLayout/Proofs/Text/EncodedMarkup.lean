import FlowchartLayout.Proofs.Text.Markup

/-!
# A pass over encoded text

The bytes of a text and of the same text in small letters are gone over with the same two places.
Both places always lie between characters, so that what is copied are characters of the text, and
what is left out are its tags.

## Main definitions

- `scanFrom?` — the pass over a text when it has come to a place between two characters

## Main statements

- `encodedMarkupAt_eq` — the bytes of a tag are found where the tag is
- `scanFrom?_eq` — what the pass comes to from any such place
- `withoutMarkup_exact` — what becomes of the parts of a text, and that the pass comes to the same
-/

namespace FlowchartLayout

/-! ## Tags in the bytes -/

/-- In the bytes, the same tag is found; it is as long as the bytes of its characters. -/
theorem encodedMarkupAt_eq (s : List Char) :
    encodedMarkupAt (encoded (('<' :: s).map Char.toLower)) =
      (markupAt ('<' :: s)).map fun m =>
        ⟨m.breaksLine, (encoded (('<' :: s).take m.length)).length⟩ := by
  have hfind : (lineBreakTags.map encoded).find?
      (fun tag => tag.isPrefixOf (encoded (('<' :: s).map Char.toLower))) =
        (lineBreakAt? ('<' :: s)).map encoded := by
    rw [List.find?_map, lineBreakAt?]
    congr 1
    exact List.find?_congr fun tag htag =>
      isPrefixOf_encoded (fun w hw => ((exists_eq_of_mem_lineBreakTags htag).2 w hw).2) _
  rw [encodedMarkupAt, hfind, markupAt_eq]
  cases htag : lineBreakAt? ('<' :: s) with
  | some tag =>
    obtain ⟨-, t, ht⟩ := lineBreakAt?_eq_some htag
    have htake : (('<' :: s).take tag.length).map Char.toLower = tag := by
      rw [List.map_take, ← ht, List.take_left]
    simp only [Option.map_some]
    rw [← length_encoded_toLower (('<' :: s).take tag.length), htake]
  | none =>
    have htail : (encoded (('<' :: s).map Char.toLower)).tail = encoded (s.map Char.toLower) := by
      rw [List.map_cons, encoded_cons_of_lt (by decide)]
      rfl
    have hcontains : (encoded (('<' :: s).map Char.toLower)).contains '>'.toUInt8 =
        ('<' :: s).contains '>' := by
      rw [Bool.eq_iff_iff, List.contains_iff_mem, List.contains_iff_mem,
        toUInt8_mem_encoded_iff (by decide), close_mem_map_toLower]
    simp only [Option.map_none, htail, hcontains, opensTagInBytes_encoded, opensTag_map_toLower,
      List.head?_cons, decide_true, List.tail_cons, Bool.true_and]
    split
    · next hcond =>
      rw [Bool.and_eq_true, List.contains_iff_mem] at hcond
      obtain ⟨u, t, hs, hu⟩ := List.eq_append_cons_of_mem hcond.2
      have htake : (u ++ '>' :: t).take (u.length + 1) = u ++ ['>'] := by
        rw [List.take_length_add_append]
        rfl
      rw [takeWhile_encoded (by decide), takeWhile_map_toLower, length_encoded_toLower, hs,
        takeWhile_close hu, Option.map_some]
      simp only [htake, encoded_append, List.length_append]
      rfl
    · rfl

theorem encodedMarkupAt_tag {s tag r : List Char} (hs : '<' :: s = tag ++ r) (h : IsTag tag) :
    encodedMarkupAt (encoded (('<' :: s).map Char.toLower)) =
      some ⟨decide (IsLineBreakTag tag), (encoded tag).length⟩ := by
  rw [encodedMarkupAt_eq, hs, markupAt_tag h, Option.map_some, List.take_left]

theorem encodedMarkupAt_of_not_isTag {s : List Char}
    (h : ∀ tag r, '<' :: s = tag ++ r → ¬IsTag tag) :
    encodedMarkupAt (encoded (('<' :: s).map Char.toLower)) = none := by
  rw [encodedMarkupAt_eq, markupAt_of_not_isTag h, Option.map_none]

/-! ## One step of the pass -/

theorem scanMarkup?_of_none {bytes small out : List UInt8} {start i : Nat}
    (h : small[i]? = none) :
    scanMarkup? bytes small out start i = (slice? bytes start bytes.length).map (out ++ ·) := by
  rw [scanMarkup?]
  split
  · rfl
  · next b hb => exact absurd (h.symm.trans hb) (Option.some_ne_none b).symm

theorem scanMarkup?_of_ne {bytes small out : List UInt8} {start i : Nat} {b : UInt8}
    (h : small[i]? = some b) (hb : b ≠ '<'.toUInt8) :
    scanMarkup? bytes small out start i = scanMarkup? bytes small out start (i + 1) := by
  rw [scanMarkup?]
  split
  · next hnone => exact absurd (h.symm.trans hnone) (Option.some_ne_none b)
  · next d hd =>
    obtain rfl := Option.some.inj (h.symm.trans hd)
    rw [if_neg hb]

theorem scanMarkup?_open {bytes small out rest : List UInt8} {start i : Nat}
    (h : small[i]? = some '<'.toUInt8) (hrest : slice? small i small.length = some rest) :
    scanMarkup? bytes small out start i =
      match encodedMarkupAt rest with
      | some m => (slice? bytes start i).bind fun kept =>
          scanMarkup? bytes small
            (out ++ (kept ++ if m.breaksLine then ['\n'.toUInt8] else [])) (i + m.length)
              (i + m.length)
      | none => scanMarkup? bytes small out start (i + 1) := by
  rw [scanMarkup?]
  split
  · next hnone => exact absurd (h.symm.trans hnone) (Option.some_ne_none _)
  · next d hd =>
    obtain rfl := Option.some.inj (h.symm.trans hd)
    rw [if_pos rfl, hrest]
    simp only
    split
    · next m hm =>
      simp only [hm]
      cases slice? bytes start i <;> rfl
    · next hm => simp only [hm]

/-- Bytes other than `<` are gone over one by one. -/
theorem scanMarkup?_skip {bytes out q : List UInt8} {start : Nat} (hq : '<'.toUInt8 ∉ q)
    (p t : List UInt8) :
    scanMarkup? bytes (p ++ q ++ t) out start p.length =
      scanMarkup? bytes (p ++ q ++ t) out start (p ++ q).length := by
  induction q generalizing p with
  | nil => rw [List.append_nil]
  | cons b q ih =>
    obtain ⟨hb, hq⟩ := List.ne_and_not_mem_of_not_mem_cons hq
    have hbyte : (p ++ b :: q ++ t)[p.length]? = some b := by
      rw [List.append_assoc, List.getElem?_append_right (Nat.le_refl _), Nat.sub_self]
      rfl
    have hsplit : p ++ b :: q = p ++ [b] ++ q := by rw [List.append_assoc, List.singleton_append]
    have hlength : p.length + 1 = (p ++ [b]).length := by rw [List.length_append]; rfl
    rw [scanMarkup?_of_ne hbyte hb.symm, hlength, hsplit, ih hq]

/-- The pass over the text `a ++ k ++ r` when it has come to `r`. What `k` leaves behind is the
same as before and is not yet in `out`. -/
def scanFrom? (out : List UInt8) (a k r : List Char) : Option (List UInt8) :=
  scanMarkup? (encoded (a ++ k ++ r)) (encoded ((a ++ k ++ r).map Char.toLower)) out
    (encoded a).length (encoded (a ++ k)).length

variable {out : List UInt8} {a k r : List Char}

theorem scanFrom?_nil : scanFrom? out a k [] = some (out ++ encoded k) := by
  have hend : (encoded ((a ++ k).map Char.toLower))[(encoded (a ++ k)).length]? = none := by
    rw [List.getElem?_eq_none_iff, length_encoded_toLower]
  have hslice : slice? (encoded (a ++ k)) (encoded a).length (encoded (a ++ k)).length =
      some (encoded k) := by
    simpa only [List.append_nil] using slice?_encoded a k []
  rw [scanFrom?, List.append_nil, scanMarkup?_of_none hend, hslice, Option.map_some]

theorem scanFrom?_char {c : Char} (hc : c ≠ '<') :
    scanFrom? out a k (c :: r) = scanFrom? out a (k ++ [c]) r := by
  have hq : '<'.toUInt8 ∉ encoded [c.toLower] := by
    rw [toUInt8_mem_encoded_iff (by decide), List.mem_singleton, eq_comm, toLower_eq_open_iff]
    exact hc
  have htext : a ++ (k ++ [c]) ++ r = a ++ k ++ c :: r := by simp
  have hsmall : encoded ((a ++ k ++ c :: r).map Char.toLower) =
      encoded ((a ++ k).map Char.toLower) ++ encoded [c.toLower] ++
        encoded (r.map Char.toLower) := by
    rw [List.map_append, List.map_cons, encoded_append, ← List.singleton_append, encoded_append,
      List.append_assoc]
  have hnext : encoded ((a ++ (k ++ [c])).map Char.toLower) =
      encoded ((a ++ k).map Char.toLower) ++ encoded [c.toLower] := by
    rw [← List.append_assoc, List.map_append, encoded_append]
    rfl
  rw [scanFrom?, scanFrom?, htext, hsmall, ← length_encoded_toLower (a ++ k), scanMarkup?_skip hq,
    ← length_encoded_toLower (a ++ (k ++ [c])), hnext]

/-- At a `<` the rest of the text is looked at. -/
theorem scanFrom?_open :
    scanFrom? out a k ('<' :: r) =
      match encodedMarkupAt (encoded (('<' :: r).map Char.toLower)) with
      | some m =>
        scanMarkup? (encoded (a ++ k ++ '<' :: r))
          (encoded ((a ++ k ++ '<' :: r).map Char.toLower))
          (out ++ (encoded k ++ if m.breaksLine then ['\n'.toUInt8] else []))
          ((encoded (a ++ k)).length + m.length) ((encoded (a ++ k)).length + m.length)
      | none => scanFrom? out a (k ++ ['<']) r := by
  have hsmall : encoded ((a ++ k ++ '<' :: r).map Char.toLower) =
      encoded ((a ++ k).map Char.toLower) ++ encoded (('<' :: r).map Char.toLower) := by
    rw [List.map_append, encoded_append]
  have hbyte : (encoded ((a ++ k ++ '<' :: r).map Char.toLower))[(encoded (a ++ k)).length]? =
      some '<'.toUInt8 := by
    rw [hsmall, ← length_encoded_toLower (a ++ k), List.getElem?_append_right (Nat.le_refl _),
      Nat.sub_self, List.map_cons, toLower_eq_open_iff.2 rfl, encoded_cons_of_lt (by decide)]
    rfl
  have hrest : slice? (encoded ((a ++ k ++ '<' :: r).map Char.toLower)) (encoded (a ++ k)).length
      (encoded ((a ++ k ++ '<' :: r).map Char.toLower)).length =
        some (encoded (('<' :: r).map Char.toLower)) := by
    rw [List.map_append, ← length_encoded_toLower (a ++ k)]
    simpa only [List.append_nil] using
      slice?_encoded ((a ++ k).map Char.toLower) (('<' :: r).map Char.toLower) []
  have hnext : (encoded (a ++ k)).length + 1 = (encoded (a ++ (k ++ ['<']))).length := by
    rw [← List.append_assoc, encoded_append (a ++ k), List.length_append]
    rfl
  have htext : a ++ (k ++ ['<']) ++ r = a ++ k ++ '<' :: r := by simp
  rw [scanFrom?, scanMarkup?_open hbyte hrest, slice?_encoded, scanFrom?, htext, hnext]
  rfl

/-- At a tag, what was kept before it is copied. -/
theorem scanFrom?_tag {tag : List Char} (h : IsTag tag) :
    scanFrom? out a k (tag ++ r) =
      scanFrom? (out ++ encoded (k ++ textOfTag tag)) (a ++ k ++ tag) [] r := by
  obtain ⟨s, hs⟩ : ∃ s, tag ++ r = '<' :: s := List.head?_eq_some_iff.1 (h.starts r).1
  have hnewline : (if (decide (IsLineBreakTag tag)) = true then ['\n'.toUInt8] else []) =
      encoded (textOfTag tag) := by
    by_cases hbreak : IsLineBreakTag tag
    · rw [textOfTag, if_pos hbreak, if_pos (decide_eq_true hbreak)]
      rfl
    · rw [textOfTag, if_neg hbreak, if_neg (by simpa using hbreak)]
      rfl
  rw [hs, scanFrom?_open, encodedMarkupAt_tag hs.symm h, ← hs]
  simp only [hnewline]
  rw [scanFrom?, List.append_nil, ← encoded_append, List.append_assoc (a ++ k) tag,
    encoded_append (a ++ k) tag, List.length_append]

/-- A character at which no tag begins is kept. -/
theorem scanFrom?_kept {c : Char} (h : ∀ tag r', c :: r = tag ++ r' → ¬IsTag tag) :
    scanFrom? out a k (c :: r) = scanFrom? out a (k ++ [c]) r := by
  by_cases hc : c = '<'
  · subst hc
    rw [scanFrom?_open, encodedMarkupAt_of_not_isTag h]
  · exact scanFrom?_char hc

/-! ## The whole pass -/

/-- From any place between characters on, the tags of the rest are dealt with, and what was kept
before is copied. -/
theorem scanFrom?_eq (out : List UInt8) (a k r : List Char) :
    scanFrom? out a k r = some (out ++ encoded (k ++ withoutMarkup r)) := by
  induction r using tagInduction generalizing out a k with
  | nil =>
    have hnil : withoutMarkup [] = [] := rfl
    rw [scanFrom?_nil, hnil, List.append_nil]
  | tag tag r htag ih =>
    rw [scanFrom?_tag htag, ih, withoutMarkup_tag htag, List.nil_append, ← List.append_assoc k,
      encoded_append (k ++ textOfTag tag), List.append_assoc]
  | kept c r hkept ih =>
    rw [scanFrom?_kept hkept, ih, withoutMarkup_cons hkept, List.append_assoc,
      List.singleton_append]

/-- The pass over the bytes comes to the same text, and no slice is cut within a character. -/
theorem withoutMarkupInBytes?_encoded (s : List Char) :
    withoutMarkupInBytes? (encoded s) = some (encoded (withoutMarkup s)) := by
  have h := scanFrom?_eq [] [] [] s
  rwa [scanFrom?, ← map_smallByte_encoded] at h

/-- Text up to a `<` is kept. A tag that breaks the line leaves a line feed behind, any other tag
nothing, and a `<` that begins no tag is kept; the rest is dealt with by itself. So every text
falls into tags and characters that are kept as they are, and a text without `>` is kept. The pass
over the bytes of a text comes to the same, and never cuts it within a character. -/
theorem withoutMarkup_exact :
    (∀ p r, '<' ∉ p → withoutMarkup (p ++ r) = p ++ withoutMarkup r) ∧
    (∀ tag r, IsLineBreakTag tag → withoutMarkup (tag ++ r) = '\n' :: withoutMarkup r) ∧
    (∀ tag r, IsTag tag → ¬IsLineBreakTag tag →
      withoutMarkup (tag ++ r) = withoutMarkup r) ∧
    (∀ r, (∀ c ∈ r.head?, ¬(c.isAlpha = true ∨ c = '/')) ∨ '>' ∉ r →
      withoutMarkup ('<' :: r) = '<' :: withoutMarkup r) ∧
    (∀ s, ∃ pieces : List Piece, (∀ t, .tag t ∈ pieces → IsTag t) ∧
      s = pieces.flatMap Piece.source ∧ withoutMarkup s = pieces.flatMap Piece.text) ∧
    (∀ s, '>' ∉ s → withoutMarkup s = s) ∧
    ∀ s : String, withoutMarkupInBytes? s.toUTF8.data.toList =
      some (String.ofList (withoutMarkup s.toList)).toUTF8.data.toList := by
  refine ⟨fun p r hp => withoutMarkup_append hp r, fun tag r hbreak => ?_,
    fun tag r htag hbreak => ?_, fun r h => withoutMarkup_open h, exists_pieces,
    fun s hs => withoutMarkup_eq_self hs, fun s => ?_⟩
  · rw [withoutMarkup_tag hbreak.isTag, textOfTag, if_pos hbreak, List.singleton_append]
  · rw [withoutMarkup_tag htag, textOfTag, if_neg hbreak, List.nil_append]
  · rw [toList_toUTF8, toList_toUTF8, String.toList_ofList, withoutMarkupInBytes?_encoded]

theorem withoutMarkup_mixed :
    withoutMarkup "日本<BR/>語 < <b>a".toList = "日本\n語 < a".toList ∧
      withoutMarkupInBytes? "日本<BR/>語 < <b>a".toUTF8.data.toList =
        some "日本\n語 < a".toUTF8.data.toList := by
  obtain ⟨hkept, hbreak, htag, hopen, -, hplain, hbytes⟩ := withoutMarkup_exact
  have htext : withoutMarkup "日本<BR/>語 < <b>a".toList = "日本\n語 < a".toList :=
    calc withoutMarkup ("日本".toList ++ "<BR/>語 < <b>a".toList)
      _ = "日本".toList ++ withoutMarkup ("<BR/>".toList ++ "語 < <b>a".toList) :=
        hkept _ _ (by decide)
      _ = "日本\n".toList ++ withoutMarkup ("語 ".toList ++ "< <b>a".toList) := by
        rw [hbreak _ _ (by decide)]
        rfl
      _ = "日本\n語 ".toList ++ withoutMarkup ('<' :: " <b>a".toList) := by
        rw [hkept _ _ (by decide)]
        rfl
      _ = "日本\n語 <".toList ++ withoutMarkup (" ".toList ++ "<b>a".toList) := by
        rw [hopen " <b>a".toList (.inl (by rintro c ⟨⟩; decide))]
        rfl
      _ = "日本\n語 < ".toList ++ withoutMarkup ("<b>".toList ++ "a".toList) := by
        rw [hkept _ _ (by decide)]
        rfl
      _ = "日本\n語 < ".toList ++ withoutMarkup "a".toList := by
        rw [htag "<b>".toList _ ⟨'b', [], rfl, by decide, by decide⟩ (by decide)]
      _ = "日本\n語 < a".toList := by
        rw [hplain _ (by decide)]
        rfl
  refine ⟨htext, ?_⟩
  rw [hbytes, htext, String.ofList_toList]

end FlowchartLayout
