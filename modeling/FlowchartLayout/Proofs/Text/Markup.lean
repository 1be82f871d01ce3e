import FlowchartLayout.Proofs.Text.Encoding
import FlowchartLayout.Proofs.Text.Runs
import Mathlib.Data.List.Find

/-!
# Texts without their markup

What becomes of a text is put together from what becomes of its parts, which are tags and single
characters.

## Main definitions

- `IsTag`, `IsLineBreakTag` — the tags, and those that break lines
- `Piece` — a character that is kept or a tag

## Main statements

- `markupAt_tag`, `exists_isTag_of_markupAt` — exactly the tags are found at the start of a text
- `withoutMarkup_tag`, `withoutMarkup_cons` — what becomes of a tag and of another character
- `tagInduction` — induction on a text by tags and by characters at which no tag begins
- `exists_pieces` — a text is taken apart into tags and characters
-/

namespace FlowchartLayout

/-- A tag goes from a `<`, which a letter or a slash follows, to the next `>`. -/
def IsTag (tag : List Char) : Prop :=
  ∃ c body, tag = '<' :: c :: (body ++ ['>']) ∧ (c.isAlpha = true ∨ c = '/') ∧ '>' ∉ body

/-- A tag that breaks the line, in letters of any case. -/
def IsLineBreakTag (tag : List Char) : Prop :=
  tag.map Char.toLower ∈ ["<br>".toList, "<br/>".toList, "<br />".toList]

instance (tag : List Char) : Decidable (IsLineBreakTag tag) :=
  inferInstanceAs (Decidable (_ ∈ _))

/-- What a tag leaves behind. -/
def textOfTag (tag : List Char) : List Char :=
  if IsLineBreakTag tag then ['\n'] else []

/-! ## Small letters -/

theorem toLower_eq_close_iff {c : Char} : c.toLower = '>' ↔ c = '>' := by
  refine forall_toLower (p := fun c d => d = '>' ↔ c = '>') (by decide) (fun c _ => Iff.rfl) c

theorem toLower_eq_open_iff {c : Char} : c.toLower = '<' ↔ c = '<' := by
  refine forall_toLower (p := fun c d => d = '<' ↔ c = '<') (by decide) (fun c _ => Iff.rfl) c

theorem close_mem_map_toLower {s : List Char} : '>' ∈ s.map Char.toLower ↔ '>' ∈ s := by
  rw [List.mem_map]
  constructor
  · rintro ⟨c, hc, hlower⟩
    rwa [← toLower_eq_close_iff.1 hlower]
  · exact fun h => ⟨'>', h, rfl⟩

theorem takeWhile_map_toLower (s : List Char) :
    (s.map Char.toLower).takeWhile (· != '>') = (s.takeWhile (· != '>')).map Char.toLower := by
  rw [List.takeWhile_map]
  congr 2
  funext c
  rw [Function.comp_apply, Bool.eq_iff_iff, bne_iff_ne, bne_iff_ne, Ne, Ne, toLower_eq_close_iff]

theorem opensTag_map_toLower (s : List Char) : opensTag (s.map Char.toLower) = opensTag s := by
  cases s with
  | nil => rfl
  | cons c s =>
    exact forall_toLower (p := fun c d => (d.isAlpha || d == '/') = (c.isAlpha || c == '/'))
      (by decide) (fun c _ => rfl) c

theorem opensTag_iff {s : List Char} :
    opensTag s = true ↔ ∃ c body, s = c :: body ∧ (c.isAlpha = true ∨ c = '/') := by
  cases s with
  | nil => exact iff_of_false Bool.false_ne_true nofun
  | cons c s =>
    rw [opensTag, Bool.or_eq_true, beq_iff_eq]
    constructor
    · exact fun h => ⟨c, s, rfl, h⟩
    · rintro ⟨_, _, ⟨⟩, h⟩
      exact h

/-! ## Line break tags -/

/-- A line break tag is a tag of small letters. -/
theorem exists_eq_of_mem_lineBreakTags {tag : List Char} (h : tag ∈ lineBreakTags) :
    (∃ body, tag = '<' :: 'b' :: (body ++ ['>']) ∧ '>' ∉ body) ∧
      ∀ c ∈ tag, c.toLower = c ∧ c.toNat < 128 := by
  have hall : (lineBreakTags.all fun tag =>
      tag.all fun c => decide (c.toLower = c ∧ c.toNat < 128)) = true := by decide
  refine ⟨?_, fun c hc =>
    of_decide_eq_true (List.all_eq_true.1 (List.all_eq_true.1 hall tag h) c hc)⟩
  simp only [lineBreakTags, List.mem_cons, List.not_mem_nil, or_false] at h
  rcases h with rfl | rfl | rfl
  · exact ⟨['r', '/'], rfl, by decide⟩
  · exact ⟨['r', ' ', '/'], rfl, by decide⟩
  · exact ⟨['r'], rfl, by decide⟩

theorem isLineBreakTag_iff {tag : List Char} :
    IsLineBreakTag tag ↔ tag.map Char.toLower ∈ lineBreakTags := by
  simp only [IsLineBreakTag, lineBreakTags, List.mem_cons, List.not_mem_nil, or_false]
  rw [or_comm, or_assoc]

/-- Words of small letters are looked for among the small letters. -/
theorem isSome_dropWordIgnoringCase {word : List Char} (hword : ∀ w ∈ word, w.toLower = w)
    (s : List Char) :
    (dropWordIgnoringCase word s).isSome = word.isPrefixOf (s.map Char.toLower) := by
  induction word generalizing s with
  | nil => cases s <;> rfl
  | cons w word ih =>
    obtain ⟨hw, hword⟩ := List.forall_mem_cons.1 hword
    cases s with
    | nil => rfl
    | cons c s =>
      rw [dropWordIgnoringCase, List.map_cons, List.isPrefixOf_cons_cons, hw]
      by_cases hc : c.toLower = w
      · rw [if_pos hc, ih hword, hc, beq_self_eq_true, Bool.true_and]
      · rw [if_neg hc, beq_eq_false_iff_ne.2 (Ne.symm hc), Bool.false_and]
        rfl

/-- The line break tag with which a text begins, as it is spelled in small letters. -/
def lineBreakAt? (s : List Char) : Option (List Char) :=
  lineBreakTags.find? fun tag => tag.isPrefixOf (s.map Char.toLower)

theorem lineBreakAt?_eq_some {s tag : List Char} (h : lineBreakAt? s = some tag) :
    tag ∈ lineBreakTags ∧ tag <+: s.map Char.toLower := by
  refine ⟨List.mem_of_find?_eq_some h, List.isPrefixOf_iff_prefix.1 ?_⟩
  exact List.find?_some (p := fun tag : List Char => tag.isPrefixOf (s.map Char.toLower)) h

theorem markupAt_eq (s : List Char) :
    markupAt s =
      match lineBreakAt? s with
      | some tag => some ⟨true, tag.length⟩
      | none =>
        if s.head? = some '<' && opensTag s.tail && s.contains '>' then
          some ⟨false, (s.takeWhile (· != '>')).length + 1⟩
        else none := by
  have hfind : (lineBreakTags.find? fun tag => (dropWordIgnoringCase tag s).isSome) =
      lineBreakAt? s := List.find?_congr fun tag htag =>
    isSome_dropWordIgnoringCase (fun w hw => ((exists_eq_of_mem_lineBreakTags htag).2 w hw).1) _
  rw [← hfind]
  rfl

/-! ## Tags at the start of a text -/

/-- The text up to the first `>`, taken as a run. -/
theorem takeWhile_close {u : List Char} (hu : '>' ∉ u) (s : List Char) :
    (u ++ '>' :: s).takeWhile (· != '>') = u :=
  takeWhile_run (fun c hc => bne_iff_ne.2 fun h => hu (h ▸ hc)) (by rintro c ⟨⟩; rfl)

theorem IsTag.exists_eq {tag : List Char} (h : IsTag tag) :
    ∃ u, tag = u ++ ['>'] ∧ '>' ∉ u := by
  obtain ⟨c, body, rfl, hc, hbody⟩ := h
  refine ⟨'<' :: c :: body, rfl, ?_⟩
  have hne : '>' ≠ c := by
    rintro rfl
    revert hc
    decide
  simp [hne, hbody]

/-- Where a tag begins, no other line break tag is found. -/
theorem map_toLower_eq_of_lineBreakAt? {tag r w : List Char} (h : IsTag tag)
    (hw : lineBreakAt? (tag ++ r) = some w) : tag.map Char.toLower = w := by
  obtain ⟨u, rfl, hu⟩ := h.exists_eq
  obtain ⟨hmem, t, ht⟩ := lineBreakAt?_eq_some hw
  obtain ⟨⟨body, rfl, hbody⟩, -⟩ := exists_eq_of_mem_lineBreakTags hmem
  -- both go up to the first `>` of the text
  have hclose : '>' ∉ '<' :: 'b' :: body := by simp [hbody]
  have hleft := takeWhile_close hclose t
  have hright := takeWhile_close (mt close_mem_map_toLower.1 hu) (r.map Char.toLower)
  have htext : '<' :: 'b' :: body ++ '>' :: t =
      u.map Char.toLower ++ '>' :: r.map Char.toLower := by
    simpa using ht
  rw [htext, hright] at hleft
  rw [List.map_append, hleft]
  rfl

theorem lineBreakAt?_of_isTag {tag : List Char} (h : IsTag tag) (r : List Char) :
    lineBreakAt? (tag ++ r) = some (tag.map Char.toLower) ∧ IsLineBreakTag tag ∨
      lineBreakAt? (tag ++ r) = none ∧ ¬IsLineBreakTag tag := by
  cases hw : lineBreakAt? (tag ++ r) with
  | some w =>
    obtain rfl := map_toLower_eq_of_lineBreakAt? h hw
    exact .inl ⟨rfl, isLineBreakTag_iff.2 (List.mem_of_find?_eq_some hw)⟩
  | none =>
    refine .inr ⟨rfl, fun hbreak => ?_⟩
    have hnone := List.find?_eq_none.1 hw _ (isLineBreakTag_iff.1 hbreak)
    rw [List.isPrefixOf_iff_prefix, List.map_append] at hnone
    exact hnone (List.prefix_append _ _)

/-- A line break tag is a tag. -/
theorem IsLineBreakTag.isTag {tag : List Char} (h : IsLineBreakTag tag) : IsTag tag := by
  obtain ⟨⟨body, htag, hbody⟩, -⟩ := exists_eq_of_mem_lineBreakTags (isLineBreakTag_iff.1 h)
  obtain ⟨c, afterOpen, rfl, hc, hafter⟩ := List.map_eq_cons_iff.1 htag
  obtain ⟨d, afterLetter, rfl, hd, hafter'⟩ := List.map_eq_cons_iff.1 hafter
  obtain ⟨body', close, rfl, rfl, hclose⟩ := List.map_eq_append_iff.1 hafter'
  obtain ⟨e, rest, rfl, he, hrest⟩ := List.map_eq_cons_iff.1 hclose
  obtain rfl := List.map_eq_nil_iff.1 hrest
  have hletter : d.toLower = 'b' → d.isAlpha = true :=
    forall_toLower (p := fun d e => e = 'b' → d.isAlpha = true) (by decide)
      (fun d hle hd => absurd hle (by rw [hd]; decide)) d
  rw [toLower_eq_open_iff.1 hc, toLower_eq_close_iff.1 he]
  exact ⟨d, body', rfl, .inl (hletter hd), mt close_mem_map_toLower.2 hbody⟩

theorem IsTag.starts {tag : List Char} (h : IsTag tag) (r : List Char) :
    (tag ++ r).head? = some '<' ∧ opensTag (tag ++ r).tail = true := by
  obtain ⟨c, body, rfl, hc, -⟩ := h
  exact ⟨rfl, opensTag_iff.2 ⟨c, _, rfl, hc⟩⟩

/-- A tag at the start of a text is found, whatever follows it. -/
theorem markupAt_tag {tag : List Char} (h : IsTag tag) (r : List Char) :
    markupAt (tag ++ r) = some ⟨decide (IsLineBreakTag tag), tag.length⟩ := by
  rw [markupAt_eq]
  rcases lineBreakAt?_of_isTag h r with ⟨hw, hbreak⟩ | ⟨hw, hbreak⟩
  · simp only [hw, List.length_map, hbreak, decide_true]
  · obtain ⟨hhead, hopens⟩ := h.starts r
    obtain ⟨u, rfl, hu⟩ := h.exists_eq
    have hclose : (u ++ ['>'] ++ r).contains '>' = true := by simp
    have hrun : (u ++ ['>'] ++ r).takeWhile (· != '>') = u := by
      rw [List.append_assoc]
      exact takeWhile_close hu r
    simp only [hw, hhead, hopens, hclose, hrun, hbreak, decide_true, decide_false, Bool.and_self,
      if_true, List.length_append, List.length_singleton]

/-- Nothing else is found. -/
theorem exists_isTag_of_markupAt {s : List Char} {m : Markup} (h : markupAt s = some m) :
    ∃ tag r, s = tag ++ r ∧ IsTag tag := by
  rw [markupAt_eq] at h
  cases hw : lineBreakAt? s with
  | some w =>
    obtain ⟨hmem, t, ht⟩ := lineBreakAt?_eq_some hw
    obtain ⟨tag, r, rfl, rfl, -⟩ := List.map_eq_append_iff.1 ht.symm
    exact ⟨tag, r, rfl, (isLineBreakTag_iff.2 hmem).isTag⟩
  | none =>
    simp only [hw] at h
    split at h
    · next hcond =>
      rw [Bool.and_eq_true, Bool.and_eq_true, decide_eq_true_eq, List.contains_iff_mem] at hcond
      obtain ⟨⟨hhead, hopens⟩, hclose⟩ := hcond
      obtain ⟨t, rfl⟩ := List.head?_eq_some_iff.1 hhead
      obtain ⟨c, t, rfl, hc⟩ := opensTag_iff.1 hopens
      have hmem : '>' ∈ t := by
        have hne : '>' ≠ c := by
          rintro rfl
          revert hc
          decide
        simpa [hne] using hclose
      obtain ⟨body, r, rfl, hbody⟩ := List.eq_append_cons_of_mem hmem
      exact ⟨'<' :: c :: (body ++ ['>']), r, by simp, c, body, rfl, hc, hbody⟩
    · cases h

theorem markupAt_of_not_isTag {s : List Char} (h : ∀ tag r, s = tag ++ r → ¬IsTag tag) :
    markupAt s = none := by
  rw [Option.eq_none_iff_forall_ne_some]
  intro m hm
  obtain ⟨tag, r, hs, htag⟩ := exists_isTag_of_markupAt hm
  exact h tag r hs htag

/-! ## Texts part by part -/

theorem withoutMarkupAfter_eq (n : Nat) (s : List Char) :
    withoutMarkupAfter n s = withoutMarkup (s.drop n) := by
  induction s generalizing n with
  | nil => cases n <;> rfl
  | cons c s ih =>
    cases n with
    | zero => rfl
    | succ n => exact ih n

/-- The text after a tag is dealt with by itself. -/
theorem withoutMarkup_tag {tag : List Char} (h : IsTag tag) (r : List Char) :
    withoutMarkup (tag ++ r) = textOfTag tag ++ withoutMarkup r := by
  have hmarkup := markupAt_tag h r
  obtain ⟨c, body, rfl, -⟩ := h
  have hrest : withoutMarkupAfter (c :: (body ++ ['>'])).length (c :: (body ++ ['>']) ++ r) =
      withoutMarkup r := by
    rw [withoutMarkupAfter_eq, List.drop_left]
  rw [List.cons_append] at hmarkup ⊢
  rw [withoutMarkup, withoutMarkupAfter, hmarkup, textOfTag]
  by_cases hbreak : IsLineBreakTag ('<' :: c :: (body ++ ['>']))
  · rw [decide_eq_true hbreak, if_pos hbreak, ← hrest]
    rfl
  · rw [decide_eq_false hbreak, if_neg hbreak, ← hrest]
    rfl

/-- A character at which no tag begins is kept. -/
theorem withoutMarkup_cons {c : Char} {s : List Char}
    (h : ∀ tag r, c :: s = tag ++ r → ¬IsTag tag) :
    withoutMarkup (c :: s) = c :: withoutMarkup s := by
  rw [withoutMarkup, withoutMarkupAfter, markupAt_of_not_isTag h, withoutMarkup]

/-- A text ends, or begins with a tag, or with a character that is kept. The rest of it is
shorter. -/
@[elab_as_elim]
theorem tagInduction {motive : List Char → Prop} (nil : motive [])
    (tag : ∀ tag r, IsTag tag → motive r → motive (tag ++ r))
    (kept : ∀ c r, (∀ tag r', c :: r = tag ++ r' → ¬IsTag tag) → motive r → motive (c :: r))
    (s : List Char) : motive s := by
  induction h : s.length using Nat.strongRecOn generalizing s with
  | ind n ih =>
    by_cases hfound : ∃ t r, s = t ++ r ∧ IsTag t
    · obtain ⟨t, r, rfl, ht⟩ := hfound
      have hlt : r.length < n := by
        obtain ⟨_, _, rfl, -⟩ := ht
        simp at h
        omega
      exact tag t r ht (ih _ hlt r rfl)
    · cases s with
      | nil => exact nil
      | cons c r =>
        have hlt : r.length < n := by
          rw [← h]
          exact Nat.lt_succ_self _
        exact kept c r (fun t r' hs ht => hfound ⟨t, r', hs, ht⟩) (ih _ hlt r rfl)

/-- A character that is kept, or a tag. -/
inductive Piece where
  | kept (c : Char)
  | tag (t : List Char)

namespace Piece

/-- The characters of the text that the piece consists of. -/
def source : Piece → List Char
  | kept c => [c]
  | tag t => t

/-- What becomes of the piece. -/
def text : Piece → List Char
  | kept c => [c]
  | tag t => textOfTag t

end Piece

/-- A text falls into pieces, and so does what becomes of it. -/
theorem exists_pieces (s : List Char) :
    ∃ pieces : List Piece, (∀ t, .tag t ∈ pieces → IsTag t) ∧ s = pieces.flatMap Piece.source ∧
      withoutMarkup s = pieces.flatMap Piece.text := by
  induction s using tagInduction with
  | nil => exact ⟨[], nofun, rfl, rfl⟩
  | tag tag r htag ih =>
    obtain ⟨pieces, htags, hsource, htext⟩ := ih
    refine ⟨.tag tag :: pieces, ?_, ?_, ?_⟩
    · intro t ht
      rcases List.mem_cons.1 ht with ht | ht
      · cases ht
        exact htag
      · exact htags t ht
    · rw [List.flatMap_cons, ← hsource]
      rfl
    · rw [withoutMarkup_tag htag, List.flatMap_cons, ← htext]
      rfl
  | kept c r hkept ih =>
    obtain ⟨pieces, htags, hsource, htext⟩ := ih
    refine ⟨.kept c :: pieces, ?_, ?_, ?_⟩
    · intro t ht
      rcases List.mem_cons.1 ht with ht | ht
      · cases ht
      · exact htags t ht
    · rw [List.flatMap_cons, ← hsource]
      rfl
    · rw [withoutMarkup_cons hkept, List.flatMap_cons, ← htext]
      rfl

/-- Text without `<` is kept, whatever follows it. -/
theorem withoutMarkup_append {p : List Char} (hp : '<' ∉ p) (r : List Char) :
    withoutMarkup (p ++ r) = p ++ withoutMarkup r := by
  induction p with
  | nil => rfl
  | cons c p ih =>
    obtain ⟨hc, hp⟩ := List.ne_and_not_mem_of_not_mem_cons hp
    have hkept : ∀ tag r', c :: (p ++ r) = tag ++ r' → ¬IsTag tag := by
      rintro tag r' h ⟨d, body, rfl, -⟩
      exact hc (List.cons.inj h).1.symm
    rw [List.cons_append, withoutMarkup_cons hkept, ih hp, List.cons_append]

/-- Text without `>` is kept. -/
theorem withoutMarkup_eq_self {s : List Char} (hs : '>' ∉ s) : withoutMarkup s = s := by
  induction s with
  | nil => rfl
  | cons c s ih =>
    have hkept : ∀ tag r', c :: s = tag ++ r' → ¬IsTag tag := by
      intro tag r' h htag
      obtain ⟨u, rfl, -⟩ := htag.exists_eq
      exact hs (h ▸ by simp)
    rw [withoutMarkup_cons hkept, ih fun hmem => hs (List.mem_cons_of_mem _ hmem)]

/-- A `<` is kept if no letter or slash follows it, or no `>`. -/
theorem withoutMarkup_open {r : List Char}
    (h : (∀ c ∈ r.head?, ¬(c.isAlpha = true ∨ c = '/')) ∨ '>' ∉ r) :
    withoutMarkup ('<' :: r) = '<' :: withoutMarkup r := by
  refine withoutMarkup_cons fun tag r' hs htag => ?_
  obtain ⟨c, body, rfl, hc, -⟩ := htag
  obtain rfl : r = c :: (body ++ ['>']) ++ r' := (List.cons.inj hs).2
  rcases h with h | h
  · exact h c rfl hc
  · simp at h

end FlowchartLayout
