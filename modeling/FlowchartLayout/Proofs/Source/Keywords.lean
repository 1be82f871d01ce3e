import FlowchartLayout.Proofs.Text.Encoding
import FlowchartLayout.Proofs.Text.Runs
import FlowchartLayout.Source.Statement
import Mathlib.Data.List.TakeWhile

/-!
# Lines with a keyword

The first word of a line decides how the rest of it is read. Keywords are recognised whatever the
case of their letters.

## Main definitions

- `Statement.SaidBy` — what a line can say
- `IsAnonymousHeading` — a line that begins a subgraph without id and title

## Main statements

- `ofLine_append` — a line is read by its first word
- `saidBy_ofLine` — by the first word, a line says one of a few things
- `ofLine_style` — a line with the keyword of styles
- `ofLine_eq_anonymousSubgraph_iff` — which lines begin a subgraph without id and title
-/

namespace FlowchartLayout.Source

/-! ## First words -/

theorem isWordChar_of_isLower_toLower {c : Char} (h : c.toLower.isLower = true) :
    isWordChar c = true := by
  have hascii : ∀ n < 128, (Char.ofNat n).toLower.isLower = true →
      isWordChar (Char.ofNat n) = true := by
    decide +kernel
  refine forall_toLower (p := fun c d => d.isLower = true → isWordChar c = true) hascii ?_ c h
  -- small letters are ASCII characters
  intro c hc hlower
  have hval : c.val ≤ 122 := by simpa using (Bool.and_eq_true_iff.1 hlower).2
  have hle : c.toNat ≤ 122 := UInt32.le_iff_toNat_le.1 hval
  omega

/-- A word of ASCII letters is an identifier. -/
theorem isIdentifier_of_map_toLower {w letters : List Char} (h : w.map Char.toLower = letters)
    (hne : letters ≠ []) (hletters : letters.all Char.isLower = true) : IsIdentifier w where
  ne_nil := by
    rintro rfl
    exact hne h.symm
  isWordChar := by
    intro c hc
    have hlower := List.all_eq_true.1 hletters _ (h ▸ List.mem_map_of_mem hc)
    exact isWordChar_of_isLower_toLower hlower

/-- A line is read by its first word. -/
theorem ofLine_append {w s : List Char} (hw : IsIdentifier w)
    (hs : ∀ c ∈ s.head?, isWordChar c = false) :
    Statement.ofLine (w ++ s) = Statement.ofWord w s := by
  simp only [Statement.ofLine, word_append hw hs, afterWord_append hw hs, isEmpty_of_isIdentifier hw,
    Bool.false_eq_true, if_false]

/-! ## Kinds of statements -/

/-- The line of a node id says something about nodes and links, or nothing. -/
theorem readChain_cases (id s : List Char) :
    readChain id s = .blank ∨ ∃ first hops, readChain id s = .chain first hops := by
  unfold readChain
  simp only
  split
  · split
    · exact .inr ⟨_, _, rfl⟩
    · exact .inl rfl
  · split
    · exact .inr ⟨_, _, rfl⟩
    · split
      all_goals first | exact .inr ⟨_, _, rfl⟩ | exact .inl rfl

theorem readHeading_cases (s : List Char) :
    readHeading s = .anonymousSubgraph ∨ ∃ id title, readHeading s = .subgraph id title := by
  unfold readHeading
  simp only
  split
  · exact .inl rfl
  all_goals exact .inr ⟨_, _, rfl⟩

/-- What a line can say, by its first word. -/
inductive Statement.SaidBy (line : List Char) (s : Statement) : Prop where
  | blank (h : s = .blank)
  | heading (hword : (word line).map Char.toLower = "subgraph".toList)
      (h : s = readHeading (afterWord line))
  | endSubgraph (h : s = .endSubgraph)
  | style (id : String)
      (h : s = .style id (readStyle (afterWord (skipInlineBlanks (afterWord line)))))
  | direction (d : Direction) (h : s = .direction d)
  | chain (hne : word line ≠ []) (h : s = readChain (word line) (afterWord line))

theorem saidBy_ofLine (line : List Char) : (Statement.ofLine line).SaidBy line := by
  by_cases hne : word line = []
  · refine .blank ?_
    rw [Statement.ofLine, hne]
    rfl
  have hline : Statement.ofLine line = Statement.ofWord (word line) (afterWord line) :=
    if_neg fun hempty => hne (List.isEmpty_iff.1 hempty)
  rw [hline]
  unfold Statement.ofWord
  simp only
  split
  case h_1 hword => exact .heading (by rw [← hword, String.toList_ofList]) rfl
  case h_2 => exact .endSubgraph rfl
  case h_3 =>
    split
    · exact .blank rfl
    · exact .style _ rfl
  case h_8 =>
    split
    · exact .direction _ rfl
    · exact .chain hne rfl
  case h_9 => exact .chain hne rfl
  all_goals exact .blank rfl

/-! ## Styles -/

/-- A line with the keyword of styles and an id: what follows the id is the list of properties. -/
theorem ofLine_style {keyword gap id rest : List Char}
    (hkeyword : keyword.map Char.toLower = "style".toList) (hgap : IsGap gap) (hne : gap ≠ [])
    (hid : IsIdentifier id) (hrest : ∀ c ∈ rest.head?, isWordChar c = false) :
    Statement.ofLine (keyword ++ (gap ++ (id ++ rest))) =
      .style (String.ofList id) (readStyle rest) := by
  have hword : IsIdentifier keyword :=
    isIdentifier_of_map_toLower hkeyword (by decide +kernel) (by decide +kernel)
  have hblank : ∀ c ∈ (gap ++ (id ++ rest)).head?, isWordChar c = false := by
    obtain ⟨b, gap', rfl⟩ := List.exists_cons_of_ne_nil hne
    rintro c ⟨⟩
    exact isWordChar_eq_false_of_isInlineBlank (hgap b List.mem_cons_self)
  rw [ofLine_append hword hblank]
  simp only [Statement.ofWord, hkeyword, String.ofList_toList,
    skipInlineBlanks_gap_word hgap (exists_head_of_isIdentifier hid), word_append hid hrest,
    afterWord_append hid hrest, isEmpty_of_isIdentifier hid, Bool.false_eq_true, if_false]

/-! ## Subgraphs without id and title -/

/-- The keyword of subgraphs, in any case, and then neither an id nor a title: what follows the
blanks behind it, if anything does, is no word, no bracket and no quote. -/
def IsAnonymousHeading (line : List Char) : Prop :=
  ∃ keyword gap rest, line = keyword ++ (gap ++ rest) ∧
    keyword.map Char.toLower = "subgraph".toList ∧ IsGap gap ∧
    ∀ c ∈ rest.head?, isInlineBlank c = false ∧ isWordChar c = false ∧ c ≠ '[' ∧ c ≠ '"'

theorem word_eq_nil_iff {s : List Char} : word s = [] ↔ ∀ c ∈ s.head?, isWordChar c = false := by
  constructor
  · intro h c hc
    obtain ⟨rest, rfl⟩ := List.head?_eq_some_iff.1 hc
    rw [← Bool.not_eq_true]
    intro hword
    rw [word, List.takeWhile_cons, if_pos hword] at h
    cases h
  · exact takeWhile_eq_nil

theorem isInlineBlank_of_mem_head? {s : List Char} {c : Char}
    (h : c ∈ (skipInlineBlanks s).head?) : isInlineBlank c = false := by
  have hnot := List.head?_dropWhile_not isInlineBlank s
  rw [skipInlineBlanks] at h
  rw [h] at hnot
  simpa using hnot

theorem readTitle_fst_eq_none_iff {s : List Char} :
    (readTitle s).1 = none ↔ ∀ c ∈ s.head?, c ≠ '[' ∧ c ≠ '"' := by
  cases s with
  | nil => exact iff_of_true rfl (by rintro c ⟨⟩)
  | cons c s =>
    simp only [List.head?_cons, Option.mem_def, Option.some.injEq, forall_eq']
    by_cases hbracket : c = '['
    · subst hbracket
      exact iff_of_false (by simp [readTitle]) (by simp)
    · by_cases hquote : c = '"'
      · subst hquote
        exact iff_of_false (by simp [readTitle, readQuoted?]) (by simp)
      · refine iff_of_true ?_ ⟨hbracket, hquote⟩
        simp [readTitle, readQuoted?, hbracket, hquote]

theorem readHeading_eq_anonymousSubgraph_iff {s : List Char} :
    readHeading s = .anonymousSubgraph ↔
      ∀ c ∈ (skipInlineBlanks s).head?, isWordChar c = false ∧ c ≠ '[' ∧ c ≠ '"' := by
  have hkept : skipInlineBlanks (skipInlineBlanks s) = skipInlineBlanks s :=
    skipInlineBlanks_eq_self fun c hc => isInlineBlank_of_mem_head? hc
  by_cases hid : word (skipInlineBlanks s) = []
  · have hafter : afterWord (skipInlineBlanks s) = skipInlineBlanks s :=
      dropWhile_eq_self (word_eq_nil_iff.1 hid)
    have hheading : readHeading s = .anonymousSubgraph ↔
        (readTitle (skipInlineBlanks s)).1 = none := by
      simp only [readHeading, hid, hafter, hkept]
      split <;> simp_all
    rw [hheading, readTitle_fst_eq_none_iff]
    exact forall₂_congr fun c hc => (and_iff_right (word_eq_nil_iff.1 hid c hc)).symm
  · refine iff_of_false ?_ fun h => hid (word_eq_nil_iff.2 fun c hc => (h c hc).1)
    simp only [readHeading]
    split <;> simp_all

/-- A line begins a subgraph without id and title just if it is such a heading. -/
theorem ofLine_eq_anonymousSubgraph_iff {line : List Char} :
    Statement.ofLine line = .anonymousSubgraph ↔ IsAnonymousHeading line := by
  constructor
  · intro h
    have hheading : (word line).map Char.toLower = "subgraph".toList ∧
        readHeading (afterWord line) = .anonymousSubgraph := by
      cases saidBy_ofLine line with
      | heading hword hread => exact ⟨hword, hread ▸ h⟩
      | chain _ hread =>
        rw [hread] at h
        rcases readChain_cases (word line) (afterWord line) with hchain | ⟨_, _, hchain⟩ <;>
          rw [hchain] at h <;> cases h
      | blank hread => cases hread.symm.trans h
      | endSubgraph hread => cases hread.symm.trans h
      | style _ hread => cases hread.symm.trans h
      | direction _ hread => cases hread.symm.trans h
    refine ⟨word line, (afterWord line).takeWhile isInlineBlank, skipInlineBlanks (afterWord line),
      ?_, hheading.1, fun c hc => List.mem_takeWhile_imp hc, fun c hc => ⟨?_, ?_⟩⟩
    · rw [skipInlineBlanks, List.takeWhile_append_dropWhile, word, afterWord,
        List.takeWhile_append_dropWhile]
    · exact isInlineBlank_of_mem_head? hc
    · exact readHeading_eq_anonymousSubgraph_iff.1 hheading.2 c hc
  · rintro ⟨keyword, gap, rest, rfl, hkeyword, hgap, hrest⟩
    have hword : IsIdentifier keyword :=
      isIdentifier_of_map_toLower hkeyword (by decide +kernel) (by decide +kernel)
    have hends : ∀ c ∈ (gap ++ rest).head?, isWordChar c = false :=
      isWordChar_head?_gap hgap fun c hc => (hrest c hc).2.1
    have hskip : skipInlineBlanks (gap ++ rest) = rest := by
      rw [skipInlineBlanks_gap hgap, skipInlineBlanks_eq_self fun c hc => (hrest c hc).1]
    have hheading : readHeading (gap ++ rest) = .anonymousSubgraph := by
      rw [readHeading_eq_anonymousSubgraph_iff, hskip]
      exact fun c hc => (hrest c hc).2
    rw [ofLine_append hword hends]
    simp only [Statement.ofWord, hkeyword, String.ofList_toList, hheading]

end FlowchartLayout.Source
