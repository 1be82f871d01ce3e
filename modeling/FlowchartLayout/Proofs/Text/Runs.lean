import FlowchartLayout.Text.Blank
import FlowchartLayout.Text.Start
import FlowchartLayout.Text.Word

/-!
# Runs of characters

A text that is put together from runs is taken apart at the same places: what is read up to the
first other character ends where the run ended.

## Main definitions

- `IsGap` — a text of inline blanks
- `IsIdentifier` — a text of word characters, and not empty

## Main statements

- `takeWhile_run`, `dropWhile_run` — a run, and what follows it
- `trim_skipInlineBlanks`, `trim_append_blank` — blanks that trimming removes
-/

namespace FlowchartLayout

section Run

variable {p : Char → Bool} {run s : List Char}

theorem takeWhile_eq_nil (h : ∀ c ∈ s.head?, p c = false) : s.takeWhile p = [] := by
  cases s with
  | nil => rfl
  | cons c s => rw [List.takeWhile_cons, h c rfl, if_neg Bool.false_ne_true]

theorem dropWhile_eq_self (h : ∀ c ∈ s.head?, p c = false) : s.dropWhile p = s := by
  cases s with
  | nil => rfl
  | cons c s => rw [List.dropWhile_cons, h c rfl, if_neg Bool.false_ne_true]

/-- A run is taken as a whole, if no further character belongs to it. -/
theorem takeWhile_run (hrun : ∀ c ∈ run, p c = true) (h : ∀ c ∈ s.head?, p c = false) :
    (run ++ s).takeWhile p = run := by
  rw [List.takeWhile_append_of_pos hrun, takeWhile_eq_nil h, List.append_nil]

theorem dropWhile_run (hrun : ∀ c ∈ run, p c = true) (h : ∀ c ∈ s.head?, p c = false) :
    (run ++ s).dropWhile p = s := by
  rw [List.dropWhile_append_of_pos hrun, dropWhile_eq_self h]

end Run

/-! ## Fixed characters -/

theorem afterStart?_append (start s : List Char) : afterStart? start (start ++ s) = some s := by
  induction start with
  | nil => cases s <;> rfl
  | cons c start ih => rw [List.cons_append, afterStart?, if_pos rfl, ih]

theorem dropStart_append (start s : List Char) : dropStart start (start ++ s) = s := by
  rw [dropStart, afterStart?_append, Option.getD_some]

theorem afterStart?_eq_none_of_head? {c : Char} {cs s : List Char} (h : s.head? ≠ some c) :
    afterStart? (c :: cs) s = none := by
  cases s with
  | nil => rfl
  | cons d s =>
    rw [afterStart?, if_neg]
    rintro rfl
    exact h rfl

/-- No more is dropped than the fixed characters. -/
theorem length_le_dropStart (start s : List Char) :
    s.length ≤ (dropStart start s).length + start.length := by
  unfold dropStart
  cases h : afterStart? start s with
  | none => exact Nat.le_add_right _ _
  | some rest => exact Nat.le_of_eq (length_of_afterStart? h).symm

/-! ## Blanks -/

/-- The text consists of inline blanks. -/
def IsGap (g : List Char) : Prop :=
  ∀ c ∈ g, isInlineBlank c = true

theorem isGap_nil : IsGap [] :=
  List.forall_mem_nil _

theorem isGap_space : IsGap [' '] :=
  List.forall_mem_singleton.2 rfl

theorem isBlank_of_isInlineBlank {c : Char} (h : isInlineBlank c = true) : isBlank c = true := by
  rw [isInlineBlank, Bool.or_eq_true, beq_iff_eq, beq_iff_eq] at h
  rcases h with rfl | rfl
  · decide
  · decide

theorem skipInlineBlanks_gap {g : List Char} (hg : IsGap g) (s : List Char) :
    skipInlineBlanks (g ++ s) = skipInlineBlanks s :=
  List.dropWhile_append_of_pos hg

theorem skipInlineBlanks_eq_self {s : List Char} (h : ∀ c ∈ s.head?, isInlineBlank c = false) :
    skipInlineBlanks s = s :=
  dropWhile_eq_self h

/-! ## Trimmed texts -/

theorem trimStart_cons_blank {c : Char} (hc : isBlank c = true) (s : List Char) :
    trimStart (c :: s) = trimStart s :=
  List.dropWhile_cons_of_pos hc

theorem trimStart_of_head? {s : List Char} (h : ∀ c ∈ s.head?, isBlank c = false) :
    trimStart s = s :=
  dropWhile_eq_self h

theorem trimEnd_cons {c : Char} (hc : isBlank c = false) (s : List Char) :
    trimEnd (c :: s) = c :: trimEnd s := by
  rw [trimEnd, List.reverse_cons, List.dropWhile_append]
  split
  · next hempty =>
    rw [trimEnd, List.isEmpty_iff.1 hempty, List.dropWhile_cons, hc, if_neg Bool.false_ne_true]
    rfl
  · rw [List.reverse_append, trimEnd]
    rfl

theorem trim_cons {c : Char} (hc : isBlank c = false) (s : List Char) :
    trim (c :: s) = c :: trimEnd s := by
  rw [trim, trimStart_of_head? (by rintro d ⟨⟩; exact hc), trimEnd_cons hc]

theorem trim_cons_blank {c : Char} (hc : isBlank c = true) (s : List Char) :
    trim (c :: s) = trim s := by
  rw [trim, trimStart_cons_blank hc, trim]

theorem trimEnd_isPrefix (s : List Char) : trimEnd s <+: s := by
  rw [trimEnd, ← List.reverse_suffix, List.reverse_reverse]
  exact List.dropWhile_suffix _

theorem trim_skipInlineBlanks (s : List Char) : trim (skipInlineBlanks s) = trim s := by
  have hstart : trimStart (skipInlineBlanks s) = trimStart s := by
    induction s with
    | nil => rfl
    | cons c s ih =>
      by_cases hc : isInlineBlank c = true
      · rw [skipInlineBlanks, List.dropWhile_cons, if_pos hc,
          trimStart_cons_blank (isBlank_of_isInlineBlank hc)]
        exact ih
      · rw [skipInlineBlanks, List.dropWhile_cons, if_neg hc]
  rw [trim, hstart, trim]

theorem trim_append_blank {b : Char} (hb : isBlank b = true) (s : List Char) :
    trim (s ++ [b]) = trim s := by
  have hend (t : List Char) : trimEnd (t ++ [b]) = trimEnd t := by
    rw [trimEnd, List.reverse_append, List.reverse_singleton, List.singleton_append,
      List.dropWhile_cons, if_pos hb, trimEnd]
  unfold trim trimStart
  rw [List.dropWhile_append]
  split
  · next hempty =>
    -- there are only blanks, which are all at the start
    rw [List.isEmpty_iff.1 hempty, List.dropWhile_cons, if_pos hb, List.dropWhile_nil]
  · exact hend _

/-! ## Identifiers -/

/-- The text consists of word characters and is not empty. -/
structure IsIdentifier (w : List Char) : Prop where
  ne_nil : w ≠ []
  isWordChar : ∀ c ∈ w, isWordChar c = true

theorem isIdentifier_singleton {c : Char} (h : isWordChar c = true) : IsIdentifier [c] where
  ne_nil := List.cons_ne_nil c []
  isWordChar := List.forall_mem_singleton.2 h

/-- The characters that may follow an identifier on a line end it. -/
theorem isWordChar_eq_false_of_mem {c : Char}
    (h : c ∈ [' ', '\t', '[', '(', '{', '>', '-', '=', '<', '&', '|']) : isWordChar c = false := by
  simp only [List.mem_cons, List.not_mem_nil, or_false] at h
  rcases h with rfl | rfl | rfl | rfl | rfl | rfl | rfl | rfl | rfl | rfl | rfl
  all_goals decide +kernel

theorem isWordChar_eq_false_of_isInlineBlank {c : Char} (h : isInlineBlank c = true) :
    isWordChar c = false := by
  rw [isInlineBlank, Bool.or_eq_true, beq_iff_eq, beq_iff_eq] at h
  rcases h with rfl | rfl
  · exact isWordChar_eq_false_of_mem (by decide)
  · exact isWordChar_eq_false_of_mem (by decide)

/-- What ends a word also ends it behind a gap. -/
theorem isWordChar_head?_gap {g s : List Char} (hg : IsGap g)
    (hs : ∀ c ∈ s.head?, isWordChar c = false) : ∀ c ∈ (g ++ s).head?, isWordChar c = false := by
  cases g with
  | nil => exact hs
  | cons b g =>
    rintro c ⟨⟩
    exact isWordChar_eq_false_of_isInlineBlank (hg b List.mem_cons_self)

/-- In front of a word, a gap is skipped and no more. -/
theorem skipInlineBlanks_gap_word {g text : List Char} (hg : IsGap g)
    (h : ∃ c rest, text = c :: rest ∧ isWordChar c = true) (s : List Char) :
    skipInlineBlanks (g ++ (text ++ s)) = text ++ s := by
  obtain ⟨c, rest, rfl, hc⟩ := h
  rw [skipInlineBlanks_gap hg]
  refine skipInlineBlanks_eq_self ?_
  rintro d ⟨⟩
  rw [← Bool.not_eq_true]
  intro hblank
  rw [isWordChar_eq_false_of_isInlineBlank hblank] at hc
  cases hc

theorem exists_head_of_isIdentifier {w : List Char} (hw : IsIdentifier w) :
    ∃ c rest, w = c :: rest ∧ isWordChar c = true := by
  obtain ⟨c, rest, rfl⟩ := List.exists_cons_of_ne_nil hw.ne_nil
  exact ⟨c, rest, rfl, hw.isWordChar c List.mem_cons_self⟩

theorem isEmpty_of_isIdentifier {w : List Char} (hw : IsIdentifier w) :
    w.isEmpty = false := by
  rw [← Bool.not_eq_true, List.isEmpty_iff]
  exact hw.ne_nil

theorem word_append {w s : List Char} (hw : IsIdentifier w)
    (hs : ∀ c ∈ s.head?, isWordChar c = false) : word (w ++ s) = w :=
  takeWhile_run hw.isWordChar hs

theorem afterWord_append {w s : List Char} (hw : IsIdentifier w)
    (hs : ∀ c ∈ s.head?, isWordChar c = false) : afterWord (w ++ s) = s :=
  dropWhile_run hw.isWordChar hs

end FlowchartLayout
