import FlowchartLayout.Proofs.Text.Runs
import FlowchartLayout.Source.Lines
import FlowchartLayout.Text.Lines
import Mathlib.Data.List.TakeWhile

/-!
# Lines taken one by one

A source text is read from each line with content to the next, over blanks that may be line feeds
and over comment lines. It might as well be cut at its line feeds first, and each line be looked at
by itself.

## Main definitions

- `lineContent`, `hasContent` — what a single line says, and whether that is anything
- `contents`, `linewise` — what several lines say, and what the lines of a text say
- `IsTrivia` — the blanks and comment lines that may precede a line

## Main statements

- `contentLines_eq_linewise` — the two ways of reading agree
- `exists_isTrivia_append`, `skipTrivia_append` — what is skipped before a line
-/

namespace FlowchartLayout.Source

/-! ## Single lines -/

/-- The text of a line from its first character that is not blank. -/
def lineContent (line : List Char) : List Char :=
  trimStart (dropCarriageReturn line)

/-- The line is neither blank nor a comment. -/
def hasContent (content : List Char) : Bool :=
  !content.isEmpty && !isComment content

/-- What the lines say, blank lines and comments left out. -/
def contents (lines : List (List Char)) : List (List Char) :=
  (lines.map lineContent).filter hasContent

/-- What the lines of a text say. -/
def linewise (s : List Char) : List (List Char) :=
  contents (splitOn '\n' s)

theorem isBlank_newline : isBlank '\n' = true := by decide

theorem isBlank_carriageReturn : isBlank '\r' = true := by decide

theorem dropCarriageReturn_cons {c : Char} (hc : c ≠ '\r') (line : List Char) :
    dropCarriageReturn (c :: line) = c :: dropCarriageReturn line := by
  cases line with
  | nil =>
    have hlast : ¬ [c].getLast? = some '\r' := fun h => hc (Option.some.inj h)
    rw [dropCarriageReturn, if_neg hlast]
    rfl
  | cons d line =>
    simp only [dropCarriageReturn, List.getLast?_cons_cons, List.dropLast_cons_cons]
    split <;> rfl

theorem dropCarriageReturn_isPrefix (line : List Char) : dropCarriageReturn line <+: line := by
  unfold dropCarriageReturn
  split
  · exact List.dropLast_prefix line
  · exact List.prefix_rfl

theorem lineContent_cons_blank {c : Char} (hc : isBlank c = true) (line : List Char) :
    lineContent (c :: line) = lineContent line := by
  by_cases hreturn : c = '\r'
  · subst hreturn
    cases line with
    | nil => rfl
    | cons d line =>
      -- the carriage return is no longer the last character, so it is trimmed as any other blank
      simp only [lineContent, dropCarriageReturn, List.getLast?_cons_cons, List.dropLast_cons_cons]
      split
      · exact trimStart_cons_blank hc _
      · exact trimStart_cons_blank hc _
  · rw [lineContent, dropCarriageReturn_cons hreturn, trimStart_cons_blank hc, lineContent]

theorem lineContent_blanks_append {blanks : List Char} (h : ∀ c ∈ blanks, isBlank c = true)
    (line : List Char) : lineContent (blanks ++ line) = lineContent line := by
  induction blanks with
  | nil => rfl
  | cons c blanks ih =>
    obtain ⟨hc, hblanks⟩ := List.forall_mem_cons.1 h
    rw [List.cons_append, lineContent_cons_blank hc, ih hblanks]

/-- A line that does not start with a blank keeps its start. -/
theorem lineContent_cons {c : Char} (hc : isBlank c = false) (line : List Char) :
    lineContent (c :: line) = c :: dropCarriageReturn line := by
  have hreturn : c ≠ '\r' := by
    rintro rfl
    cases hc.symm.trans isBlank_carriageReturn
  rw [lineContent, dropCarriageReturn_cons hreturn]
  exact List.dropWhile_cons_of_neg (by rw [hc]; exact Bool.false_ne_true)

theorem contents_cons (line : List Char) (lines : List (List Char)) :
    contents (line :: lines) = contents [line] ++ contents lines := by
  rw [contents, List.map_cons, ← List.singleton_append, List.filter_append]
  rfl

theorem contents_append (lines lines' : List (List Char)) :
    contents (lines ++ lines') = contents lines ++ contents lines' := by
  rw [contents, List.map_append, List.filter_append, contents, contents]

theorem contents_singleton_of_not {line : List Char} (h : hasContent (lineContent line) = false) :
    contents [line] = [] :=
  List.filter_cons_of_neg (h ▸ Bool.false_ne_true)

theorem contents_congr {line line' : List Char} (h : lineContent line = lineContent line') :
    contents [line] = contents [line'] := by
  rw [contents, List.map_singleton, h, contents, List.map_singleton]

/-! ## Lines of a text -/

theorem afterLine_newline (s : List Char) : afterLine ('\n' :: s) = s := rfl

theorem afterLine_append {line : List Char} (h : '\n' ∉ line) (s : List Char) :
    afterLine (line ++ s) = afterLine s := by
  have hline : ∀ c ∈ line, (c != '\n') = true := fun c hc =>
    bne_iff_ne.2 fun heq => h (heq ▸ hc)
  rw [afterLine, List.dropWhile_append_of_pos hline, afterLine]

theorem afterLine_cons {c : Char} (hc : c ≠ '\n') (s : List Char) :
    afterLine (c :: s) = afterLine s := by
  rw [← List.singleton_append]
  exact afterLine_append (fun h => hc (List.mem_singleton.1 h).symm) s

theorem afterLine_of_not_mem {s : List Char} (h : '\n' ∉ s) : afterLine s = [] := by
  rw [← List.append_nil s, afterLine_append h]
  rfl

theorem takeWhile_newline_cons {c : Char} (hc : c ≠ '\n') (s : List Char) :
    (c :: s).takeWhile (· != '\n') = c :: s.takeWhile (· != '\n') :=
  List.takeWhile_cons_of_pos (p := (· != '\n')) (bne_iff_ne.2 hc)

/-- A text with a line feed is its first line, the line feed, and the text after it. -/
theorem eq_append_newline {s : List Char} (h : '\n' ∈ s) :
    s = s.takeWhile (· != '\n') ++ '\n' :: afterLine s := by
  induction s with
  | nil => cases h
  | cons c s ih =>
    by_cases hc : c = '\n'
    · subst hc
      rfl
    · have hs : '\n' ∈ s := (List.mem_cons.1 h).resolve_left (Ne.symm hc)
      rw [takeWhile_newline_cons hc, List.cons_append, afterLine_cons hc, ← ih hs]

theorem splitOn_append {sep : Char} {piece : List Char} (h : sep ∉ piece) (s : List Char) :
    splitOn sep (piece ++ sep :: s) = piece :: splitOn sep s := by
  induction piece with
  | nil => exact if_pos rfl
  | cons c piece ih =>
    obtain ⟨hc, hpiece⟩ := List.ne_and_not_mem_of_not_mem_cons h
    rw [List.cons_append, splitOn, if_neg (Ne.symm hc), ih hpiece]

theorem splitOn_of_not_mem {sep : Char} {s : List Char} (h : sep ∉ s) : splitOn sep s = [s] := by
  induction s with
  | nil => rfl
  | cons c s ih =>
    obtain ⟨hc, hs⟩ := List.ne_and_not_mem_of_not_mem_cons h
    rw [splitOn, if_neg (Ne.symm hc), ih hs]

/-- Pieces without a separator in them are what their text is cut into. -/
theorem splitOn_intercalate {sep : Char} {pieces : List (List Char)} (hne : pieces ≠ [])
    (h : ∀ piece ∈ pieces, sep ∉ piece) : splitOn sep ([sep].intercalate pieces) = pieces := by
  induction pieces with
  | nil => exact absurd rfl hne
  | cons piece pieces ih =>
    obtain ⟨hpiece, hpieces⟩ := List.forall_mem_cons.1 h
    cases pieces with
    | nil => rw [List.intercalate_singleton, splitOn_of_not_mem hpiece]
    | cons next pieces =>
      rw [List.intercalate_cons_cons, List.append_assoc, List.singleton_append,
        splitOn_append hpiece, ih (List.cons_ne_nil next pieces) hpieces]

theorem newline_not_mem_takeWhile (s : List Char) : '\n' ∉ s.takeWhile (· != '\n') := by
  intro h
  cases List.mem_takeWhile_imp h

theorem linewise_append {line : List Char} (h : '\n' ∉ line) (s : List Char) :
    linewise (line ++ '\n' :: s) = contents [line] ++ linewise s := by
  rw [linewise, splitOn_append h, contents_cons, linewise]

theorem linewise_of_not_mem {s : List Char} (h : '\n' ∉ s) : linewise s = contents [s] := by
  rw [linewise, splitOn_of_not_mem h]

/-- First comes what the first line says, then what the others say. -/
theorem linewise_eq (s : List Char) :
    linewise s = contents [s.takeWhile (· != '\n')] ++ linewise (afterLine s) := by
  by_cases h : '\n' ∈ s
  · conv => lhs; rw [eq_append_newline h]
    exact linewise_append (newline_not_mem_takeWhile s) _
  · have hall : ∀ c ∈ s, (c != '\n') = true := fun c hc => bne_iff_ne.2 fun heq => h (heq ▸ hc)
    rw [afterLine_of_not_mem h, List.takeWhile_eq_self_iff.2 hall, linewise_of_not_mem h]
    exact (List.append_nil _).symm

theorem linewise_cons_blank {c : Char} (hc : isBlank c = true) (s : List Char) :
    linewise (c :: s) = linewise s := by
  rw [linewise_eq (c :: s)]
  by_cases hnew : c = '\n'
  · subst hnew
    rfl
  · rw [takeWhile_newline_cons hnew, contents_congr (lineContent_cons_blank hc _),
      afterLine_cons hnew, ← linewise_eq]

theorem linewise_trimStart (s : List Char) : linewise (trimStart s) = linewise s := by
  induction s with
  | nil => rfl
  | cons c s ih =>
    by_cases hc : isBlank c = true
    · rw [trimStart_cons_blank hc, ih, linewise_cons_blank hc]
    · rw [trimStart, List.dropWhile_cons_of_neg hc]

theorem isComment_iff {s : List Char} : isComment s = true ↔ ['%', '%'] <+: s :=
  List.isPrefixOf_iff_prefix

theorem isBlank_percent : isBlank '%' = false := by decide

theorem hasContent_comment (line : List Char) :
    hasContent (lineContent ('%' :: '%' :: line)) = false := by
  rw [lineContent_cons isBlank_percent, dropCarriageReturn_cons (by decide)]
  rfl

/-- A comment line at the start has no content. -/
theorem linewise_comment {s : List Char} (h : isComment s = true) :
    linewise s = linewise (afterLine s) := by
  obtain ⟨t, rfl⟩ := isComment_iff.1 h
  rw [linewise_eq]
  show contents ['%' :: '%' :: t.takeWhile (· != '\n')] ++ _ = _
  rw [contents_singleton_of_not (hasContent_comment _), List.nil_append]

/-! ## Blanks and comments before a line -/

theorem linewise_skipTrivia (s : List Char) : linewise (skipTrivia s) = linewise s := by
  fun_induction skipTrivia s with
  | case1 s h ih => rw [ih, ← linewise_comment h, linewise_trimStart]
  | case2 s h => exact linewise_trimStart s

theorem isBlank_of_mem_head?_trimStart {s : List Char} {c : Char} (h : c ∈ (trimStart s).head?) :
    isBlank c = false := by
  induction s with
  | nil => cases h
  | cons d s ih =>
    by_cases hd : isBlank d = true
    · rw [trimStart_cons_blank hd] at h
      exact ih h
    · rw [trimStart, List.dropWhile_cons_of_neg hd] at h
      cases h
      exact Bool.not_eq_true _ ▸ hd

theorem isBlank_of_mem_head?_skipTrivia {s : List Char} {c : Char}
    (h : c ∈ (skipTrivia s).head?) : isBlank c = false := by
  fun_induction skipTrivia s with
  | case1 s _ ih => exact ih h
  | case2 s _ => exact isBlank_of_mem_head?_trimStart h

theorem isComment_skipTrivia (s : List Char) : isComment (skipTrivia s) = false := by
  fun_induction skipTrivia s with
  | case1 s _ ih => exact ih
  | case2 s h => exact Bool.not_eq_true _ ▸ h

/-- A line that starts after blanks and comments has content, which is all of it. -/
theorem lineContent_takeWhile {s : List Char} (hne : s ≠ [])
    (hblank : ∀ c ∈ s.head?, isBlank c = false) (hcomment : isComment s = false) :
    lineContent (s.takeWhile (· != '\n')) = firstLine s ∧ hasContent (firstLine s) = true := by
  obtain ⟨c, t, rfl⟩ := List.exists_cons_of_ne_nil hne
  have hc : isBlank c = false := hblank c rfl
  have hnew : c ≠ '\n' := by
    rintro rfl
    cases hc.symm.trans isBlank_newline
  have hreturn : c ≠ '\r' := by
    rintro rfl
    cases hc.symm.trans isBlank_carriageReturn
  have hfirst : firstLine (c :: t) = c :: dropCarriageReturn (t.takeWhile (· != '\n')) := by
    rw [firstLine, takeWhile_newline_cons hnew, dropCarriageReturn_cons hreturn]
  refine ⟨by rw [takeWhile_newline_cons hnew, lineContent_cons hc, hfirst], ?_⟩
  have hprefix : firstLine (c :: t) <+: c :: t :=
    (dropCarriageReturn_isPrefix _).trans (List.takeWhile_prefix _)
  have hnot : isComment (firstLine (c :: t)) = false := by
    rw [← Bool.not_eq_true, isComment_iff]
    intro h
    rw [isComment_iff.2 (h.trans hprefix)] at hcomment
    cases hcomment
  rw [hasContent, hnot, hfirst]
  rfl

/-- Going from line to line with content finds the contents of all lines. -/
theorem contentLines_eq_linewise (s : List Char) : contentLines s = linewise s := by
  fun_induction contentLines s with
  | case1 s h =>
    rw [← linewise_skipTrivia, h]
    rfl
  | case2 s h ih =>
    obtain ⟨hcontent, hhas⟩ := lineContent_takeWhile h
      (fun _ hc => isBlank_of_mem_head?_skipTrivia hc) (isComment_skipTrivia s)
    rw [ih, ← linewise_skipTrivia s, linewise_eq (skipTrivia s), contents, List.map_singleton,
      hcontent, List.filter_cons_of_pos hhas]
    rfl

/-! ## The grammar of what is skipped -/

/-- Blanks and comment lines with their line feeds. -/
inductive IsTrivia : List Char → Prop where
  | nil : IsTrivia []
  | blank {c : Char} {s : List Char} (hc : isBlank c = true) (hs : IsTrivia s) : IsTrivia (c :: s)
  | comment {line s : List Char} (hline : '\n' ∉ line) (hs : IsTrivia s) :
      IsTrivia ('%' :: '%' :: (line ++ '\n' :: s))

theorem skipTrivia_nil : skipTrivia [] = [] := by
  rw [skipTrivia]
  rfl

theorem skipTrivia_cons_blank {c : Char} (hc : isBlank c = true) (s : List Char) :
    skipTrivia (c :: s) = skipTrivia s := by
  rw [skipTrivia, trimStart_cons_blank hc, ← skipTrivia]

theorem skipTrivia_comment {s : List Char} (h : isComment s = true) :
    skipTrivia s = skipTrivia (afterLine s) := by
  have hhead : ∀ c ∈ s.head?, isBlank c = false := by
    obtain ⟨t, rfl⟩ := isComment_iff.1 h
    rintro c ⟨⟩
    exact isBlank_percent
  rw [skipTrivia, trimStart_of_head? hhead, if_pos h]

/-- Trivia are skipped up to a text that does not continue them. -/
theorem skipTrivia_append {t s : List Char} (ht : IsTrivia t)
    (hblank : ∀ c ∈ s.head?, isBlank c = false) (hcomment : isComment s = false) :
    skipTrivia (t ++ s) = s := by
  induction ht with
  | nil =>
    rw [List.nil_append, skipTrivia, trimStart_of_head? hblank, hcomment,
      if_neg Bool.false_ne_true]
  | blank hc _ ih => rw [List.cons_append, skipTrivia_cons_blank hc, ih]
  | @comment line t hline _ ih =>
    have htext : '%' :: '%' :: (line ++ '\n' :: t) ++ s =
        ('%' :: '%' :: line) ++ '\n' :: (t ++ s) := by
      simp only [List.cons_append, List.append_assoc]
    have hmem : '\n' ∉ '%' :: '%' :: line := by
      simpa using hline
    rw [htext, skipTrivia_comment rfl, afterLine_append hmem, afterLine_newline, ih]

theorem IsTrivia.append_blanks {t s : List Char} (ht : IsTrivia t)
    (hs : ∀ c ∈ s, isBlank c = true) : IsTrivia (s ++ t) := by
  induction s with
  | nil => exact ht
  | cons c s ih =>
    obtain ⟨hc, hs⟩ := List.forall_mem_cons.1 hs
    exact .blank hc (ih hs)

/-- What is skipped are trivia, unless the text ends with them. -/
theorem exists_isTrivia_append {s : List Char} (h : skipTrivia s ≠ []) :
    ∃ t, IsTrivia t ∧ s = t ++ skipTrivia s := by
  -- the blanks at the start of a text
  have hblanks (s : List Char) : ∃ b, (∀ c ∈ b, isBlank c = true) ∧ s = b ++ trimStart s :=
    ⟨s.takeWhile isBlank, fun _ hc => List.mem_takeWhile_imp hc,
      List.takeWhile_append_dropWhile.symm⟩
  fun_induction skipTrivia s with
  | case1 s hcomment ih =>
    obtain ⟨b, hb, hs⟩ := hblanks s
    obtain ⟨t, ht, hrest⟩ := ih h
    obtain ⟨u, hu⟩ := isComment_iff.1 hcomment
    have hafter : afterLine (trimStart s) = afterLine u := by
      rw [← hu]
      exact afterLine_append (by decide) u
    rw [hafter] at h hrest ⊢
    have hmem : '\n' ∈ u := by
      by_contra hnot
      rw [afterLine_of_not_mem hnot, skipTrivia_nil] at h
      exact h rfl
    refine ⟨b ++ '%' :: '%' :: (u.takeWhile (· != '\n') ++ '\n' :: t), ?_, ?_⟩
    · exact (IsTrivia.comment (newline_not_mem_takeWhile u) ht).append_blanks hb
    · calc s = b ++ (['%', '%'] ++ u) := by rw [hu, ← hs]
        _ = b ++ (['%', '%'] ++ (u.takeWhile (· != '\n') ++
            '\n' :: (t ++ skipTrivia (afterLine u)))) := by rw [← hrest, ← eq_append_newline hmem]
        _ = _ := by simp only [List.append_assoc, List.cons_append, List.nil_append]
  | case2 s hcomment =>
    obtain ⟨b, hb, hs⟩ := hblanks s
    refine ⟨b, ?_, hs⟩
    rw [← List.append_nil b]
    exact IsTrivia.nil.append_blanks hb

end FlowchartLayout.Source
