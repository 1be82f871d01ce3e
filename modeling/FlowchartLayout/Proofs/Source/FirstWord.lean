import FlowchartLayout.Error
import FlowchartLayout.Layout.Source
import FlowchartLayout.Proofs.Source.Lines

/-!
# The word that a rejected text is named by

A text without a header is reported by its first word. The word is looked for line by line, among
trimmed lines; it is the word at the place where the header was expected.

## Main definitions

- `IsFirstWord` — the longest beginning of a text without a blank

## Main statements

- `firstWord?_eq` — the first word stands behind the blanks and comment lines
- `message_ofSource` — what a rejected text is told
-/

namespace FlowchartLayout.Source

/-- The longest beginning of a text that has no blank. -/
structure IsFirstWord (w s : List Char) : Prop where
  isPrefix : w <+: s
  isBlank_eq_false : ∀ c ∈ w, isBlank c = false
  longest : ∀ v, v <+: s → (∀ c ∈ v, isBlank c = false) → v <+: w

/-! ## Trimmed lines -/

/-- The first word of a line ends before the blanks that trimming removes. -/
theorem takeWhile_trimEnd (s : List Char) :
    (trimEnd s).takeWhile (fun c => !isBlank c) = s.takeWhile fun c => !isBlank c := by
  induction s with
  | nil => rfl
  | cons c s ih =>
    cases hc : isBlank c with
    | false =>
      rw [trimEnd_cons hc, List.takeWhile_cons_of_pos (by simp [hc]),
        List.takeWhile_cons_of_pos (by simp [hc]), ih]
    | true =>
      have hstop : ∀ d ∈ (trimEnd (c :: s)).head?, (!isBlank d) = false := by
        intro d hd
        obtain ⟨t, ht⟩ := trimEnd_isPrefix (c :: s)
        have hhead : (c :: s).head? = some d := by
          rw [← ht, List.head?_append, Option.mem_def.1 hd]
          rfl
        rw [← Option.some.inj hhead, hc]
        rfl
      rw [takeWhile_eq_nil hstop, takeWhile_eq_nil]
      rintro d ⟨⟩
      rw [hc]
      rfl

/-! ## The first word line by line -/

theorem firstWord?_newline (s : List Char) : firstWord? ('\n' :: s) = firstWord? s := rfl

theorem splitOn_cons {c : Char} (hc : c ≠ '\n') (s : List Char) :
    ∃ piece pieces, splitOn '\n' s = piece :: pieces ∧
      splitOn '\n' (c :: s) = (c :: piece) :: pieces := by
  obtain ⟨piece, pieces, h⟩ := List.exists_cons_of_ne_nil (splitOn_ne_nil '\n' s)
  exact ⟨piece, pieces, h, by rw [splitOn, if_neg hc, h]⟩

theorem firstWord?_cons_blank {c : Char} (hc : isBlank c = true) (s : List Char) :
    firstWord? (c :: s) = firstWord? s := by
  by_cases hnew : c = '\n'
  · rw [hnew, firstWord?_newline]
  · obtain ⟨piece, pieces, hs, hcs⟩ := splitOn_cons hnew s
    rw [firstWord?, firstWord?, hs, hcs, List.map_cons, List.map_cons, trim_cons_blank hc]

theorem firstWord?_trimStart (s : List Char) : firstWord? (trimStart s) = firstWord? s := by
  induction s with
  | nil => rfl
  | cons c s ih =>
    by_cases hc : isBlank c = true
    · rw [trimStart_cons_blank hc, ih, firstWord?_cons_blank hc]
    · rw [trimStart, List.dropWhile_cons_of_neg hc]

/-- The first word is looked for on the first line, and then behind it. -/
theorem firstWord?_eq_of_line (s : List Char) :
    firstWord? s =
      if hasContent (trim (s.takeWhile (· != '\n'))) = true then
        some ((trim (s.takeWhile (· != '\n'))).takeWhile fun c => !isBlank c)
      else firstWord? (afterLine s) := by
  have hlines (line : List Char) (lines : List (List Char)) :
      ((line :: lines).map trim).find? hasContent =
        if hasContent (trim line) = true then some (trim line)
        else (lines.map trim).find? hasContent := by
    rw [List.map_cons, List.find?_cons]
    cases hasContent (trim line) <;> rfl
  show (((splitOn '\n' s).map trim).find? hasContent).map _ = _
  by_cases h : '\n' ∈ s
  · have hsplit : splitOn '\n' s = s.takeWhile (· != '\n') :: splitOn '\n' (afterLine s) := by
      conv => lhs; rw [eq_append_newline h]
      exact splitOn_append (newline_not_mem_takeWhile s) _
    rw [hsplit, hlines]
    split <;> rfl
  · have hall : ∀ c ∈ s, (c != '\n') = true := fun c hc => bne_iff_ne.2 fun heq => h (heq ▸ hc)
    rw [splitOn_of_not_mem h, hlines, afterLine_of_not_mem h, List.takeWhile_eq_self_iff.2 hall]
    split <;> rfl

/-- A comment line has no first word. -/
theorem firstWord?_comment {s : List Char} (h : isComment s = true) :
    firstWord? s = firstWord? (afterLine s) := by
  obtain ⟨t, rfl⟩ := isComment_iff.1 h
  have hline : trim ((['%', '%'] ++ t).takeWhile (· != '\n')) =
      '%' :: '%' :: trimEnd (t.takeWhile (· != '\n')) := by
    show trim ('%' :: '%' :: t.takeWhile (· != '\n')) = _
    rw [trim_cons isBlank_percent, trimEnd_cons isBlank_percent]
  rw [firstWord?_eq_of_line, hline]
  exact if_neg Bool.false_ne_true

/-- On a line with content, the first word is at its start. -/
theorem firstWord?_cons {c : Char} {s : List Char} (hc : isBlank c = false)
    (h : isComment (c :: s) = false) :
    firstWord? (c :: s) = some ((c :: s).takeWhile fun c => !isBlank c) := by
  have hnew : c ≠ '\n' := by
    rintro rfl
    cases hc.symm.trans isBlank_newline
  have hline : trim ((c :: s).takeWhile (· != '\n')) =
      c :: trimEnd (s.takeWhile (· != '\n')) := by
    rw [takeWhile_newline_cons hnew, trim_cons hc]
  have hcontent : hasContent (c :: trimEnd (s.takeWhile (· != '\n'))) = true := by
    have hprefix : c :: trimEnd (s.takeWhile (· != '\n')) <+: c :: s :=
      List.cons_prefix_cons.2 ⟨rfl, (trimEnd_isPrefix _).trans (List.takeWhile_prefix _)⟩
    have hnot : isComment (c :: trimEnd (s.takeWhile (· != '\n'))) = false := by
      rw [← Bool.not_eq_true, isComment_iff]
      intro hcomment
      rw [isComment_iff.2 (hcomment.trans hprefix)] at h
      cases h
    rw [hasContent, hnot]
    rfl
  -- the line feed is a blank itself
  have hrest : (s.takeWhile (· != '\n')).takeWhile (fun c => !isBlank c) =
      s.takeWhile fun c => !isBlank c := by
    rw [List.takeWhile_takeWhile]
    congr 1
    funext d
    by_cases hd : d = '\n'
    · subst hd
      rfl
    · simp [hd]
  have hpos : (!isBlank c) = true := by rw [hc]; rfl
  rw [firstWord?_eq_of_line, hline, if_pos hcontent,
    List.takeWhile_cons_of_pos (p := fun c => !isBlank c) hpos, takeWhile_trimEnd, hrest,
    List.takeWhile_cons_of_pos (p := fun c => !isBlank c) hpos]

/-- The first word stands behind the blanks and comment lines. -/
theorem firstWord?_eq (s : List Char) :
    firstWord? s =
      if skipTrivia s = [] then none else some ((skipTrivia s).takeWhile fun c => !isBlank c) := by
  fun_induction skipTrivia s with
  | case1 s h ih => rw [← firstWord?_trimStart, firstWord?_comment h, ih]
  | case2 s h =>
    rw [← firstWord?_trimStart]
    cases hs : trimStart s with
    | nil => rfl
    | cons c t =>
      have hc : isBlank c = false := isBlank_of_mem_head?_trimStart (s := s) (by rw [hs]; rfl)
      rw [hs, Bool.not_eq_true] at h
      rw [firstWord?_cons hc h, if_neg (List.cons_ne_nil c t)]

theorem isFirstWord_takeWhile (s : List Char) :
    IsFirstWord (s.takeWhile fun c => !isBlank c) s where
  isPrefix := List.takeWhile_prefix _
  isBlank_eq_false := by
    intro c hc
    simpa using List.mem_takeWhile_imp hc
  longest := by
    rintro v ⟨rest, rfl⟩ hv
    rw [List.takeWhile_append_of_pos (by simpa using hv)]
    exact List.prefix_append _ _

theorem IsFirstWord.eq_takeWhile {w s : List Char} (h : IsFirstWord w s) :
    w = s.takeWhile fun c => !isBlank c := by
  have hrun := isFirstWord_takeWhile s
  have hle := hrun.longest w h.isPrefix h.isBlank_eq_false
  exact hle.eq_of_length_le (h.longest _ hrun.isPrefix hrun.isBlank_eq_false).length_le

/-- The text behind blanks and comment lines starts with a word, if it is not empty. -/
theorem takeWhile_skipTrivia_eq_nil_iff (s : List Char) :
    ((skipTrivia s).takeWhile fun c => !isBlank c) = [] ↔ skipTrivia s = [] := by
  constructor
  · intro h
    cases hs : skipTrivia s with
    | nil => rfl
    | cons c t =>
      have hc : isBlank c = false := isBlank_of_mem_head?_skipTrivia (s := s) (by rw [hs]; rfl)
      rw [hs, List.takeWhile_cons_of_pos (by simp [hc])] at h
      cases h
  · intro h
    rw [h]
    rfl

/-- The error of a text names the longest run without blanks at the place where the header is
expected, or says that nothing is there. It is the error with which a text without a header is
rejected. -/
theorem message_ofSource (source : String) :
    ∃ w, IsFirstWord w (skipTrivia source.toList) ∧
      (w = [] ↔ skipTrivia source.toList = []) ∧
      Error.ofSource source =
        .notAFlowchart (if skipTrivia source.toList = [] then none else some (String.ofList w)) ∧
      (Error.ofSource source).message = "unknown diagram type: " ++
        (if skipTrivia source.toList = [] then "(empty)" else String.ofList w) ∧
      (Flowchart.ofSource? source = none → ∀ width height spacing,
        layoutSource source width height spacing = .error (.ofSource source)) := by
  have herror : Error.ofSource source = .notAFlowchart (if skipTrivia source.toList = [] then none
      else some (String.ofList ((skipTrivia source.toList).takeWhile fun c => !isBlank c))) := by
    rw [Error.ofSource, firstWord?_eq]
    split <;> rfl
  refine ⟨_, isFirstWord_takeWhile _, takeWhile_skipTrivia_eq_nil_iff _, herror, ?_, ?_⟩
  · rw [herror]
    split <;> rfl
  · intro h width height spacing
    rw [layoutSource, h]

/-- A text of another kind behind a comment and an indentation. -/
theorem message_ofSource_indentedWord :
    Flowchart.ofSource? "%% note\r\n\u2003classDiagram\u2003TB" = none ∧
      layoutSource "%% note\r\n\u2003classDiagram\u2003TB" 800 600 =
        .error (.ofSource "%% note\r\n\u2003classDiagram\u2003TB") ∧
      (Error.ofSource "%% note\r\n\u2003classDiagram\u2003TB").message =
        "unknown diagram type: classDiagram" := by
  have hnone : Flowchart.ofSource? "%% note\r\n\u2003classDiagram\u2003TB" = none := by
    have hread : readHeader? "%% note\r\n\u2003classDiagram\u2003TB".toList = none := by
      decide +kernel
    rw [Flowchart.ofSource?, hread]
    rfl
  have hskip : skipTrivia "%% note\r\n\u2003classDiagram\u2003TB".toList =
      "classDiagram\u2003TB".toList := by decide +kernel
  obtain ⟨w, hw, -, -, hmessage, hrejected⟩ :=
    message_ofSource "%% note\r\n\u2003classDiagram\u2003TB"
  refine ⟨hnone, hrejected hnone 800 600 {}, ?_⟩
  rw [hskip] at hw hmessage
  rw [hmessage, hw.eq_takeWhile]
  decide +kernel

end FlowchartLayout.Source
