import FlowchartLayout.Proofs.Source.Linewise

/-!
# Sources with a header

Whether a text is the source of a flowchart is seen from its header line alone: the header word must
be there, and no carriage return may stand within the line.

## Main definitions

- `ReturnsEndLine` — the first line of a text has no carriage return but at its end

## Main statements

- `isSome_readHeader?_iff` — when a header is read
- `isSome_ofSource?_iff` — when a text is the source of a flowchart, and that only the text up to
  the end of the header line matters
-/

namespace FlowchartLayout.Source

/-- On the first line of the text, a carriage return stands nowhere but right before the line
feed. -/
def ReturnsEndLine (s : List Char) : Prop :=
  ∀ before after, s = before ++ '\r' :: after → '\n' ∉ before → after.head? = some '\n'

/-! ## Carriage returns on the first line -/

theorem returnsEndLine_nil : ReturnsEndLine [] := by
  intro before after h
  cases before <;> cases h

theorem returnsEndLine_newline (s : List Char) : ReturnsEndLine ('\n' :: s) := by
  intro before after h hbefore
  cases before with
  | nil => cases h
  | cons c before =>
    cases h
    exact absurd List.mem_cons_self hbefore

theorem returnsEndLine_return {s : List Char} :
    ReturnsEndLine ('\r' :: s) ↔ s.head? = some '\n' := by
  constructor
  · intro h
    exact h [] s rfl List.not_mem_nil
  · intro hs before after h hbefore
    cases before with
    | nil =>
      cases h
      exact hs
    | cons c before =>
      -- the line feed is among the characters before the second carriage return
      cases h
      cases before with
      | nil => cases hs
      | cons d before =>
        cases hs
        exact absurd (List.mem_cons_of_mem _ List.mem_cons_self) hbefore

theorem returnsEndLine_cons {c : Char} (hc : endsHeader c = false) {s : List Char} :
    ReturnsEndLine (c :: s) ↔ ReturnsEndLine s := by
  constructor
  · intro h before after hs hbefore
    refine h (c :: before) after (by rw [hs, List.cons_append]) ?_
    rw [List.mem_cons, not_or]
    refine ⟨?_, hbefore⟩
    rintro rfl
    cases hc
  · intro h before after hs hbefore
    cases before with
    | nil =>
      cases hs
      cases hc
    | cons d before =>
      cases hs
      exact h before after rfl fun hmem => hbefore (List.mem_cons_of_mem _ hmem)

/-- The rest of a header line is read if it has no carriage return within. -/
theorem isSome_restOfHeader?_iff (s : List Char) :
    (restOfHeader? s).isSome = true ↔ ReturnsEndLine s := by
  induction s with
  | nil => exact iff_of_true rfl returnsEndLine_nil
  | cons c s ih =>
    by_cases hc : endsHeader c = true
    · rw [endsHeader, Bool.or_eq_true, beq_iff_eq, beq_iff_eq] at hc
      rcases hc with rfl | rfl
      · rw [returnsEndLine_return]
        cases s with
        | nil => exact iff_of_false Bool.false_ne_true fun h => by cases h
        | cons d s =>
          by_cases hd : d = '\n'
          · subst hd
            exact iff_of_true rfl rfl
          · refine iff_of_false ?_ fun h => hd (Option.some.inj h)
            simp [restOfHeader?, hd]
      · exact iff_of_true rfl (returnsEndLine_newline s)
    · rw [Bool.not_eq_true] at hc
      have hline : ∀ d ∈ [c], endsHeader d = false := List.forall_mem_singleton.2 hc
      have hrest : restOfHeader? (c :: s) = restOfHeader? s := restOfHeader?_append hline
      rw [hrest, returnsEndLine_cons hc, ih]

/-- What follows the first line feed does not matter. -/
theorem returnsEndLine_append_newline (line body body' : List Char) (hline : '\n' ∉ line) :
    ReturnsEndLine (line ++ '\n' :: body) ↔ ReturnsEndLine (line ++ '\n' :: body') := by
  induction line with
  | nil => exact iff_of_true (returnsEndLine_newline body) (returnsEndLine_newline body')
  | cons c line ih =>
    obtain ⟨hnew, hline⟩ := List.ne_and_not_mem_of_not_mem_cons hline
    by_cases hreturn : c = '\r'
    · subst hreturn
      rw [List.cons_append, List.cons_append, returnsEndLine_return, returnsEndLine_return]
      cases line <;> rfl
    · have hc : endsHeader c = false := by
        rw [endsHeader, Bool.or_eq_false_iff, beq_eq_false_iff_ne, beq_eq_false_iff_ne]
        exact ⟨hreturn, Ne.symm hnew⟩
      rw [List.cons_append, List.cons_append, returnsEndLine_cons hc, returnsEndLine_cons hc,
        ih hline]

/-! ## Reading the header -/

/-- Words and blanks at the start of a line are no matter for its end. -/
theorem restOfHeader?_dropWhile {p : Char → Bool}
    (hp : ∀ c, endsHeader c = true → p c = false) (s : List Char) :
    restOfHeader? (s.dropWhile p) = restOfHeader? s := by
  have hrun : ∀ c ∈ s.takeWhile p, endsHeader c = false := by
    intro c hc
    have hpc : p c = true := List.mem_takeWhile_imp hc
    rw [← Bool.not_eq_true]
    intro h
    rw [hp c h] at hpc
    cases hpc
  calc restOfHeader? (s.dropWhile p) = restOfHeader? (s.takeWhile p ++ s.dropWhile p) :=
        (restOfHeader?_append hrun).symm
    _ = restOfHeader? s := by rw [List.takeWhile_append_dropWhile]

/-- A header is read if its word is there and its line has no carriage return within. -/
theorem isSome_readHeader?_iff (s : List Char) :
    (readHeader? s).isSome = true ↔
      startsFlowchart s = true ∧ ReturnsEndLine (skipTrivia s) := by
  have hword (s : List Char) : restOfHeader? (afterWord s) = restOfHeader? s :=
    restOfHeader?_dropWhile (fun _ => isWordChar_eq_false_of_endsHeader) s
  have hblanks (s : List Char) : restOfHeader? (skipInlineBlanks s) = restOfHeader? s :=
    restOfHeader?_dropWhile (fun _ => isInlineBlank_eq_false_of_endsHeader) s
  rw [← isSome_restOfHeader?_iff, startsFlowchart]
  simp only [readHeader?, hword, hblanks]
  by_cases h : isHeaderWord (word (skipTrivia s)) = true
  · rw [if_pos h]
    cases Direction.ofKeyword? (word (skipInlineBlanks (afterWord (skipTrivia s)))) <;> simp [h]
  · rw [if_neg h]
    simp [h]

/-- The header line is found behind the same trivia, whatever lines follow it. -/
theorem skipTrivia_append_newline {before line body : List Char}
    (h : skipTrivia (before ++ (line ++ '\n' :: body)) = line ++ '\n' :: body) (body' : List Char) :
    skipTrivia (before ++ (line ++ '\n' :: body')) = line ++ '\n' :: body' := by
  obtain ⟨t, ht, hs⟩ := exists_isTrivia_append (s := before ++ (line ++ '\n' :: body)) (by simp [h])
  rw [h] at hs
  obtain rfl : before = t := List.append_cancel_right hs
  have hblank : ∀ c ∈ (line ++ '\n' :: body).head?, isBlank c = false := fun c hc =>
    isBlank_of_mem_head?_skipTrivia (h ▸ hc)
  have hcomment : isComment (line ++ '\n' :: body) = false := h ▸ isComment_skipTrivia _
  cases line with
  | nil => cases (hblank '\n' rfl).symm.trans isBlank_newline
  | cons c line =>
    refine skipTrivia_append ht hblank ?_
    cases line <;> exact hcomment

/-! ## Sources -/

theorem isSome_ofSource?_eq (source : String) :
    (Flowchart.ofSource? source).isSome = (readHeader? source.toList).isSome := by
  rw [Flowchart.ofSource?, Option.isSome_map]

/-- A text is the source of a flowchart if it has a header word, and a carriage return stands on
the header line only right before its line feed. No line after the header line matters. -/
theorem isSome_ofSource?_iff (source : String) :
    ((Flowchart.ofSource? source).isSome = true ↔
      isFlowchartSource source = true ∧ ReturnsEndLine (skipTrivia source.toList)) ∧
    ∀ before line body, source.toList = before ++ (line ++ '\n' :: body) →
      skipTrivia source.toList = line ++ '\n' :: body → '\n' ∉ line →
      ∀ body', (Flowchart.ofSource? (String.ofList (before ++ (line ++ '\n' :: body')))).isSome =
        (Flowchart.ofSource? source).isSome := by
  refine ⟨by rw [isSome_ofSource?_eq, isSome_readHeader?_iff, isFlowchartSource], ?_⟩
  intro before line body hs hskip hline body'
  have hskip' : skipTrivia (before ++ (line ++ '\n' :: body')) = line ++ '\n' :: body' :=
    skipTrivia_append_newline (by rw [← hs, hskip]) body'
  -- the word ends on the header line
  have hword (body : List Char) : word (line ++ '\n' :: body) = word line :=
    word_append_tail (by rintro c ⟨⟩; rfl)
  rw [isSome_ofSource?_eq, isSome_ofSource?_eq, String.toList_ofList, Bool.eq_iff_iff,
    isSome_readHeader?_iff, isSome_readHeader?_iff, startsFlowchart, startsFlowchart, hskip, hskip',
    hword, hword, returnsEndLine_append_newline line body' body hline]

/-- A header line that ends with a carriage return and a line feed, before a line with carriage
returns. -/
theorem isSome_ofSource?_returnedLine :
    "%% pair\r\n graph LR\r\nA --> B".toList =
        "%% pair\r\n ".toList ++ ("graph LR\r".toList ++ '\n' :: "A --> B".toList) ∧
      skipTrivia "%% pair\r\n graph LR\r\nA --> B".toList =
        "graph LR\r".toList ++ '\n' :: "A --> B".toList ∧
      '\n' ∉ "graph LR\r".toList ∧
      (Flowchart.ofSource? (String.ofList ("%% pair\r\n ".toList ++
        ("graph LR\r".toList ++ '\n' :: "A\r--> \rB".toList)))).isSome = true := by
  have hs : "%% pair\r\n graph LR\r\nA --> B".toList =
      "%% pair\r\n ".toList ++ ("graph LR\r".toList ++ '\n' :: "A --> B".toList) := by decide
  have hskip : skipTrivia "%% pair\r\n graph LR\r\nA --> B".toList =
      "graph LR\r".toList ++ '\n' :: "A --> B".toList := by decide +kernel
  have hline : '\n' ∉ "graph LR\r".toList := by decide
  refine ⟨hs, hskip, hline, ?_⟩
  obtain ⟨hiff, hbody⟩ := isSome_ofSource?_iff "%% pair\r\n graph LR\r\nA --> B"
  rw [hbody _ _ _ hs hskip hline, hiff, hskip]
  exact ⟨by decide +kernel, (isSome_restOfHeader?_iff _).1 rfl⟩

end FlowchartLayout.Source
