import FlowchartLayout.Proofs.Source.Lines
import FlowchartLayout.Source.Draft
import Mathlib.Logic.Relation

/-!
# Reading line by line

Behind the header line, a flowchart is read as if each line were looked at by itself. So it does not
change with blank lines, comment lines and indentation, nor with the way in which lines end.

## Main definitions

- `Flowchart.ofLines` — the flowchart of a direction and lines
- `LineEnd` — how the header line ends
- `LineEdit` — the insertion of a blank line, of a comment line, or of indentation
- `withCarriageReturns` — a text with a carriage return before each line feed

## Main statements

- `ofSource?_eq` — a flowchart is made of the direction and of the lines after the header line
- `ofSource?_linewise` — edits that leave it as it is
-/

namespace FlowchartLayout.Source

/-- The flowchart whose header gives the direction, read from the given lines. -/
def ofLines (direction : Direction) (lines : List (List Char)) : Flowchart :=
  (lines.foldl Draft.readLine (Draft.start direction)).finish

/-! ## The header line -/

/-- The end of a line: the end of the text, or a line feed before which a carriage return may stand.
The second text is what follows it. -/
inductive LineEnd : List Char → List Char → Prop where
  | textEnd : LineEnd [] []
  | newline (s : List Char) : LineEnd ('\n' :: s) s
  | returnNewline (s : List Char) : LineEnd ('\r' :: '\n' :: s) s

/-- The character ends the text of a header line. -/
def endsHeader (c : Char) : Bool :=
  c == '\r' || c == '\n'

theorem isWordChar_eq_false_of_endsHeader {c : Char} (h : endsHeader c = true) :
    isWordChar c = false := by
  rw [endsHeader, Bool.or_eq_true, beq_iff_eq, beq_iff_eq] at h
  rcases h with rfl | rfl
  · decide +kernel
  · decide +kernel

theorem isInlineBlank_eq_false_of_endsHeader {c : Char} (h : endsHeader c = true) :
    isInlineBlank c = false := by
  rw [endsHeader, Bool.or_eq_true, beq_iff_eq, beq_iff_eq] at h
  rcases h with rfl | rfl <;> rfl

/-- The direction that a header line without line end gives, if it is one. -/
def headerDirection? (line : List Char) : Option Direction :=
  if isHeaderWord (word line) then
    some ((Direction.ofKeyword? (word (skipInlineBlanks (afterWord line)))).getD .topToBottom)
  else none

section Append

variable {p : Char → Bool} {line tail : List Char}

/-- What stops a run stops it also behind further characters. -/
theorem takeWhile_append_stop (h : ∀ c ∈ tail.head?, p c = false) :
    (line ++ tail).takeWhile p = line.takeWhile p := by
  rw [List.takeWhile_append, takeWhile_eq_nil h, List.append_nil]
  split
  · next hall => exact ((List.takeWhile_prefix p).eq_of_length hall).symm
  · rfl

theorem dropWhile_append_stop (h : ∀ c ∈ tail.head?, p c = false) :
    (line ++ tail).dropWhile p = line.dropWhile p ++ tail := by
  rw [List.dropWhile_append, dropWhile_eq_self h]
  split
  · next hempty => rw [List.isEmpty_iff.1 hempty, List.nil_append]
  · rfl

section Tail

variable (htail : ∀ c ∈ tail.head?, endsHeader c = true)

include htail

theorem word_append_tail : word (line ++ tail) = word line :=
  takeWhile_append_stop fun c hc => isWordChar_eq_false_of_endsHeader (htail c hc)

theorem afterWord_append_tail : afterWord (line ++ tail) = afterWord line ++ tail :=
  dropWhile_append_stop fun c hc => isWordChar_eq_false_of_endsHeader (htail c hc)

theorem skipInlineBlanks_append_tail :
    skipInlineBlanks (line ++ tail) = skipInlineBlanks line ++ tail :=
  dropWhile_append_stop fun c hc => isInlineBlank_eq_false_of_endsHeader (htail c hc)

end Tail

theorem restOfHeader?_append (hline : ∀ c ∈ line, endsHeader c = false) :
    restOfHeader? (line ++ tail) = restOfHeader? tail := by
  have hrun : ∀ c ∈ line, (c != '\r' && c != '\n') = true := by
    intro c hc
    have h := hline c hc
    rw [endsHeader, Bool.or_eq_false_iff] at h
    rw [bne, bne, h.1, h.2]
    rfl
  rw [restOfHeader?, List.dropWhile_append_of_pos hrun, restOfHeader?]

/-- A header is read from its line, which ends at the first character that ends it. -/
theorem readHeader?_eq {s : List Char} (hs : skipTrivia s = line ++ tail)
    (hline : ∀ c ∈ line, endsHeader c = false) (htail : ∀ c ∈ tail.head?, endsHeader c = true) :
    readHeader? s =
      (headerDirection? line).bind fun d => (restOfHeader? tail).map (d, ·) := by
  have hsuffix : ∀ c ∈ skipInlineBlanks (afterWord line), endsHeader c = false := fun c hc =>
    hline c (((List.dropWhile_suffix _).trans (List.dropWhile_suffix _)).subset hc)
  have hsuffix' : ∀ c ∈ afterWord (skipInlineBlanks (afterWord line)), endsHeader c = false :=
    fun c hc => hsuffix c ((List.dropWhile_suffix _).subset hc)
  simp only [readHeader?, hs, word_append_tail htail, afterWord_append_tail htail,
    skipInlineBlanks_append_tail htail, restOfHeader?_append hsuffix, restOfHeader?_append hsuffix',
    headerDirection?]
  split
  · cases Direction.ofKeyword? (word (skipInlineBlanks (afterWord line))) <;> rfl
  · rfl

end Append

/-- What is left of a header line with a proper end says as much as the text after it. -/
theorem lineEnd_of_restOfHeader? {tail rest : List Char}
    (htail : ∀ c ∈ tail.head?, endsHeader c = true) (h : restOfHeader? tail = some rest) :
    LineEnd tail (afterLine tail) ∧ linewise rest = linewise (afterLine tail) := by
  cases tail with
  | nil =>
    cases h
    exact ⟨.textEnd, rfl⟩
  | cons c s =>
    have hc := htail c rfl
    rw [endsHeader, Bool.or_eq_true, beq_iff_eq, beq_iff_eq] at hc
    rcases hc with rfl | rfl
    · cases s with
      | nil => cases h
      | cons d s =>
        by_cases hd : d = '\n'
        · subst hd
          cases h
          exact ⟨.returnNewline s, linewise_cons_blank isBlank_newline s⟩
        · simp [restOfHeader?, hd] at h
    · cases h
      exact ⟨.newline s, linewise_cons_blank isBlank_newline s⟩

/-- Every proper end of the header line is read. -/
theorem LineEnd.restOfHeader?_eq {tail body : List Char} (h : LineEnd tail body) :
    (∀ c ∈ tail.head?, endsHeader c = true) ∧ afterLine tail = body ∧
      (Source.restOfHeader? tail).isSome = true := by
  cases h with
  | textEnd => exact ⟨nofun, rfl, rfl⟩
  | newline | returnNewline =>
    refine ⟨?_, rfl, rfl⟩
    rintro c ⟨⟩
    rfl

theorem ne_nil_of_headerDirection? {line : List Char} {d : Direction}
    (h : headerDirection? line = some d) : word line ≠ [] := by
  intro hnil
  rw [headerDirection?, hnil, if_neg (by decide)] at h
  cases h

/-- A header stands on a line behind trivia. -/
theorem exists_header {s rest : List Char} {d : Direction} (h : readHeader? s = some (d, rest)) :
    ∃ t line tail, IsTrivia t ∧ s = t ++ (line ++ tail) ∧ skipTrivia s = line ++ tail ∧
      headerDirection? line = some d ∧ (∀ c ∈ line, endsHeader c = false) ∧
      (∀ c ∈ line.head?, isBlank c = false) ∧ LineEnd tail (afterLine (skipTrivia s)) ∧
      linewise rest = linewise (afterLine (skipTrivia s)) := by
  have hsplit : skipTrivia s = (skipTrivia s).takeWhile (!endsHeader ·) ++
      (skipTrivia s).dropWhile (!endsHeader ·) := List.takeWhile_append_dropWhile.symm
  have hline : ∀ c ∈ (skipTrivia s).takeWhile (!endsHeader ·), endsHeader c = false :=
    fun c hc => by simpa using List.mem_takeWhile_imp hc
  have htail : ∀ c ∈ ((skipTrivia s).dropWhile (!endsHeader ·)).head?, endsHeader c = true := by
    intro c hc
    have hstop := List.head?_dropWhile_not (!endsHeader ·) (skipTrivia s)
    rw [Option.mem_def.1 hc] at hstop
    simpa using hstop
  generalize (skipTrivia s).takeWhile (!endsHeader ·) = line at hsplit hline
  generalize (skipTrivia s).dropWhile (!endsHeader ·) = tail at hsplit htail
  have hread := readHeader?_eq hsplit hline htail
  rw [h] at hread
  obtain ⟨d', hd, hrest⟩ := Option.bind_eq_some_iff.1 hread.symm
  obtain ⟨rest', hrest, heq⟩ := Option.map_eq_some_iff.1 hrest
  cases heq
  have hafter : afterLine (skipTrivia s) = afterLine tail := by
    rw [hsplit]
    exact afterLine_append (fun hmem => by cases hline _ hmem) tail
  have hne : skipTrivia s ≠ [] := by
    intro hnil
    rw [hnil] at hsplit
    rw [(List.append_eq_nil_iff.1 hsplit.symm).1] at hd
    exact ne_nil_of_headerDirection? hd rfl
  obtain ⟨t, ht, hs⟩ := exists_isTrivia_append hne
  obtain ⟨hend, hrest⟩ := lineEnd_of_restOfHeader? htail hrest
  have hblank : ∀ c ∈ line.head?, isBlank c = false := by
    intro c hc
    apply isBlank_of_mem_head?_skipTrivia (s := s)
    rw [hsplit, List.head?_append, Option.mem_def.1 hc]
    rfl
  rw [hafter]
  rw [hsplit] at hs
  exact ⟨t, line, tail, ht, hs, hsplit, hd, hline, hblank, hend, hrest⟩

/-- A header line is found behind trivia, whatever follows it. -/
theorem skipTrivia_headerLine {t line : List Char} {d : Direction} (ht : IsTrivia t)
    (hd : headerDirection? line = some d) (hblank : ∀ c ∈ line.head?, isBlank c = false)
    (tail : List Char) : skipTrivia (t ++ (line ++ tail)) = line ++ tail := by
  cases line with
  | nil => exact absurd rfl (ne_nil_of_headerDirection? hd)
  | cons c line =>
    apply skipTrivia_append ht
    · exact hblank
    · rw [← Bool.not_eq_true, isComment_iff]
      intro hcomment
      obtain rfl : '%' = c := (List.cons_prefix_cons.1 hcomment).1
      have hpercent : isWordChar '%' = false := by decide +kernel
      exact ne_nil_of_headerDirection? hd (takeWhile_eq_nil (by rintro c ⟨⟩; exact hpercent))

/-- A flowchart is made of the direction in its header and of the lines after the header line, each
taken by itself. -/
theorem ofSource?_eq (source : String) :
    Flowchart.ofSource? source = ((readHeader? source.toList).map Prod.fst).map fun d =>
      ofLines d (linewise (afterLine (skipTrivia source.toList))) := by
  rw [Flowchart.ofSource?, Option.map_map]
  cases h : readHeader? source.toList with
  | none => rfl
  | some header =>
    obtain ⟨d, rest⟩ := header
    obtain ⟨_, _, _, _, _, _, _, _, _, _, hrest⟩ := exists_header h
    simp only [Option.map_some, Function.comp_apply, contentLines_eq_linewise, hrest]
    rfl

/-! ## Edits of lines -/

/-- A line that says nothing comes in, or a line is indented. -/
inductive LineEdit : List (List Char) → List (List Char) → Prop where
  | blank (before after : List (List Char)) {line : List Char}
      (hline : ∀ c ∈ line, isBlank c = true) : LineEdit (before ++ after) (before ++ line :: after)
  | comment (before after : List (List Char)) {blanks : List Char}
      (hblanks : ∀ c ∈ blanks, isBlank c = true) (text : List Char) :
      LineEdit (before ++ after) (before ++ (blanks ++ '%' :: '%' :: text) :: after)
  | indent (before after : List (List Char)) {blanks : List Char}
      (hblanks : ∀ c ∈ blanks, isBlank c = true) (line : List Char) :
      LineEdit (before ++ line :: after) (before ++ (blanks ++ line) :: after)

theorem contents_insert {line : List Char} (h : hasContent (lineContent line) = false)
    (before after : List (List Char)) :
    contents (before ++ line :: after) = contents (before ++ after) := by
  rw [contents_append, contents_cons, contents_singleton_of_not h, List.nil_append,
    ← contents_append]

theorem LineEdit.contents_eq {lines lines' : List (List Char)} (h : LineEdit lines lines') :
    contents lines = contents lines' := by
  cases h with
  | blank before after hline =>
    refine (contents_insert ?_ before after).symm
    have hempty := lineContent_blanks_append hline []
    rw [List.append_nil] at hempty
    rw [hempty]
    rfl
  | comment before after hblanks text =>
    refine (contents_insert ?_ before after).symm
    rw [lineContent_blanks_append hblanks, hasContent_comment]
  | indent before after hblanks line =>
    rw [contents_append, contents_cons line, contents_append, contents_cons (_ ++ line),
      contents_congr (lineContent_blanks_append hblanks line)]

/-- Lines that can be edited into each other say the same. -/
theorem contents_eq_of_edits {lines lines' : List (List Char)}
    (h : Relation.EqvGen LineEdit lines lines') : contents lines = contents lines' := by
  induction h with
  | rel _ _ h => exact h.contents_eq
  | refl => rfl
  | symm _ _ _ ih => exact ih.symm
  | trans _ _ _ _ _ ih ih' => exact ih.trans ih'

/-! ## Carriage returns -/

/-- The text with a carriage return before each line feed. -/
def withCarriageReturns (s : List Char) : List Char :=
  s.flatMap fun c => if c = '\n' then ['\r', '\n'] else [c]

theorem withCarriageReturns_newline (s : List Char) :
    withCarriageReturns ('\n' :: s) = '\r' :: '\n' :: withCarriageReturns s := rfl

theorem withCarriageReturns_cons {c : Char} (hc : c ≠ '\n') (s : List Char) :
    withCarriageReturns (c :: s) = c :: withCarriageReturns s := by
  rw [withCarriageReturns, List.flatMap_cons, if_neg hc]
  rfl

theorem withCarriageReturns_append_newline {line : List Char} (h : '\n' ∉ line) (s : List Char) :
    withCarriageReturns (line ++ '\n' :: s) =
      (line ++ ['\r']) ++ '\n' :: withCarriageReturns s := by
  induction line with
  | nil => rfl
  | cons c line ih =>
    obtain ⟨hc, hline⟩ := List.ne_and_not_mem_of_not_mem_cons h
    rw [List.cons_append, withCarriageReturns_cons (Ne.symm hc), ih hline]
    rfl

theorem withCarriageReturns_of_not_mem {s : List Char} (h : '\n' ∉ s) :
    withCarriageReturns s = s := by
  induction s with
  | nil => rfl
  | cons c s ih =>
    obtain ⟨hc, hs⟩ := List.ne_and_not_mem_of_not_mem_cons h
    rw [withCarriageReturns_cons (Ne.symm hc), ih hs]

theorem takeWhile_withCarriageReturns {p : Char → Bool} (hr : p '\r' = false)
    (hn : p '\n' = false) (s : List Char) :
    (withCarriageReturns s).takeWhile p = s.takeWhile p := by
  induction s with
  | nil => rfl
  | cons c s ih =>
    by_cases hc : c = '\n'
    · subst hc
      rw [withCarriageReturns_newline, List.takeWhile_cons_of_neg (by rw [hr]; decide),
        List.takeWhile_cons_of_neg (by rw [hn]; decide)]
    · rw [withCarriageReturns_cons hc, List.takeWhile_cons, List.takeWhile_cons, ih]

theorem dropWhile_withCarriageReturns {p : Char → Bool} (h : p '\r' = p '\n') (s : List Char) :
    (withCarriageReturns s).dropWhile p = withCarriageReturns (s.dropWhile p) := by
  induction s with
  | nil => rfl
  | cons c s ih =>
    by_cases hc : c = '\n'
    · subst hc
      rw [withCarriageReturns_newline, List.dropWhile_cons, List.dropWhile_cons, h, ih,
        List.dropWhile_cons]
      split <;> rfl
    · rw [withCarriageReturns_cons hc, List.dropWhile_cons, List.dropWhile_cons, ih]
      split
      · rfl
      · rw [withCarriageReturns_cons hc]

theorem afterLine_withCarriageReturns (s : List Char) :
    afterLine (withCarriageReturns s) = withCarriageReturns (afterLine s) := by
  induction s with
  | nil => rfl
  | cons c s ih =>
    by_cases hc : c = '\n'
    · subst hc
      rfl
    · rw [withCarriageReturns_cons hc, afterLine_cons hc, afterLine_cons hc, ih]

theorem isComment_withCarriageReturns (s : List Char) :
    isComment (withCarriageReturns s) = isComment s := by
  cases s with
  | nil => rfl
  | cons c s =>
    by_cases hc : c = '\n'
    · subst hc
      rfl
    · rw [withCarriageReturns_cons hc]
      cases s with
      | nil => rfl
      | cons d s =>
        by_cases hd : d = '\n'
        · subst hd
          rfl
        · rw [withCarriageReturns_cons hd]
          rfl

theorem skipTrivia_withCarriageReturns (s : List Char) :
    skipTrivia (withCarriageReturns s) = withCarriageReturns (skipTrivia s) := by
  have htrim (s : List Char) :
      trimStart (withCarriageReturns s) = withCarriageReturns (trimStart s) :=
    dropWhile_withCarriageReturns (by decide) s
  fun_induction skipTrivia s with
  | case1 s h ih =>
    rw [skipTrivia, htrim, isComment_withCarriageReturns, if_pos h, afterLine_withCarriageReturns,
      ih]
  | case2 s h => rw [skipTrivia, htrim, isComment_withCarriageReturns, if_neg h]

theorem isSome_restOfHeader? {s : List Char} (h : '\r' ∉ s) :
    (restOfHeader? s).isSome = true ∧ (restOfHeader? (withCarriageReturns s)).isSome = true := by
  have hmem : '\r' ∉ s.dropWhile fun c => c != '\r' && c != '\n' := fun hmem =>
    h ((List.dropWhile_suffix _).subset hmem)
  have hstop := List.head?_dropWhile_not (fun c => c != '\r' && c != '\n') s
  simp only [restOfHeader?,
    dropWhile_withCarriageReturns (p := fun c => c != '\r' && c != '\n') rfl]
  cases hrest : s.dropWhile fun c => c != '\r' && c != '\n' with
  | nil => exact ⟨rfl, rfl⟩
  | cons c rest =>
    -- the character that ends the header is no carriage return, so it is a line feed
    rw [hrest] at hmem hstop
    obtain ⟨hreturn, -⟩ := List.ne_and_not_mem_of_not_mem_cons hmem
    have hc : c = '\n' := by
      simpa [Ne.symm hreturn] using hstop
    subst hc
    exact ⟨rfl, rfl⟩

/-- The direction in the header, if the rest of its line can be read. -/
theorem map_fst_readHeader? {s : List Char}
    (h : (restOfHeader? (skipInlineBlanks (afterWord (skipTrivia s)))).isSome = true)
    (h' : (restOfHeader? (afterWord (skipInlineBlanks (afterWord (skipTrivia s))))).isSome = true) :
    (readHeader? s).map Prod.fst = headerDirection? (skipTrivia s) := by
  obtain ⟨rest, hrest⟩ := Option.isSome_iff_exists.1 h
  obtain ⟨rest', hrest'⟩ := Option.isSome_iff_exists.1 h'
  simp only [readHeader?, headerDirection?, hrest, hrest']
  split
  · cases Direction.ofKeyword? (word (skipInlineBlanks (afterWord (skipTrivia s)))) <;> rfl
  · rfl

theorem word_withCarriageReturns (s : List Char) : word (withCarriageReturns s) = word s :=
  takeWhile_withCarriageReturns (isWordChar_eq_false_of_endsHeader rfl)
    (isWordChar_eq_false_of_endsHeader rfl) s

theorem afterWord_withCarriageReturns (s : List Char) :
    afterWord (withCarriageReturns s) = withCarriageReturns (afterWord s) :=
  dropWhile_withCarriageReturns ((isWordChar_eq_false_of_endsHeader rfl).trans
    (isWordChar_eq_false_of_endsHeader rfl).symm) s

theorem skipInlineBlanks_withCarriageReturns (s : List Char) :
    skipInlineBlanks (withCarriageReturns s) = withCarriageReturns (skipInlineBlanks s) :=
  dropWhile_withCarriageReturns rfl s

theorem skipTrivia_suffix (s : List Char) : skipTrivia s <:+ s := by
  fun_induction skipTrivia s with
  | case1 s _ ih =>
    exact ih.trans ((List.tail_suffix _).trans
      ((List.dropWhile_suffix _).trans (List.dropWhile_suffix _)))
  | case2 s _ => exact List.dropWhile_suffix _

/-- The direction in the header does not depend on how lines end. -/
theorem readHeader?_withCarriageReturns {s : List Char} (h : '\r' ∉ s) :
    (readHeader? (withCarriageReturns s)).map Prod.fst = (readHeader? s).map Prod.fst := by
  have hfirst : '\r' ∉ skipInlineBlanks (afterWord (skipTrivia s)) := fun hmem =>
    h (((List.dropWhile_suffix _).trans ((List.dropWhile_suffix _).trans
      (skipTrivia_suffix s))).subset hmem)
  have hsecond : '\r' ∉ afterWord (skipInlineBlanks (afterWord (skipTrivia s))) := fun hmem =>
    hfirst ((List.dropWhile_suffix _).subset hmem)
  obtain ⟨hplain, hreturns⟩ := isSome_restOfHeader? hfirst
  obtain ⟨hplain', hreturns'⟩ := isSome_restOfHeader? hsecond
  rw [map_fst_readHeader? hplain hplain', map_fst_readHeader?]
  · simp only [headerDirection?, skipTrivia_withCarriageReturns, word_withCarriageReturns,
      afterWord_withCarriageReturns, skipInlineBlanks_withCarriageReturns]
  · simpa only [skipTrivia_withCarriageReturns, afterWord_withCarriageReturns,
      skipInlineBlanks_withCarriageReturns] using hreturns
  · simpa only [skipTrivia_withCarriageReturns, afterWord_withCarriageReturns,
      skipInlineBlanks_withCarriageReturns] using hreturns'

theorem lineContent_append_return {line : List Char} (h : '\r' ∉ line) :
    lineContent (line ++ ['\r']) = lineContent line := by
  have hlast : ¬ line.getLast? = some '\r' := fun hlast => h (List.mem_of_getLast? hlast)
  rw [lineContent, dropCarriageReturn, if_pos List.getLast?_concat, List.dropLast_concat,
    lineContent, dropCarriageReturn, if_neg hlast]

/-- What lines say does not depend on how they end. -/
theorem linewise_withCarriageReturns {s : List Char} (h : '\r' ∉ s) :
    linewise (withCarriageReturns s) = linewise s := by
  by_cases hnew : '\n' ∈ s
  · have hsplit := eq_append_newline hnew
    have hline := newline_not_mem_takeWhile s
    have hlength : (afterLine s).length < s.length := length_afterLine_lt (List.ne_nil_of_mem hnew)
    rw [hsplit, List.mem_append, not_or] at h
    -- by induction on the length of the text, behind its first line
    have hrest := linewise_withCarriageReturns fun hmem => h.2 (List.mem_cons_of_mem _ hmem)
    rw [hsplit, withCarriageReturns_append_newline hline, linewise_append, linewise_append hline,
      hrest, contents_congr (lineContent_append_return h.1)]
    simpa using hline
  · rw [withCarriageReturns_of_not_mem hnew]
termination_by s.length

/-! ## The lines behind the header -/

/-- Behind the header line, a flowchart depends on nothing but what the lines say one by one. So the
lines of a source with a header may be edited: blank lines, comment lines and indentation may come
in or go out, and the header line may end otherwise. And a source without carriage returns may be
given one before each line feed. -/
theorem ofSource?_linewise (source : String) :
    (∀ {d : Direction} {rest : List Char}, readHeader? source.toList = some (d, rest) →
      Flowchart.ofSource? source =
        some (ofLines d (contents (splitOn '\n' (afterLine (skipTrivia source.toList))))) ∧
      ∃ head tail, source.toList = head ++ tail ∧ head.getLast? ≠ some '\r' ∧
        LineEnd tail (afterLine (skipTrivia source.toList)) ∧
        ∀ tail' body, LineEnd tail' body →
          Relation.EqvGen LineEdit (splitOn '\n' (afterLine (skipTrivia source.toList)))
            (splitOn '\n' body) →
          Flowchart.ofSource? (String.ofList (head ++ tail')) = Flowchart.ofSource? source) ∧
    ('\r' ∉ source.toList →
      Flowchart.ofSource? (String.ofList (withCarriageReturns source.toList)) =
        Flowchart.ofSource? source) := by
  constructor
  · intro d rest h
    have hsource : Flowchart.ofSource? source =
        some (ofLines d (linewise (afterLine (skipTrivia source.toList)))) := by
      rw [ofSource?_eq, h]
      rfl
    refine ⟨hsource, ?_⟩
    obtain ⟨t, line, tail, ht, hs, -, hd, hline, hblank, hend, -⟩ := exists_header h
    have hlast : (t ++ line).getLast? ≠ some '\r' := by
      intro hlast
      have hne : line ≠ [] := by
        rintro rfl
        exact ne_nil_of_headerDirection? hd rfl
      rw [List.getLast?_append, List.getLast?_eq_some_getLast hne, Option.some_or] at hlast
      cases hline _ (Option.some.inj hlast ▸ List.getLast_mem hne)
    refine ⟨t ++ line, tail, by rw [hs, List.append_assoc], hlast, hend,
      fun tail' body hend' hedits => ?_⟩
    -- the header is read as before, and the lines behind it say the same
    obtain ⟨htail', hbody, hrest'⟩ := hend'.restOfHeader?_eq
    obtain ⟨rest', hrest'⟩ := Option.isSome_iff_exists.1 hrest'
    have hskip := skipTrivia_headerLine ht hd hblank tail'
    have hread : readHeader? (t ++ (line ++ tail')) = some (d, rest') := by
      rw [readHeader?_eq hskip hline htail', hd, Option.bind_some, hrest', Option.map_some]
    have hafter : afterLine (line ++ tail') = body := by
      rw [afterLine_append fun hmem => (by cases hline _ hmem), hbody]
    rw [hsource, ofSource?_eq, String.toList_ofList, List.append_assoc, hread, hskip, hafter,
      Option.map_some, Option.map_some, linewise, linewise, contents_eq_of_edits hedits]
  · intro h
    rw [ofSource?_eq, ofSource?_eq, String.toList_ofList, readHeader?_withCarriageReturns h,
      skipTrivia_withCarriageReturns, afterLine_withCarriageReturns, linewise_withCarriageReturns]
    exact fun hmem => h (((List.tail_suffix _).trans ((List.dropWhile_suffix _).trans
      (skipTrivia_suffix _))).subset hmem)

/-! ## A pair of edges among lines that say nothing -/

def spacedSource : String :=
  "%% pair\n graph LR\n\tA --> B\n\n  %% B --> A\nB --> C"

def denseSource : String :=
  "%% pair\n graph LR\nA --> B\nB --> C"

theorem readHeader?_spacedSource :
    readHeader? spacedSource.toList =
      some (.leftToRight, "\n\tA --> B\n\n  %% B --> A\nB --> C".toList) := by
  decide +kernel

theorem edits_spacedSource : Relation.EqvGen LineEdit
    ["\tA --> B".toList, [], "  %% B --> A".toList, "B --> C".toList]
    ["A --> B".toList, "B --> C".toList] := by
  have htab : ∀ c ∈ ['\t'], isBlank c = true := List.forall_mem_singleton.2 (by decide)
  have hspaces : ∀ c ∈ [' ', ' '], isBlank c = true :=
    List.forall_mem_cons.2 ⟨by decide, List.forall_mem_singleton.2 (by decide)⟩
  have hempty : ∀ c ∈ ([] : List Char), isBlank c = true := List.forall_mem_nil _
  have hindent := LineEdit.indent [] ["B --> C".toList] htab "A --> B".toList
  have hcomment := LineEdit.comment ["\tA --> B".toList] ["B --> C".toList] hspaces
    " B --> A".toList
  have hblank := LineEdit.blank ["\tA --> B".toList] ["  %% B --> A".toList, "B --> C".toList]
    hempty
  exact .trans _ _ _ (.symm _ _ (.rel _ _ hblank))
    (.trans _ _ _ (.symm _ _ (.rel _ _ hcomment)) (.symm _ _ (.rel _ _ hindent)))

/-- The spaces and comments go out, or the lines end otherwise. -/
theorem ofSource?_spacedSource :
    (readHeader? spacedSource.toList).isSome = true ∧ '\r' ∉ spacedSource.toList ∧
      Flowchart.ofSource? denseSource = Flowchart.ofSource? spacedSource ∧
      Flowchart.ofSource? (String.ofList (withCarriageReturns spacedSource.toList)) =
        Flowchart.ofSource? spacedSource := by
  have hnoreturn : '\r' ∉ spacedSource.toList := by decide
  obtain ⟨hlines, hreturns⟩ := ofSource?_linewise spacedSource
  refine ⟨by rw [readHeader?_spacedSource]; rfl, hnoreturn, ?_, hreturns hnoreturn⟩
  obtain ⟨head, tail, hs, -, hend, hedit⟩ := (hlines readHeader?_spacedSource).2
  have hbody : afterLine (skipTrivia spacedSource.toList) =
      "\tA --> B\n\n  %% B --> A\nB --> C".toList := by decide +kernel
  rw [hbody] at hend hedit
  generalize hb : "\tA --> B\n\n  %% B --> A\nB --> C".toList = body at hend hedit
  cases hend with
  | textEnd => exact absurd hb (by decide)
  | returnNewline =>
    rw [hs] at hnoreturn
    exact absurd (List.mem_append_right _ List.mem_cons_self) hnoreturn
  | newline =>
    obtain rfl : head = "%% pair\n graph LR".toList := by
      have hsplit : spacedSource.toList = "%% pair\n graph LR".toList ++ '\n' :: body := by
        rw [← hb]
        decide
      exact List.append_cancel_right (hs.symm.trans hsplit)
    have hdense := hedit _ "A --> B\nB --> C".toList (.newline _)
      (by rw [← hb]; exact edits_spacedSource)
    rw [← hdense]
    rfl

end FlowchartLayout.Source
