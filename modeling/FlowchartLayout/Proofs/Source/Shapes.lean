import FlowchartLayout.Proofs.Source.Brackets
import Mathlib.Data.List.Infix

/-!
# Shapes as they are written

Every shape has something to write before its label and something to write behind it. A label that
closes the brackets it opens may stand there as it is, and any label may stand there in quotes,
except that slanted shapes end at the first slash and take quotes for text.

## Main definitions

- `Shape.opener`, `Shape.closer`, `Shape.nest`, `Shape.isSlanted` — how a shape is written
- `Shape.written` — a shape with something between its brackets, and what follows
- `Closes` — a text closes what has been opened, by counting
- `PlainLabel` — the labels that need no quotes

## Main statements

- `Balanced.of_closes` — a text with matching counts consists of matching brackets
- `readShape?_plainLabel` — labels without quotes are read back in every shape
- `readShape?_inQuotes` — labels in quotes are read back in every shape that is not slanted
-/

namespace FlowchartLayout

namespace Shape

/-! ## How shapes are written -/

/-- What stands before the label. -/
def opener : Shape → List Char
  | rectangle => ['[']
  | rounded => ['(']
  | stadium => ['(', '[']
  | diamond => ['{']
  | circle => ['(', '(']
  | hexagon => ['{', '{']
  | parallelogram | trapezoid => ['[', '/']
  | cylinder => ['[', '(']
  | subroutine => ['[', '[']
  | asymmetric => ['>']

/-- What stands behind the label. -/
def closer : Shape → List Char
  | rectangle | asymmetric => [']']
  | rounded => [')']
  | stadium => [']', ')']
  | diamond => ['}']
  | circle => [')', ')']
  | hexagon => ['}', '}']
  | parallelogram => ['/', ']']
  | trapezoid => ['\\', ']']
  | cylinder => [')', ']']
  | subroutine => [']', ']']

/-- The character that opens an inner bracket. -/
def nest : Shape → Option Char
  | rectangle | stadium | subroutine => some '['
  | rounded | circle | cylinder => some '('
  | diamond | hexagon => some '{'
  | parallelogram | trapezoid | asymmetric => none

/-- The label stands between slashes. -/
def isSlanted : Shape → Bool
  | parallelogram | trapezoid => true
  | _ => false

/-- The characters that turn the opener into that of another shape. -/
def extensions : Shape → List Char
  | rectangle => ['[', '(', '/']
  | rounded => ['(', '[']
  | diamond => ['{']
  | _ => []

/-- The shape with a text between its brackets, and what follows. -/
def written (shape : Shape) (body rest : List Char) : List Char :=
  shape.opener ++ (body ++ (shape.closer ++ rest))

end Shape

namespace Source

/-! ## Counting brackets -/

/-- How many inner brackets a text opens. -/
def openings (nest : Option Char) (t : List Char) : Nat :=
  t.countP fun c => nest == some c

/-- Where `depth` brackets are open, the text closes them and all that it opens, and at no point
more than there are. Where `nest` is none and nothing is open, the text is one without `stop`. -/
structure Closes (nest : Option Char) (stop : Char) (depth : Nat) (t : List Char) : Prop where
  count_eq : t.count stop = openings nest t + depth
  count_le : ∀ u, u <+: t → u.count stop ≤ openings nest u + depth

section Closes

variable {nest : Option Char} {stop c : Char} {depth : Nat} {t : List Char}

theorem openings_cons (c : Char) (t : List Char) :
    openings nest (c :: t) = openings nest t + if nest = some c then 1 else 0 := by
  rw [openings, List.countP_cons]
  simp only [beq_iff_eq, openings]

theorem count_stop_cons (c : Char) (t : List Char) :
    (c :: t).count stop = t.count stop + if c = stop then 1 else 0 := by
  rw [List.count_cons]
  simp only [beq_iff_eq]

/-- One character changes the number of open brackets. -/
theorem Closes.tail {depth' : Nat} (h : Closes nest stop depth (c :: t))
    (hdepth : depth + (if nest = some c then 1 else 0) = depth' + if c = stop then 1 else 0) :
    Closes nest stop depth' t where
  count_eq := by
    have heq := h.count_eq
    rw [openings_cons, count_stop_cons] at heq
    omega
  count_le := by
    intro u hu
    have hle := h.count_le (c :: u) (List.cons_prefix_cons.2 ⟨rfl, hu⟩)
    rw [openings_cons, count_stop_cons] at hle
    omega

theorem Closes.closing (hne : nest ≠ some stop) (h : Closes nest stop (depth + 1) (stop :: t)) :
    Closes nest stop depth t := by
  refine h.tail ?_
  rw [if_neg hne, if_pos rfl]

theorem Closes.nested (hnest : nest = some c) (hstop : c ≠ stop)
    (h : Closes nest stop depth (c :: t)) : Closes nest stop (depth + 1) t := by
  refine h.tail ?_
  rw [if_pos hnest, if_neg hstop]

theorem Closes.other (hnest : nest ≠ some c) (hstop : c ≠ stop)
    (h : Closes nest stop depth (c :: t)) : Closes nest stop depth t := by
  refine h.tail ?_
  rw [if_neg hnest, if_neg hstop]

/-- Without open brackets nothing can be closed. -/
theorem not_closes_zero_stop (hne : nest ≠ some stop) : ¬Closes nest stop 0 (stop :: t) := by
  intro h
  have hle := h.count_le [stop] (List.cons_prefix_cons.2 ⟨rfl, List.nil_prefix⟩)
  rw [openings_cons, count_stop_cons, if_neg hne, if_pos rfl] at hle
  simp [openings] at hle

/-- With an open bracket there is a first place where it is closed, and only matching brackets come
before. -/
theorem Closes.exists_balanced (hne : nest ≠ some stop) (h : Closes nest stop (depth + 1) t) :
    ∃ u v, t = u ++ stop :: v ∧ Balanced nest stop u ∧ Closes nest stop depth v := by
  induction hlength : t.length using Nat.strong_induction_on generalizing t depth with
  | _ n ih =>
    subst hlength
    cases t with
    | nil =>
      have heq := h.count_eq
      simp [openings] at heq
    | cons c t =>
      have hless : t.length < (c :: t).length := Nat.lt_succ_self _
      by_cases hstop : c = stop
      · subst hstop
        exact ⟨[], t, rfl, .nil, h.closing hne⟩
      by_cases hnest : nest = some c
      · -- an inner bracket has to be closed first
        obtain ⟨u, v, rfl, hu, hv⟩ := ih t.length hless (h.nested hnest hstop) rfl
        have hless' : v.length < (c :: (u ++ stop :: v)).length := by
          simp only [List.length_cons, List.length_append]
          omega
        obtain ⟨u', v', rfl, hu', hv'⟩ := ih v.length hless' hv rfl
        refine ⟨c :: (u ++ stop :: u'), v', ?_, .nested hnest.symm hstop hu hu', hv'⟩
        simp only [List.cons_append, List.append_assoc]
      · obtain ⟨u, v, rfl, hu, hv⟩ := ih t.length hless (h.other hnest hstop) rfl
        exact ⟨c :: u, v, rfl, .other (Ne.symm hnest) hstop hu, hv⟩

/-- A text with matching counts consists of matching brackets. -/
theorem Balanced.of_closes (hne : nest ≠ some stop) (h : Closes nest stop 0 t) :
    Balanced nest stop t := by
  induction hlength : t.length using Nat.strong_induction_on generalizing t with
  | _ n ih =>
    subst hlength
    cases t with
    | nil => exact .nil
    | cons c t =>
      have hless : t.length < (c :: t).length := Nat.lt_succ_self _
      by_cases hstop : c = stop
      · subst hstop
        exact absurd h (not_closes_zero_stop hne)
      by_cases hnest : nest = some c
      · obtain ⟨u, v, rfl, hu, hv⟩ := (h.nested hnest hstop).exists_balanced hne
        have hless' : v.length < (c :: (u ++ stop :: v)).length := by
          simp only [List.length_cons, List.length_append]
          omega
        exact .nested hnest.symm hstop hu (ih v.length hless' hv rfl)
      · exact .other (Ne.symm hnest) hstop (ih t.length hless (h.other hnest hstop) rfl)

end Closes

/-! ## The brackets of a shape -/

/-- Every shape that is not slanted has brackets, and they are those that it is written with. -/
theorem exists_bracket {shape : Shape} (h : shape.isSlanted = false) :
    ∃ b ∈ brackets, b.shape = shape ∧ b.opener = shape.opener ∧ b.closer = shape.closer ∧
      b.nest = shape.nest ∧ shape.closer.head? = some b.stop := by
  have hfound {b : Bracket} (hb : brackets.find? (fun b => b.shape = shape) = some b) :
      b ∈ brackets := List.mem_of_find?_eq_some hb
  cases shape with
  | parallelogram => cases h
  | trapezoid => cases h
  | _ => exact ⟨_, hfound rfl, rfl, rfl, rfl, rfl, rfl⟩

/-- No shape closes its label with the character that opens an inner bracket. -/
theorem nest_ne_stop {shape : Shape} {stop : Char} (h : shape.closer.head? = some stop) :
    shape.nest ≠ some stop := by
  cases shape <;> cases h <;> decide

/-- An opener that starts with the opener of a shape is no other or has one of its extensions. -/
theorem mem_extended {shape : Shape} : ∀ o ∈ openers, shape.opener <+: o →
    o ∈ shape.opener :: shape.extensions.map fun c => shape.opener ++ [c] := by
  cases shape <;> decide

/-- The opener stays what it is if the label does not begin with one of its extensions. -/
theorem opensAlone {shape : Shape} {b : Bracket} {t : List Char} (hb : b.opener = shape.opener)
    (hopen : ∀ c ∈ t.head?, c ∉ shape.extensions) : b.OpensAlone t := by
  intro o ho hlonger hprefix
  rw [hb] at hlonger hprefix
  have hstart : shape.opener <+: o :=
    List.prefix_of_prefix_length_le (List.prefix_append _ t) hprefix (Nat.le_of_lt hlonger)
  rcases List.mem_cons.1 (mem_extended o ho hstart) with rfl | hextended
  · exact Nat.lt_irrefl _ hlonger
  · obtain ⟨c, hc, rfl⟩ := List.mem_map.1 hextended
    -- the label goes on with the extension
    obtain ⟨t', rfl⟩ := (List.prefix_append_right_inj _).1 hprefix
    exact hopen c rfl hc

/-- A shape that is not slanted is read as a whole with any label that may stand in brackets. -/
theorem readShape?_written {shape : Shape} (h : shape.isSlanted = false) {body : List Char}
    {label : String} (hbody : ∀ stop ∈ shape.closer.head?, LabelText shape.nest stop body label)
    (hopen : ∀ c ∈ body.head?, c ∉ shape.extensions) (rest : List Char) :
    readShape? (shape.written body rest) = some (⟨shape, label⟩, rest) := by
  obtain ⟨b, hb, rfl, hopener, hcloser, hnest, hstop⟩ := exists_bracket h
  have hlabel : LabelText b.nest b.stop body label := by
    rw [hnest]
    exact hbody b.stop hstop
  rw [Shape.written, ← hopener, ← hcloser]
  exact readShape?_bracketed hb hlabel (opensAlone hopener hopen) rest

/-- A slanted shape is read up to the first slash, which says what shape it is. -/
theorem readShape?_written_slash {shape : Shape} (h : shape.isSlanted = true) {u v body : List Char}
    {c : Char} (hu : Slashless u) (hc : c = '/' ∨ c = '\\') {rest : List Char}
    (hbody : body ++ (shape.closer ++ rest) = u ++ c :: v) :
    readShape? (shape.written body rest) =
      some (⟨slantedShape c, cleanLabel u⟩, dropStart [']'] v) := by
  have hopener : shape.opener = ['[', '/'] := by
    cases shape with
    | parallelogram => rfl
    | trapezoid => rfl
    | _ => cases h
  rw [Shape.written, hopener, hbody]
  exact readShape?_slanted hu hc v

/-- A slanted shape is written with one of the two slashes, and that is the one it stands for. -/
theorem exists_slash {shape : Shape} (h : shape.isSlanted = true) :
    ∃ c, (c = '/' ∨ c = '\\') ∧ shape.closer = [c, ']'] ∧ slantedShape c = shape := by
  cases shape with
  | parallelogram => exact ⟨'/', .inl rfl, rfl, rfl⟩
  | trapezoid => exact ⟨'\\', .inr rfl, rfl, rfl⟩
  | _ => cases h

/-- A slanted shape whose label has no slash is read as a whole. -/
theorem readShape?_written_slashless {shape : Shape} (h : shape.isSlanted = true)
    {body : List Char} (hbody : Slashless body) (rest : List Char) :
    readShape? (shape.written body rest) = some (⟨shape, cleanLabel body⟩, rest) := by
  obtain ⟨c, hc, hcloser, hshape⟩ := exists_slash h
  have htext : body ++ (shape.closer ++ rest) = body ++ c :: ']' :: rest := by rw [hcloser]; rfl
  rw [readShape?_written_slash h hbody hc htext, hshape]
  exact congrArg (fun rest => some (_, rest)) (dropStart_append [']'] rest)

/-! ## Labels without quotes -/

/-- The labels that may stand in a shape without quotes: between slashes, those without slashes; in
other brackets, those that close what they open and begin neither with a quote nor with an extension
of the opener. -/
inductive PlainLabel : Shape → List Char → Prop where
  | slanted {shape : Shape} {t : List Char} (hslanted : shape.isSlanted = true)
      (ht : Slashless t) : PlainLabel shape t
  | bracketed {shape : Shape} {t : List Char} {stop : Char} (hslanted : shape.isSlanted = false)
      (hstop : shape.closer.head? = some stop) (hcloses : Closes shape.nest stop 0 t)
      (hquote : (skipInlineBlanks t).head? ≠ some '"')
      (hopen : ∀ c ∈ t.head?, c ∉ shape.extensions) : PlainLabel shape t

/-- In every shape, a label that needs no quotes is read back, trimmed and without markup, and what
follows the shape is left. -/
theorem readShape?_plainLabel {shape : Shape} {t : List Char} (h : PlainLabel shape t)
    (rest : List Char) :
    readShape? (shape.written t rest) =
      some (⟨shape, String.ofList (withoutMarkup (trim t))⟩, rest) := by
  cases h with
  | slanted hslanted ht => exact readShape?_written_slashless hslanted ht rest
  | bracketed hslanted hstop hcloses hquote hopen =>
    have hbalanced := Balanced.of_closes (nest_ne_stop hstop) hcloses
    refine readShape?_written hslanted (fun stop hstop' => ?_) hopen rest
    cases Option.some.inj (hstop.symm.trans hstop')
    exact .plain hbalanced hquote

/-- In a circle, the brackets of the label are told from those of the circle by counting. The blanks
around the label are dropped, and its tag is a line break. -/
theorem readShape?_plainLabel_nestedCircle :
    PlainLabel .circle " f(g<br/>(x))\t".toList ∧
      readShape? (Shape.circle.written " f(g<br/>(x))\t".toList ") --> B".toList) =
        some (⟨.circle, "f(g\n(x))"⟩, ") --> B".toList) := by
  have hcounts : ∀ u ∈ " f(g<br/>(x))\t".toList.inits,
      u.count ')' ≤ openings (some '(') u + 0 := by decide
  have hcloses : Closes (some '(') ')' 0 " f(g<br/>(x))\t".toList :=
    ⟨by decide, fun u hu => hcounts u ((List.mem_inits u _).2 hu)⟩
  have hlabel : PlainLabel .circle " f(g<br/>(x))\t".toList :=
    .bracketed rfl rfl hcloses (by decide) fun _ _ => List.not_mem_nil
  have htext : String.ofList (withoutMarkup (trim " f(g<br/>(x))\t".toList)) = "f(g\n(x))" := by
    decide
  refine ⟨hlabel, ?_⟩
  rw [readShape?_plainLabel hlabel, htext]

/-! ## Labels in quotes -/

/-- The text between two quotes. -/
def inQuotes (t : List Char) : List Char :=
  '"' :: (t ++ ['"'])

theorem markupAt_quote (s : List Char) : markupAt ('"' :: s) = none := by
  simp [markupAt, lineBreakTags, dropWordIgnoringCase]

/-- A label that starts with a quote keeps it. -/
theorem quote_mem_cleanLabel (s : List Char) : '"' ∈ (cleanLabel ('"' :: s)).toList := by
  rw [cleanLabel, String.toList_ofList, trim_cons (by decide), withoutMarkup, withoutMarkupAfter,
    markupAt_quote]
  exact List.mem_cons_self

theorem mem_of_mem_withoutMarkupAfter {c : Char} {skipped : Nat} {s : List Char}
    (h : c ∈ withoutMarkupAfter skipped s) : c = '\n' ∨ c ∈ s := by
  fun_induction withoutMarkupAfter skipped s with
  | case1 => cases h
  | case2 _ _ _ ih => exact (ih h).imp_right (List.mem_cons_of_mem _)
  | case3 d s n _ ih =>
    rcases List.mem_cons.1 h with rfl | h
    · exact .inl rfl
    · exact (ih h).imp_right (List.mem_cons_of_mem _)
  | case4 d s n _ ih => exact (ih h).imp_right (List.mem_cons_of_mem _)
  | case5 d s _ ih =>
    rcases List.mem_cons.1 h with rfl | h
    · exact .inr List.mem_cons_self
    · exact (ih h).imp_right (List.mem_cons_of_mem _)

theorem mem_of_mem_trim {c : Char} {s : List Char} (h : c ∈ trim s) : c ∈ s := by
  rw [trim, trimEnd, List.mem_reverse] at h
  have hstart := List.mem_reverse.1 ((List.dropWhile_sublist isBlank).subset h)
  exact (List.dropWhile_sublist isBlank).subset hstart

/-- A label of a text without quotes has none. -/
theorem quote_not_mem_cleanLabel {t : List Char} (ht : '"' ∉ t) : '"' ∉ (cleanLabel t).toList := by
  intro h
  rw [cleanLabel, String.toList_ofList] at h
  rcases mem_of_mem_withoutMarkupAfter h with heq | hmem
  · cases heq
  · exact ht (mem_of_mem_trim hmem)

theorem cleanLabel_quote_ne {t : List Char} (ht : '"' ∉ t) (s : List Char) :
    cleanLabel ('"' :: s) ≠ cleanLabel t := by
  intro h
  exact quote_not_mem_cleanLabel ht (h ▸ quote_mem_cleanLabel s)

/-- In a shape that is not slanted, a text in quotes is read as it is. -/
theorem readShape?_inQuotes_of_not_slanted {shape : Shape} (h : shape.isSlanted = false)
    {t : List Char} (ht : '"' ∉ t) (rest : List Char) :
    readShape? (shape.written (inQuotes t) rest) = some (⟨shape, cleanLabel t⟩, rest) := by
  refine readShape?_written h (fun stop _ => ?_) ?_ rest
  · exact @LabelText.quoted _ _ [] t [] isGap_nil ht isGap_nil
  · rintro c ⟨⟩
    cases shape <;> decide

theorem slashless_inQuotes {t : List Char} (h : Slashless t) : Slashless (inQuotes t) := by
  intro c hc
  rcases List.mem_cons.1 hc with rfl | hc
  · decide
  · rcases List.mem_append.1 hc with hc | hc
    · exact h c hc
    · rw [List.mem_singleton.1 hc]
      decide

/-- In a slanted shape, a slash in the quoted text ends the label. -/
theorem readShape?_inQuotes_slash {shape : Shape} (h : shape.isSlanted = true) {u : List Char}
    {c : Char} (hu : Slashless u) (hc : c = '/' ∨ c = '\\') (v rest : List Char) :
    readShape? (shape.written (inQuotes (u ++ c :: v)) rest) =
      some (⟨slantedShape c, cleanLabel ('"' :: u)⟩,
        dropStart [']'] (v ++ '"' :: (shape.closer ++ rest))) := by
  have hopened : Slashless ('"' :: u) := List.forall_mem_cons.2 ⟨by decide, hu⟩
  refine readShape?_written_slash h hopened hc ?_
  simp only [inQuotes, List.cons_append, List.append_assoc, List.nil_append]

/-- In every shape but the slanted ones, a text in quotes is the label, whatever brackets and
slashes it has, and what follows the shape is left. In a slanted shape the quotes belong to the
label and a slash between them ends it, so the label is never the text. -/
theorem readShape?_inQuotes {t : List Char} (ht : '"' ∉ t) (shape : Shape) (rest : List Char) :
    (shape.isSlanted = false →
      readShape? (shape.written (inQuotes t) rest) =
        some (⟨shape, String.ofList (withoutMarkup (trim t))⟩, rest)) ∧
    (shape.isSlanted = true →
      (Slashless t → readShape? (shape.written (inQuotes t) rest) =
        some (⟨shape, String.ofList (withoutMarkup (trim (inQuotes t)))⟩, rest)) ∧
      (¬Slashless t → ∃ u c v, t = u ++ c :: v ∧ Slashless u ∧ (c = '/' ∨ c = '\\') ∧
        readShape? (shape.written (inQuotes t) rest) =
          some (⟨slantedShape c, String.ofList (withoutMarkup (trim ('"' :: u)))⟩,
            dropStart [']'] (v ++ '"' :: (shape.closer ++ rest)))) ∧
      (readShape? (shape.written (inQuotes t) rest)).map (·.1.label) ≠
        some (String.ofList (withoutMarkup (trim t)))) := by
  refine ⟨fun h => readShape?_inQuotes_of_not_slanted h ht rest, fun h => ?_⟩
  have hwhole : Slashless t → readShape? (shape.written (inQuotes t) rest) =
      some (⟨shape, cleanLabel (inQuotes t)⟩, rest) :=
    fun hslash => readShape?_written_slashless h (slashless_inQuotes hslash) rest
  refine ⟨hwhole, fun hslash => ?_, ?_⟩
  · obtain ⟨u, c, v, rfl, hu, hc⟩ := exists_first_slash hslash
    exact ⟨u, c, v, rfl, hu, hc, readShape?_inQuotes_slash h hu hc v rest⟩
  · -- whether it ends early or not, the label starts with a quote
    by_cases hslash : Slashless t
    · rw [hwhole hslash]
      exact fun heq => cleanLabel_quote_ne ht _ (Option.some.inj heq)
    · obtain ⟨u, c, v, rfl, hu, hc⟩ := exists_first_slash hslash
      rw [readShape?_inQuotes_slash h hu hc]
      exact fun heq => cleanLabel_quote_ne ht _ (Option.some.inj heq)

/-- The same text in quotes, with blanks around it and tags in it, in a shape with brackets and in a
slanted one. -/
theorem readShape?_inQuotes_slashedBrackets :
    '"' ∉ " [in/<b>out</b>)]\t".toList ∧
      readShape? (Shape.cylinder.written (inQuotes " [in/<b>out</b>)]\t".toList)
        " --> B".toList) = some (⟨.cylinder, "[in/out)]"⟩, " --> B".toList) ∧
      (readShape? (Shape.trapezoid.written (inQuotes " [in/<b>out</b>)]\t".toList) [])).map
        (·.1.label) ≠ some "[in/out)]" := by
  have hnone : '"' ∉ " [in/<b>out</b>)]\t".toList := by decide
  have htext : String.ofList (withoutMarkup (trim " [in/<b>out</b>)]\t".toList)) = "[in/out)]" := by
    decide
  refine ⟨hnone, ?_, ?_⟩
  · rw [(readShape?_inQuotes hnone .cylinder _).1 rfl, htext]
  · have hlost := ((readShape?_inQuotes hnone .trapezoid []).2 rfl).2.2
    rwa [htext] at hlost

/-- A slash between quotes ends the label of a parallelogram. -/
theorem not_readShape?_inQuotes_slashed :
    ¬∀ (shape : Shape) (t rest : List Char), '"' ∉ t →
      readShape? (shape.written (inQuotes t) rest) =
        some (⟨shape, String.ofList (withoutMarkup (trim t))⟩, rest) := by
  intro h
  have hread := h .parallelogram "in/out".toList [] (by decide)
  have hearly : readShape? (Shape.parallelogram.written (inQuotes "in/out".toList) []) =
      some (⟨.parallelogram, "\"in"⟩, "out\"/]".toList) := by decide
  rw [hearly] at hread
  exact absurd (congrArg (Option.map Prod.snd) hread) (by decide)

end Source

end FlowchartLayout
