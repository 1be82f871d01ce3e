import FlowchartLayout.Proofs.Text.Runs
import FlowchartLayout.Source.NodeShape
import Mathlib.Logic.Basic
import Mathlib.Tactic.ByContra

/-!
# Shape definitions that are closed

A shape definition whose brackets are closed is read up to its last bracket, whatever follows it.
The label of a slanted shape must be free of slashes for that, even where it is quoted.

## Main definitions

- `Balanced` — every inner bracket of a text is closed, and no other bracket
- `LabelText` — a label as it may stand between brackets, plain or quoted
- `SlantedLabel` — a label as it may stand in a slanted shape, plain or quoted
- `ShapeText` — a closed shape definition

## Main statements

- `readLabel_of_labelText` — labels are read up to the closing bracket
- `readShape?_bracketed` — closed definitions in brackets are read as a whole
- `readShape?_slanted_iff` — slanted ones are read as a whole if their label has no slash
-/

namespace FlowchartLayout.Source

/-! ## Balanced texts -/

/-- Every inner bracket of the text is closed, and no bracket is closed but those. -/
inductive Balanced (nest : Option Char) (stop : Char) : List Char → Prop where
  | nil : Balanced nest stop []
  | other {c : Char} {t : List Char} (hnest : some c ≠ nest) (hstop : c ≠ stop)
      (ht : Balanced nest stop t) : Balanced nest stop (c :: t)
  | nested {c : Char} {t u : List Char} (hnest : some c = nest) (hstop : c ≠ stop)
      (ht : Balanced nest stop t) (hu : Balanced nest stop u) :
      Balanced nest stop (c :: (t ++ stop :: u))

section Balanced

variable {nest : Option Char} {stop : Char} {t : List Char}

theorem scanBracketed_stop_zero (s : List Char) :
    scanBracketed nest stop 0 (stop :: s) = ([], stop :: s) := by
  simp only [scanBracketed, if_true]

theorem scanBracketed_stop_succ (depth : Nat) (s : List Char) :
    scanBracketed nest stop (depth + 1) (stop :: s) =
      (stop :: (scanBracketed nest stop depth s).1, (scanBracketed nest stop depth s).2) := by
  simp only [scanBracketed, if_true]

theorem scanBracketed_nest {c : Char} (hnest : some c = nest) (hstop : c ≠ stop) (depth : Nat)
    (s : List Char) :
    scanBracketed nest stop depth (c :: s) =
      (c :: (scanBracketed nest stop (depth + 1) s).1,
        (scanBracketed nest stop (depth + 1) s).2) := by
  simp only [scanBracketed, if_neg hstop, if_pos hnest]

theorem scanBracketed_other {c : Char} (hnest : some c ≠ nest) (hstop : c ≠ stop) (depth : Nat)
    (s : List Char) :
    scanBracketed nest stop depth (c :: s) =
      (c :: (scanBracketed nest stop depth s).1, (scanBracketed nest stop depth s).2) := by
  simp only [scanBracketed, if_neg hstop, if_neg hnest]

/-- A text without brackets is balanced. -/
theorem Balanced.of_forall (h : ∀ c ∈ t, some c ≠ nest ∧ c ≠ stop) : Balanced nest stop t := by
  induction t with
  | nil => exact .nil
  | cons c t ih =>
    obtain ⟨hc, ht⟩ := List.forall_mem_cons.1 h
    exact .other hc.1 hc.2 (ih ht)

/-- Scanning goes through a balanced text and has as many open brackets behind it as before it. -/
theorem Balanced.scanBracketed_append (h : Balanced nest stop t) (depth : Nat) (s : List Char) :
    scanBracketed nest stop depth (t ++ s) =
      (t ++ (scanBracketed nest stop depth s).1, (scanBracketed nest stop depth s).2) := by
  induction h generalizing depth s with
  | nil => rfl
  | other hnest hstop _ ih =>
    rw [List.cons_append, scanBracketed_other hnest hstop, ih]
    rfl
  | nested hnest hstop _ _ iht ihu =>
    rw [List.cons_append, List.append_assoc, List.cons_append, scanBracketed_nest hnest hstop, iht,
      scanBracketed_stop_succ, ihu]
    simp only [List.cons_append, List.append_assoc]

theorem Balanced.scanBracketed_stop (h : Balanced nest stop t) (s : List Char) :
    scanBracketed nest stop 0 (t ++ stop :: s) = (t, stop :: s) := by
  rw [h.scanBracketed_append, scanBracketed_stop_zero, List.append_nil]

theorem Balanced.skipInlineBlanks (h : Balanced nest stop t)
    (hnest : ∀ c, nest = some c → isInlineBlank c = false) :
    Balanced nest stop (skipInlineBlanks t) := by
  induction h with
  | nil => exact .nil
  | @other c t hc hstop ht ih =>
    by_cases hblank : isInlineBlank c = true
    · rw [FlowchartLayout.skipInlineBlanks, List.dropWhile_cons, if_pos hblank]
      exact ih
    · rw [FlowchartLayout.skipInlineBlanks, List.dropWhile_cons, if_neg hblank]
      exact .other hc hstop ht
  | nested hc hstop ht hu =>
    rw [skipInlineBlanks_eq_self fun d hd => ?_]
    · exact .nested hc hstop ht hu
    · cases hd
      exact hnest _ hc.symm

end Balanced

/-! ## Labels between brackets -/

/-- A label as it may stand before a `stop`: a balanced text, or a quoted text with blanks around
it. -/
inductive LabelText (nest : Option Char) (stop : Char) : List Char → String → Prop where
  | plain {t : List Char} (ht : Balanced nest stop t)
      (hquote : (skipInlineBlanks t).head? ≠ some '"') : LabelText nest stop t (cleanLabel t)
  | quoted {before t after : List Char} (hbefore : IsGap before) (ht : '"' ∉ t)
      (hafter : IsGap after) :
      LabelText nest stop (before ++ '"' :: (t ++ '"' :: after)) (cleanLabel t)

theorem cleanLabel_skipInlineBlanks (s : List Char) :
    cleanLabel (skipInlineBlanks s) = cleanLabel s := by
  rw [cleanLabel, trim_skipInlineBlanks, cleanLabel]

theorem readQuoted?_append {t s : List Char} (ht : '"' ∉ t) :
    readQuoted? ('"' :: (t ++ '"' :: s)) = some (cleanLabel t, skipInlineBlanks s) := by
  have hrun : ∀ c ∈ t, (c != '"') = true := fun c hc => bne_iff_ne.2 fun h => ht (h ▸ hc)
  have hend : ∀ c ∈ ('"' :: s).head?, (c != '"') = false := by
    rintro c ⟨⟩
    rfl
  rw [readQuoted?, takeWhile_run hrun hend, dropWhile_run hrun hend, List.tail_cons]

theorem readQuoted?_eq_none {s : List Char} (h : s.head? ≠ some '"') : readQuoted? s = none := by
  unfold readQuoted?
  split
  · exact absurd rfl h
  · rfl

/-- A label is read up to the character that closes it. -/
theorem readLabel_of_labelText {nest : Option Char} {stop : Char} {body : List Char}
    {label : String} (h : LabelText nest stop body label)
    (hnest : ∀ c, nest = some c → isInlineBlank c = false) (hstop : isInlineBlank stop = false)
    (hquote : stop ≠ '"') (s : List Char) :
    readLabel nest stop (body ++ stop :: s) = (label, stop :: s) := by
  have hself : skipInlineBlanks (stop :: s) = stop :: s := by
    refine skipInlineBlanks_eq_self ?_
    rintro c ⟨⟩
    exact hstop
  cases h with
  | quoted hbefore ht hafter =>
    have hopen : ∀ (u : List Char), skipInlineBlanks ('"' :: u) = '"' :: u := fun u => rfl
    rw [readLabel, List.append_assoc, skipInlineBlanks_gap hbefore, List.cons_append, hopen,
      List.append_assoc, List.cons_append, readQuoted?_append ht, skipInlineBlanks_gap hafter,
      hself]
  | plain ht hnoquote =>
    have hskip : skipInlineBlanks (body ++ stop :: s) = skipInlineBlanks body ++ stop :: s := by
      rw [skipInlineBlanks, List.dropWhile_append]
      split
      · next hempty =>
        rw [skipInlineBlanks, List.isEmpty_iff.1 hempty]
        exact hself
      · rfl
    have hnone : readQuoted? (skipInlineBlanks body ++ stop :: s) = none := by
      refine readQuoted?_eq_none ?_
      cases hbody : skipInlineBlanks body with
      | nil => simpa using hquote
      | cons c t =>
        rw [hbody] at hnoquote
        exact hnoquote
    simp only [readLabel, hskip, hnone]
    rw [(ht.skipInlineBlanks hnest).scanBracketed_stop, cleanLabel_skipInlineBlanks]

/-! ## Brackets -/

/-- The brackets of all shapes but the slanted ones. -/
def brackets : List Bracket :=
  doubleSquareBrackets ++ otherBrackets

/-- What all brackets have in common. -/
structure Bracket.Regular (b : Bracket) : Prop where
  closer_eq : ∃ cs, b.closer = b.stop :: cs
  stop_not_blank : isInlineBlank b.stop = false
  stop_ne_quote : b.stop ≠ '"'
  nest_not_blank : ∀ c, b.nest = some c → isInlineBlank c = false

theorem Bracket.regular_of_mem {b : Bracket} (hb : b ∈ brackets) : b.Regular := by
  simp only [brackets, doubleSquareBrackets, otherBrackets, List.cons_append, List.nil_append,
    List.mem_cons, List.not_mem_nil, or_false] at hb
  rcases hb with rfl | rfl | rfl | rfl | rfl | rfl | rfl | rfl | rfl
  all_goals
    refine ⟨⟨_, rfl⟩, rfl, by decide, ?_⟩
    rintro c ⟨⟩
    try rfl

/-- Brackets with a label between them are read as a whole. -/
theorem Bracket.read?_append {b : Bracket} (hb : b.Regular) {body : List Char} {label : String}
    (h : LabelText b.nest b.stop body label) (s : List Char) :
    b.read? (b.opener ++ (body ++ (b.closer ++ s))) = some (⟨b.shape, label⟩, s) := by
  obtain ⟨cs, hcloser⟩ := hb.closer_eq
  have hlabel : readLabel b.nest b.stop (body ++ (b.closer ++ s)) = (label, b.closer ++ s) := by
    rw [hcloser]
    exact readLabel_of_labelText h hb.nest_not_blank hb.stop_not_blank hb.stop_ne_quote (cs ++ s)
  rw [Bracket.read?, afterStart?_append, Option.map_some, hlabel]
  simp only [dropStart_append]

theorem Bracket.read?_eq_none {b : Bracket} {s : List Char} (h : afterStart? b.opener s = none) :
    b.read? s = none := by
  rw [Bracket.read?, h, Option.map_none]

/-! ## Openers -/

/-- What opens a shape definition. -/
def openers : List (List Char) :=
  ['[', '/'] :: brackets.map (·.opener)

/-- With the label behind it, the opener is not the beginning of a longer one. -/
def Bracket.OpensAlone (b : Bracket) (body : List Char) : Prop :=
  ∀ o ∈ openers, b.opener.length < o.length → ¬ o <+: b.opener ++ body

theorem afterStart?_eq_none {start s : List Char} (h : ¬ start <+: s) :
    afterStart? start s = none := by
  cases hs : afterStart? start s with
  | none => rfl
  | some rest => exact absurd ⟨rest, (eq_append_of_afterStart? hs).symm⟩ h

/-- Where an opener of one character opens alone, no opener of two characters starts. -/
theorem Bracket.OpensAlone.afterStart? {b : Bracket} {body : List Char} {x y : Char}
    (h : b.OpensAlone body) (hb : b.opener = [x]) (ho : [x, y] ∈ openers) (hy : y ≠ b.stop)
    (hreg : b.Regular) (s : List Char) :
    afterStart? [x, y] (b.opener ++ (body ++ (b.closer ++ s))) = none := by
  refine afterStart?_eq_none fun hprefix => ?_
  have halone := h [x, y] ho (by rw [hb]; exact Nat.lt_succ_self 1)
  obtain ⟨cs, hcloser⟩ := hreg.closer_eq
  rw [hb, hcloser, List.singleton_append, List.cons_prefix_cons] at hprefix
  rw [hb, List.singleton_append, List.cons_prefix_cons] at halone
  cases body with
  | nil => exact hy (List.cons_prefix_cons.1 hprefix.2).1
  | cons c body =>
    exact halone ⟨rfl, List.cons_prefix_cons.2 ⟨(List.cons_prefix_cons.1 hprefix.2).1,
      List.nil_prefix⟩⟩

theorem readSlanted?_eq_none {s : List Char} (h : afterStart? ['[', '/'] s = none) :
    readSlanted? s = none := by
  rw [readSlanted?, h]

section Search

variable {s : List Char} {r : NodeShape × List Char} {b : Bracket}

/-- Of a list of brackets, the first ones with a fitting opener are read. -/
theorem findSome?_read? (pre post : List Bracket)
    (hpre : ∀ o ∈ pre, afterStart? o.opener s = none) (hb : b.read? s = some r) :
    (pre ++ b :: post).findSome? (·.read? s) = some r := by
  have hnone : pre.findSome? (·.read? s) = none :=
    List.findSome?_eq_none_iff.2 fun o ho => Bracket.read?_eq_none (hpre o ho)
  rw [List.findSome?_append, hnone, List.findSome?_cons, hb]
  rfl

theorem readShape?_of_doubleSquare (h : doubleSquareBrackets.findSome? (·.read? s) = some r) :
    readShape? s = some r := by
  rw [readShape?, h]
  rfl

theorem readShape?_of_other (hdouble : ∀ o ∈ doubleSquareBrackets, afterStart? o.opener s = none)
    (hslanted : afterStart? ['[', '/'] s = none)
    (h : otherBrackets.findSome? (·.read? s) = some r) : readShape? s = some r := by
  have hnone : doubleSquareBrackets.findSome? (·.read? s) = none :=
    List.findSome?_eq_none_iff.2 fun o ho => Bracket.read?_eq_none (hdouble o ho)
  rw [readShape?, hnone, readSlanted?_eq_none hslanted, h]
  rfl

/-- Brackets that do not begin with a square one are looked for in the second list only. -/
theorem readShape?_of_head_ne {c : Char} (hc : c ≠ '[')
    (h : otherBrackets.findSome? (·.read? (c :: s)) = some r) : readShape? (c :: s) = some r := by
  refine readShape?_of_other ?_ ?_ h
  · simp [doubleSquareBrackets, afterStart?, hc.symm]
  · simp [afterStart?, hc.symm]

end Search

/-- A closed definition in brackets is read as a whole. -/
theorem readShape?_bracketed {b : Bracket} (hb : b ∈ brackets) {body : List Char} {label : String}
    (hbody : LabelText b.nest b.stop body label) (hopen : b.OpensAlone body) (s : List Char) :
    readShape? (b.opener ++ (body ++ (b.closer ++ s))) = some (⟨b.shape, label⟩, s) := by
  have hreg := Bracket.regular_of_mem hb
  have hread := Bracket.read?_append hreg hbody s
  simp only [brackets, doubleSquareBrackets, otherBrackets, List.cons_append, List.nil_append,
    List.mem_cons, List.not_mem_nil, or_false] at hb
  -- in each case, the openers that are tried before do not fit
  rcases hb with rfl | rfl | rfl | rfl | rfl | rfl | rfl | rfl | rfl
  · -- subroutine
    exact readShape?_of_doubleSquare (findSome?_read? [] _ (List.forall_mem_nil _) hread)
  · -- cylinder
    refine readShape?_of_doubleSquare (findSome?_read? (doubleSquareBrackets.take 1) _ ?_ hread)
    simp [doubleSquareBrackets, afterStart?]
  · -- rectangle
    have hsquare := hopen.afterStart? rfl (by decide : ['[', '['] ∈ openers) (by decide) hreg s
    have hround := hopen.afterStart? rfl (by decide : ['[', '('] ∈ openers) (by decide) hreg s
    have hslash := hopen.afterStart? rfl (by decide : ['[', '/'] ∈ openers) (by decide) hreg s
    refine readShape?_of_other ?_ hslash (findSome?_read? [] _ (List.forall_mem_nil _) hread)
    exact List.forall_mem_cons.2 ⟨hsquare, List.forall_mem_singleton.2 hround⟩
  · -- circle
    refine readShape?_of_head_ne (by decide) (findSome?_read? (otherBrackets.take 1) _ ?_ hread)
    simp [otherBrackets, afterStart?]
  · -- stadium
    refine readShape?_of_head_ne (by decide) (findSome?_read? (otherBrackets.take 2) _ ?_ hread)
    simp [otherBrackets, afterStart?]
  · -- rounded
    have hround := hopen.afterStart? rfl (by decide : ['(', '('] ∈ openers) (by decide) hreg s
    have hsquare := hopen.afterStart? rfl (by decide : ['(', '['] ∈ openers) (by decide) hreg s
    refine readShape?_of_head_ne (by decide) (findSome?_read? (otherBrackets.take 3) _ ?_ hread)
    refine List.forall_mem_cons.2 ⟨rfl, List.forall_mem_cons.2 ⟨hround, ?_⟩⟩
    exact List.forall_mem_singleton.2 hsquare
  · -- hexagon
    refine readShape?_of_head_ne (by decide) (findSome?_read? (otherBrackets.take 4) _ ?_ hread)
    simp [otherBrackets, afterStart?]
  · -- diamond
    have hcurly := hopen.afterStart? rfl (by decide : ['{', '{'] ∈ openers) (by decide) hreg s
    refine readShape?_of_head_ne (by decide) (findSome?_read? (otherBrackets.take 5) _ ?_ hread)
    refine List.forall_mem_cons.2 ⟨rfl, List.forall_mem_cons.2 ⟨rfl, ?_⟩⟩
    refine List.forall_mem_cons.2 ⟨rfl, List.forall_mem_cons.2 ⟨rfl, ?_⟩⟩
    exact List.forall_mem_singleton.2 hcurly
  · -- asymmetric
    refine readShape?_of_head_ne (by decide) (findSome?_read? (otherBrackets.take 6) _ ?_ hread)
    simp [otherBrackets, afterStart?]

/-! ## Slanted shapes -/

/-- The text has no slash and no backslash. -/
def Slashless (t : List Char) : Prop :=
  ∀ c ∈ t, c ≠ '/' ∧ c ≠ '\\'

/-- A label as it may stand in a slanted shape: a text without slashes, or any quoted text with
blanks around it. -/
inductive SlantedLabel : List Char → Prop where
  | plain {t : List Char} (ht : Slashless t) (hquote : (skipInlineBlanks t).head? ≠ some '"') :
      SlantedLabel t
  | quoted {before t after : List Char} (hbefore : IsGap before) (ht : '"' ∉ t)
      (hafter : IsGap after) : SlantedLabel (before ++ '"' :: (t ++ '"' :: after))

/-- The shape that the last slash of a slanted shape stands for. -/
def slantedShape (c : Char) : Shape :=
  if c = '/' then .parallelogram else .trapezoid

/-- A slanted shape ends at the first slash of either kind, with or without a bracket. -/
theorem readSlanted?_append {t : List Char} {c : Char} (ht : Slashless t)
    (hc : c = '/' ∨ c = '\\') (s : List Char) :
    readSlanted? ('[' :: '/' :: (t ++ c :: s)) =
      some (⟨slantedShape c, cleanLabel t⟩, dropStart [']'] s) := by
  have hrun : ∀ d ∈ t, (d != '/' && d != '\\') = true := fun d hd => by
    rw [Bool.and_eq_true, bne_iff_ne, bne_iff_ne]
    exact ht d hd
  have hend : ∀ d ∈ (c :: s).head?, (d != '/' && d != '\\') = false := by
    rintro d ⟨⟩
    rcases hc with rfl | rfl <;> rfl
  have hopen : afterStart? ['[', '/'] ('[' :: '/' :: (t ++ c :: s)) = some (t ++ c :: s) :=
    afterStart?_append ['[', '/'] _
  simp only [readSlanted?, hopen, takeWhile_run hrun hend, dropWhile_run hrun hend]
  rcases hc with rfl | rfl <;> rfl

theorem readShape?_slanted {t : List Char} {c : Char} (ht : Slashless t)
    (hc : c = '/' ∨ c = '\\') (s : List Char) :
    readShape? ('[' :: '/' :: (t ++ c :: s)) =
      some (⟨slantedShape c, cleanLabel t⟩, dropStart [']'] s) := by
  have hdouble : doubleSquareBrackets.findSome? (·.read? ('[' :: '/' :: (t ++ c :: s))) = none :=
    rfl
  rw [readShape?, hdouble, readSlanted?_append ht hc]
  rfl

/-- Up to its first slash, a text is free of slashes. -/
theorem exists_first_slash {t : List Char} (h : ¬ Slashless t) :
    ∃ u c v, t = u ++ c :: v ∧ Slashless u ∧ (c = '/' ∨ c = '\\') := by
  induction t with
  | nil => exact absurd (List.forall_mem_nil _) h
  | cons c t ih =>
    by_cases hc : c ≠ '/' ∧ c ≠ '\\'
    · obtain ⟨u, d, v, rfl, hu, hd⟩ := ih fun ht => h (List.forall_mem_cons.2 ⟨hc, ht⟩)
      exact ⟨c :: u, d, v, rfl, List.forall_mem_cons.2 ⟨hc, hu⟩, hd⟩
    · refine ⟨[], c, t, rfl, List.forall_mem_nil _, ?_⟩
      rwa [not_and_or, not_not, not_not] at hc

/-- A slanted shape is read up to its last bracket exactly if its label has no slash. -/
theorem readShape?_slanted_iff {body : List Char} {c : Char} (hc : c = '/' ∨ c = '\\')
    (s : List Char) :
    (readShape? ('[' :: '/' :: (body ++ c :: ']' :: s))).map Prod.snd = some s ↔
      Slashless body := by
  refine ⟨fun h => ?_, fun h => ?_⟩
  · by_contra hslash
    obtain ⟨u, d, v, rfl, hu, hd⟩ := exists_first_slash hslash
    -- what is left begins behind the first slash and is too long
    rw [List.append_assoc, List.cons_append, readShape?_slanted hu hd, Option.map_some] at h
    have hlength := congrArg List.length (Option.some.inj h)
    have hdrop : (v ++ c :: ']' :: s).length ≤ (dropStart [']'] (v ++ c :: ']' :: s)).length + 1 :=
      length_le_dropStart [']'] _
    simp only [List.length_append, List.length_cons] at hlength hdrop
    omega
  · rw [readShape?_slanted h hc, Option.map_some]
    exact congrArg some (dropStart_append [']'] s)

/-! ## Closed definitions -/

/-- A closed shape definition. Labels of slanted shapes satisfy `allow`. -/
inductive ShapeText (allow : List Char → Prop) : List Char → Prop where
  | bracketed {b : Bracket} {body : List Char} {label : String} (hb : b ∈ brackets)
      (hbody : LabelText b.nest b.stop body label) (hopen : b.OpensAlone body) :
      ShapeText allow (b.opener ++ (body ++ b.closer))
  | slanted {body : List Char} {c : Char} (hbody : SlantedLabel body) (hallow : allow body)
      (hc : c = '/' ∨ c = '\\') : ShapeText allow ('[' :: '/' :: (body ++ [c, ']']))

/-- Without slashes in slanted shapes, a closed definition is read as a whole. -/
theorem readShape?_shapeText {text : List Char} (h : ShapeText Slashless text) (s : List Char) :
    ∃ definition, readShape? (text ++ s) = some (definition, s) := by
  cases h with
  | @bracketed b body label hb hbody hopen =>
    refine ⟨⟨b.shape, label⟩, ?_⟩
    rw [List.append_assoc, List.append_assoc]
    exact readShape?_bracketed hb hbody hopen s
  | @slanted body c _ hslash hc =>
    refine ⟨⟨slantedShape c, cleanLabel body⟩, ?_⟩
    have htext : '[' :: '/' :: (body ++ [c, ']']) ++ s = '[' :: '/' :: (body ++ c :: ']' :: s) := by
      simp only [List.cons_append, List.append_assoc, List.nil_append]
    rw [htext, readShape?_slanted hslash hc]
    exact congrArg (fun rest => some (_, rest)) (dropStart_append [']'] s)

/-- A closed definition starts with an opening bracket. -/
theorem ShapeText.startsShape {allow : List Char → Prop} {text : List Char}
    (h : ShapeText allow text) (s : List Char) : startsShape (text ++ s) = true := by
  cases h with
  | slanted => rfl
  | bracketed hb =>
    simp only [brackets, doubleSquareBrackets, otherBrackets, List.cons_append, List.nil_append,
      List.mem_cons, List.not_mem_nil, or_false] at hb
    rcases hb with rfl | rfl | rfl | rfl | rfl | rfl | rfl | rfl | rfl <;> rfl

/-- Without an opening bracket there is no definition. -/
theorem readShape?_eq_none {s : List Char} (h : startsShape s = false) : readShape? s = none := by
  cases s with
  | nil => rfl
  | cons c s =>
    simp only [startsShape, Bool.or_eq_false_iff, beq_eq_false_iff_ne, ne_eq] at h
    obtain ⟨⟨⟨hsquare, hround⟩, hcurly⟩, hangle⟩ := h
    simp [readShape?, readSlanted?, doubleSquareBrackets, otherBrackets, Bracket.read?,
      afterStart?, Ne.symm hsquare, Ne.symm hround, Ne.symm hcurly, Ne.symm hangle]

end FlowchartLayout.Source
