import FlowchartLayout.Proofs.Text.Runs
import FlowchartLayout.Source.Link

/-!
# Link operators of any length

A written operator is read as a whole, as long as a blank or a bar follows it, and gives its own
link whatever the number of its characters is.

## Main definitions

- `GivesLabel` — the label that a text gives
- `OperatorText` — the written operators, with the links that they stand for
- `EndsOperator` — what may follow an operator

## Main statements

- `readLink?_operatorText` — written operators are read back
-/

namespace FlowchartLayout.Source

/-! ## Pieces and rows of pieces -/

theorem Piece.after?_fixed (cs s : List Char) : (Piece.fixed cs).after? (cs ++ s) = some s :=
  afterStart?_append cs s

/-- A run is read to its end, if it is long enough. -/
theorem Piece.after?_run {least n : Nat} {c : Char} {s : List Char} (hs : s.head? ≠ some c) :
    (Piece.run least c).after? (List.replicate n c ++ s) = if least ≤ n then some s else none := by
  have hrun : ∀ d ∈ List.replicate n c, (d == c) = true := fun d hd =>
    beq_iff_eq.2 (List.eq_of_mem_replicate hd)
  have hend : ∀ d ∈ s.head?, (d == c) = false := fun d hd =>
    beq_eq_false_iff_ne.2 fun h => hs (h ▸ hd)
  rw [Piece.after?, takeWhile_run hrun hend, dropWhile_run hrun hend, List.length_replicate]

section Row

variable {p : Piece} {ps : List Piece} {link : Link} {s rest : List Char}

theorem Operator.read?_cons (h : p.after? s = some rest) :
    Operator.read? ⟨p :: ps, link⟩ s = Operator.read? ⟨ps, link⟩ rest := by
  rw [Operator.read?, List.foldlM_cons, h]
  rfl

theorem Operator.read?_fixed (cs : List Char) :
    Operator.read? ⟨.fixed cs :: ps, link⟩ (cs ++ s) = Operator.read? ⟨ps, link⟩ s :=
  Operator.read?_cons (Piece.after?_fixed cs s)

theorem Operator.read?_eq_none (h : p.after? s = none) :
    Operator.read? ⟨p :: ps, link⟩ s = none := by
  rw [Operator.read?, List.foldlM_cons, h]
  rfl

variable {n least : Nat} {c d : Char} {ds : List Char}

/-- A run alone. -/
theorem Operator.read?_run (hn : least ≤ n) (hs : s.head? ≠ some c) :
    Operator.read? ⟨[.run least c], link⟩ (List.replicate n c ++ s) = some (link, s) :=
  Operator.read?_cons ((Piece.after?_run hs).trans (if_pos hn))

/-- A run that is too short. -/
theorem Operator.read?_run_eq_none (hn : n < least) (hs : s.head? ≠ some c) :
    Operator.read? ⟨[.run least c], link⟩ (List.replicate n c ++ s) = none :=
  Operator.read?_eq_none ((Piece.after?_run hs).trans (if_neg (Nat.not_le.2 hn)))

/-- A run with a tip. -/
theorem Operator.read?_tip (hn : least ≤ n) (hd : d ≠ c) :
    Operator.read? ⟨[.run least c, .fixed (d :: ds)], link⟩
      (List.replicate n c ++ (d :: ds ++ s)) = some (link, s) := by
  have hhead : (d :: ds ++ s).head? ≠ some c := fun h => hd (Option.some.inj h)
  rw [Operator.read?_cons ((Piece.after?_run hhead).trans (if_pos hn))]
  exact Operator.read?_fixed (d :: ds)

/-- A run without the tip. -/
theorem Operator.read?_tip_eq_none (hn : least ≤ n) (hc : s.head? ≠ some c)
    (hs : afterStart? ds s = none) :
    Operator.read? ⟨[.run least c, .fixed ds], link⟩ (List.replicate n c ++ s) = none := by
  rw [Operator.read?_cons ((Piece.after?_run hc).trans (if_pos hn))]
  exact Operator.read?_eq_none hs

end Row

theorem findSome?_cons_or {α β : Type} (f : α → Option β) (a : α) (as : List α) :
    (a :: as).findSome? f = (f a).or (as.findSome? f) := by
  rw [List.findSome?_cons]
  cases f a <;> rfl

/-! ## Written operators -/

/-- The label that a text gives. An empty text gives none. -/
inductive GivesLabel : List Char → Option String → Prop where
  | empty : GivesLabel [] none
  | text {t : List Char} (hne : t ≠ []) : GivesLabel t (some (String.ofList t))

theorem GivesLabel.nonEmptyLabel_eq {t : List Char} {label : Option String}
    (h : GivesLabel t label) : nonEmptyLabel t = label := by
  cases h with
  | empty => rfl
  | text hne => rw [nonEmptyLabel, if_neg (by rwa [List.isEmpty_iff])]

/-- The dashes that end a link with a label inside it, or a plain operator. -/
inductive DashesText : List Char → Link → Prop where
  | arrow {n : Nat} (hn : 2 ≤ n) :
      DashesText (List.replicate n '-' ++ ['>']) { kind := .arrow }
  | plain {n : Nat} (hn : 3 ≤ n) : DashesText (List.replicate n '-') { kind := .plain }

/-- The written operators, with the links that they stand for. A label inside has no two dashes in a
row, and does not start like an operator. -/
inductive OperatorText : List Char → Link → Prop where
  | bidirectional {n : Nat} (hn : 2 ≤ n) :
      OperatorText ('<' :: (List.replicate n '-' ++ ['>'])) { kind := .bidirectional }
  | dotted {n : Nat} (hn : 1 ≤ n) :
      OperatorText ('-' :: (List.replicate n '.' ++ ['-', '>'])) { kind := .dotted }
  | dottedLine {n : Nat} (hn : 1 ≤ n) :
      OperatorText ('-' :: (List.replicate n '.' ++ ['-'])) { kind := .dotted, endMarker := .bare }
  | thick {n : Nat} (hn : 2 ≤ n) :
      OperatorText (List.replicate n '=' ++ ['>']) { kind := .thick }
  | thickLine {n : Nat} (hn : 3 ≤ n) :
      OperatorText (List.replicate n '=') { kind := .thick, endMarker := .bare }
  | circled {n : Nat} (hn : 2 ≤ n) :
      OperatorText (List.replicate n '-' ++ ['o']) { kind := .arrow, endMarker := .circle }
  | crossed {n : Nat} (hn : 2 ≤ n) :
      OperatorText (List.replicate n '-' ++ ['x']) { kind := .arrow, endMarker := .cross }
  | dashes {text : List Char} {link : Link} (h : DashesText text link) : OperatorText text link
  | labelled {a b c : Char} {t text : List Char} {label : Option String} {link : Link}
      (ha : isInlineBlank a = true) (hb : isInlineBlank b = true) (hdashes : ¬ ['-', '-'] <:+: t)
      (hc : (skipInlineBlanks t).head? = some c) (hstart : c ≠ '-' ∧ c ≠ '=' ∧ c ≠ '.')
      (hlabel : GivesLabel (trim t) label) (h : DashesText text link) :
      OperatorText ('-' :: '-' :: a :: (t ++ b :: text)) { link with label }

/-- The dashes at the end of a link with a label are at least two. -/
theorem DashesText.exists_eq {text : List Char} {link : Link} (h : DashesText text link) :
    ∃ rest, text = '-' :: '-' :: rest := by
  cases h with
  | arrow hn =>
    obtain ⟨m, rfl⟩ := Nat.exists_eq_add_of_le' hn
    exact ⟨_, rfl⟩
  | plain hn =>
    obtain ⟨m, rfl⟩ := Nat.exists_eq_add_of_le' (Nat.le_of_succ_le hn)
    exact ⟨_, rfl⟩

/-- An operator starts with a dash, an equals sign or an angle bracket. -/
theorem OperatorText.exists_head {text : List Char} {link : Link} (h : OperatorText text link) :
    ∃ c rest, text = c :: rest ∧ (c = '-' ∨ c = '=' ∨ c = '<') := by
  have hrun {n : Nat} {c : Char} {u : List Char} (hn : 1 ≤ n) :
      ∃ rest, List.replicate n c ++ u = c :: rest := by
    obtain ⟨m, rfl⟩ := Nat.exists_eq_add_of_le' hn
    exact ⟨_, rfl⟩
  cases h with
  | bidirectional => exact ⟨'<', _, rfl, .inr (.inr rfl)⟩
  | dotted | dottedLine | labelled => exact ⟨'-', _, rfl, .inl rfl⟩
  | thick hn =>
    obtain ⟨rest, hrest⟩ := hrun (Nat.le_of_succ_le hn)
    exact ⟨'=', rest, hrest, .inr (.inl rfl)⟩
  | thickLine hn =>
    obtain ⟨rest, hrest⟩ := hrun (Nat.le_of_succ_le (Nat.le_of_succ_le hn))
    exact ⟨'=', rest, (List.append_nil _).symm.trans hrest, .inr (.inl rfl)⟩
  | circled hn | crossed hn =>
    obtain ⟨rest, hrest⟩ := hrun (Nat.le_of_succ_le hn)
    exact ⟨'-', rest, hrest, .inl rfl⟩
  | dashes h =>
    obtain ⟨rest, rfl⟩ := h.exists_eq
    exact ⟨'-', _, rfl, .inl rfl⟩

/-- What may follow an operator: nothing, a blank or a bar. -/
def EndsOperator (s : List Char) : Prop :=
  ∀ c ∈ s.head?, c = ' ' ∨ c = '\t' ∨ c = '|'

theorem endsOperator_of_isInlineBlank {c : Char} (h : isInlineBlank c = true) :
    c = ' ' ∨ c = '\t' ∨ c = '|' := by
  rw [isInlineBlank, Bool.or_eq_true, beq_iff_eq, beq_iff_eq] at h
  exact h.imp_right .inl

theorem EndsOperator.head?_ne {s : List Char} (h : EndsOperator s) {c : Char}
    (hc : c ≠ ' ' ∧ c ≠ '\t' ∧ c ≠ '|') : s.head? ≠ some c := by
  intro hs
  rcases h c hs with rfl | rfl | rfl
  · exact hc.1 rfl
  · exact hc.2.1 rfl
  · exact hc.2.2 rfl

theorem EndsOperator.word_eq_nil {s : List Char} (h : EndsOperator s) : word s = [] := by
  refine takeWhile_eq_nil fun c hc => isWordChar_eq_false_of_mem ?_
  rcases h c hc with rfl | rfl | rfl <;> decide

/-! ## Which operators can be read -/

/-- Only one operator starts with an angle bracket. -/
theorem readLink?_less (s : List Char) :
    readLink? ('<' :: s) = bidirectionalOperator.read? ('<' :: s) := by
  simp [readLink?, commonOperators, findSome?_cons_or, readTipped?, tippedOperators,
    bidirectionalOperator, dottedOperator, dottedLineOperator, thickOperator, thickLineOperator,
    arrowOperator, circledOperator, crossedOperator, plainOperator, readLabelled?, Operator.read?,
    Piece.after?, afterStart?]

/-- Two operators have points behind their first dash. -/
theorem readLink?_dot (s : List Char) :
    readLink? ('-' :: '.' :: s) =
      (dottedOperator.read? ('-' :: '.' :: s)).or (dottedLineOperator.read? ('-' :: '.' :: s)) := by
  simp [readLink?, commonOperators, findSome?_cons_or, readTipped?, tippedOperators,
    bidirectionalOperator, dottedOperator, dottedLineOperator, thickOperator, thickLineOperator,
    arrowOperator, circledOperator, crossedOperator, plainOperator, readLabelled?, Operator.read?,
    Piece.after?, afterStart?]

/-- Two operators start with equals signs. -/
theorem readLink?_equals (s : List Char) :
    readLink? ('=' :: '=' :: s) =
      (thickOperator.read? ('=' :: '=' :: s)).or (thickLineOperator.read? ('=' :: '=' :: s)) := by
  simp [readLink?, commonOperators, findSome?_cons_or, readTipped?, tippedOperators,
    bidirectionalOperator, dottedOperator, dottedLineOperator, thickOperator, thickLineOperator,
    arrowOperator, circledOperator, crossedOperator, plainOperator, readLabelled?, Operator.read?,
    Piece.after?, afterStart?]

/-- The other operators start with two dashes. -/
theorem readLink?_dashes (s : List Char) :
    readLink? ('-' :: '-' :: s) =
      (arrowOperator.read? ('-' :: '-' :: s)).or ((readTipped? ('-' :: '-' :: s)).or
        ((plainOperator.read? ('-' :: '-' :: s)).or (readLabelled? ('-' :: '-' :: s)))) := by
  simp [readLink?, commonOperators, findSome?_cons_or, bidirectionalOperator, dottedOperator,
    dottedLineOperator, thickOperator, thickLineOperator, Operator.read?, Piece.after?, afterStart?]

section Repeated

variable {n : Nat}

theorem readLink?_replicate_dots (hn : 1 ≤ n) (s : List Char) :
    readLink? ('-' :: (List.replicate n '.' ++ s)) =
      (dottedOperator.read? ('-' :: (List.replicate n '.' ++ s))).or
        (dottedLineOperator.read? ('-' :: (List.replicate n '.' ++ s))) := by
  obtain ⟨m, rfl⟩ := Nat.exists_eq_add_of_le' hn
  exact readLink?_dot (List.replicate m '.' ++ s)

theorem readLink?_replicate_equals (hn : 2 ≤ n) (s : List Char) :
    readLink? (List.replicate n '=' ++ s) =
      (thickOperator.read? (List.replicate n '=' ++ s)).or
        (thickLineOperator.read? (List.replicate n '=' ++ s)) := by
  obtain ⟨m, rfl⟩ := Nat.exists_eq_add_of_le' hn
  exact readLink?_equals (List.replicate m '=' ++ s)

theorem readLink?_replicate_dashes (hn : 2 ≤ n) (s : List Char) :
    readLink? (List.replicate n '-' ++ s) =
      (arrowOperator.read? (List.replicate n '-' ++ s)).or
        ((readTipped? (List.replicate n '-' ++ s)).or
          ((plainOperator.read? (List.replicate n '-' ++ s)).or
            (readLabelled? (List.replicate n '-' ++ s)))) := by
  obtain ⟨m, rfl⟩ := Nat.exists_eq_add_of_le' hn
  exact readLink?_dashes (List.replicate m '-' ++ s)

theorem readTipped?_eq (s : List Char) :
    readTipped? s =
      ((circledOperator.read? s).or (crossedOperator.read? s)).filter
        fun r => (word r.2).isEmpty := by
  rw [readTipped?, tippedOperators, findSome?_cons_or, findSome?_cons_or, List.findSome?_nil,
    Option.or_none]

/-- Dashes with neither tip behind them. -/
theorem readTipped?_eq_none {s : List Char} (hn : 2 ≤ n) (hdash : s.head? ≠ some '-')
    (ho : s.head? ≠ some 'o') (hx : s.head? ≠ some 'x') :
    readTipped? (List.replicate n '-' ++ s) = none := by
  have hcircle : circledOperator.read? (List.replicate n '-' ++ s) = none :=
    Operator.read?_tip_eq_none hn hdash (afterStart?_eq_none_of_head? ho)
  have hcross : crossedOperator.read? (List.replicate n '-' ++ s) = none :=
    Operator.read?_tip_eq_none hn hdash (afterStart?_eq_none_of_head? hx)
  rw [readTipped?_eq, hcircle, hcross]
  rfl

theorem readLink?_dotted (hn : 1 ≤ n) (s : List Char) :
    readLink? ('-' :: (List.replicate n '.' ++ '-' :: '>' :: s)) =
      some (dottedOperator.link, s) := by
  have hread : dottedOperator.read? ('-' :: (List.replicate n '.' ++ '-' :: '>' :: s)) =
      some (dottedOperator.link, s) :=
    (Operator.read?_fixed ['-']).trans (Operator.read?_tip hn (by decide))
  rw [readLink?_replicate_dots hn, hread]
  rfl

theorem readLink?_thick (hn : 2 ≤ n) (s : List Char) :
    readLink? (List.replicate n '=' ++ '>' :: s) = some (thickOperator.link, s) := by
  have hread : thickOperator.read? (List.replicate n '=' ++ '>' :: s) =
      some (thickOperator.link, s) := Operator.read?_tip hn (by decide)
  rw [readLink?_replicate_equals hn, hread]
  rfl

end Repeated

/-! ## Labels inside operators -/

/-- A text without two dashes in a row, and with another character behind it, is left before
dashes. -/
theorem untilDashes?_append {t : List Char} (h : ¬ ['-', '-'] <:+: t) {b : Char} (hb : b ≠ '-')
    (s : List Char) :
    untilDashes? (t ++ b :: '-' :: '-' :: s) = some (t ++ [b], '-' :: '-' :: s) := by
  induction t with
  | nil => simp [untilDashes?, Ne.symm hb]
  | cons c t ih =>
    have ht : ¬ ['-', '-'] <:+: t := fun hin => h (List.infix_cons hin)
    have hfront : ¬ ['-', '-'] <+: c :: (t ++ b :: '-' :: '-' :: s) := by
      intro hprefix
      obtain ⟨rfl, hnext⟩ := List.cons_prefix_cons.1 hprefix
      cases t with
      | nil => exact hb (List.cons_prefix_cons.1 hnext).1.symm
      | cons d t =>
        obtain ⟨rfl, -⟩ := List.cons_prefix_cons.1 hnext
        exact h ⟨[], t, rfl⟩
    rw [← List.isPrefixOf_iff_prefix] at hfront
    rw [List.cons_append, untilDashes?, if_neg hfront, ih ht]
    rfl

section Follow

variable {s : List Char} (hs : EndsOperator s)

include hs

theorem readArrow?_eq_none {n : Nat} (hn : 2 ≤ n) :
    arrowOperator.read? (List.replicate n '-' ++ s) = none :=
  Operator.read?_tip_eq_none hn (hs.head?_ne (by decide))
    (afterStart?_eq_none_of_head? (hs.head?_ne (by decide)))

theorem readLabelEnd?_dashesText {text : List Char} {link : Link} (h : DashesText text link) :
    readLabelEnd? (text ++ s) = some (link, s) := by
  cases h with
  | arrow hn =>
    have hread : arrowOperator.read? (List.replicate _ '-' ++ '>' :: s) = some (_, s) :=
      Operator.read?_tip hn (by decide)
    rw [List.append_assoc, List.singleton_append, readLabelEnd?, hread]
    rfl
  | plain hn =>
    have hread : plainOperator.read? (List.replicate _ '-' ++ s) = some (_, s) :=
      Operator.read?_run hn (hs.head?_ne (by decide))
    rw [readLabelEnd?, readArrow?_eq_none hs (Nat.le_of_succ_le hn), hread]
    rfl

theorem readLabelled?_append {a b c : Char} {t text : List Char} {label : Option String}
    {link : Link} (ha : isInlineBlank a = true) (hb : isInlineBlank b = true)
    (hdashes : ¬ ['-', '-'] <:+: t) (hc : (skipInlineBlanks t).head? = some c)
    (hstart : c ≠ '-' ∧ c ≠ '=' ∧ c ≠ '.') (hlabel : GivesLabel (trim t) label)
    (h : DashesText text link) :
    readLabelled? ('-' :: '-' :: a :: (t ++ b :: (text ++ s))) = some ({ link with label }, s) := by
  obtain ⟨u, hu⟩ : ∃ u, skipInlineBlanks t = c :: u := by
    cases hskip : skipInlineBlanks t with
    | nil =>
      rw [hskip] at hc
      cases hc
    | cons d u =>
      rw [hskip] at hc
      cases hc
      exact ⟨u, rfl⟩
  have hskip : skipInlineBlanks (a :: (t ++ b :: (text ++ s))) = c :: u ++ b :: (text ++ s) := by
    rw [skipInlineBlanks, List.dropWhile_cons, if_pos ha, List.dropWhile_append]
    show (if (skipInlineBlanks t).isEmpty = true then _ else skipInlineBlanks t ++ _) = _
    rw [hu]
    rfl
  have hafter : afterStart? ['-', '-'] ('-' :: '-' :: a :: (t ++ b :: (text ++ s))) =
      some (a :: (t ++ b :: (text ++ s))) := rfl
  have hhead : ((c :: u ++ b :: (text ++ s)).head?.any
      fun c => c == '-' || c == '=' || c == '.') = false := by
    simp [hstart]
  have hrest : untilDashes? (c :: u ++ b :: (text ++ s)) = some (c :: u ++ [b], text ++ s) := by
    obtain ⟨rest, rfl⟩ := h.exists_eq
    -- the blank `b` keeps a dash at the end of the label apart from the others
    refine untilDashes?_append (fun hin => hdashes ?_) ?_ _
    · rw [← hu] at hin
      exact hin.trans (List.dropWhile_suffix _).isInfix
    · rintro rfl
      cases hb
  simp only [readLabelled?, hafter, hskip, hhead, hrest, readLabelEnd?_dashesText hs h,
    Option.map_some, Bool.false_eq_true, if_false]
  rw [← hu, trim_append_blank (isBlank_of_isInlineBlank hb), trim_skipInlineBlanks,
    hlabel.nonEmptyLabel_eq]

/-! ## Reading written operators -/

theorem readLink?_dashesText {text : List Char} {link : Link} (h : DashesText text link) :
    readLink? (text ++ s) = some (link, s) := by
  cases h with
  | arrow hn =>
    have hread : arrowOperator.read? (List.replicate _ '-' ++ '>' :: s) = some (_, s) :=
      Operator.read?_tip hn (by decide)
    rw [List.append_assoc, List.singleton_append, readLink?_replicate_dashes hn, hread]
    rfl
  | plain hn =>
    have hread : plainOperator.read? (List.replicate _ '-' ++ s) = some (_, s) :=
      Operator.read?_run hn (hs.head?_ne (by decide))
    have hn' := Nat.le_of_succ_le hn
    rw [readLink?_replicate_dashes hn', readArrow?_eq_none hs hn',
      readTipped?_eq_none hn' (hs.head?_ne (by decide)) (hs.head?_ne (by decide))
        (hs.head?_ne (by decide)), hread]
    rfl

theorem readLink?_circled {n : Nat} (hn : 2 ≤ n) :
    readLink? (List.replicate n '-' ++ 'o' :: s) = some (circledOperator.link, s) := by
  have harrow : arrowOperator.read? (List.replicate n '-' ++ 'o' :: s) = none :=
    Operator.read?_tip_eq_none hn (by simp) rfl
  have hcircle : circledOperator.read? (List.replicate n '-' ++ 'o' :: s) =
      some (circledOperator.link, s) := Operator.read?_tip hn (by decide)
  rw [readLink?_replicate_dashes hn, harrow, readTipped?_eq, hcircle]
  simp only [Option.some_or, Option.none_or, Option.filter_some, hs.word_eq_nil, List.isEmpty_nil,
    if_true]

theorem readLink?_crossed {n : Nat} (hn : 2 ≤ n) :
    readLink? (List.replicate n '-' ++ 'x' :: s) = some (crossedOperator.link, s) := by
  have harrow : arrowOperator.read? (List.replicate n '-' ++ 'x' :: s) = none :=
    Operator.read?_tip_eq_none hn (by simp) rfl
  have hcircle : circledOperator.read? (List.replicate n '-' ++ 'x' :: s) = none :=
    Operator.read?_tip_eq_none hn (by simp) rfl
  have hcross : crossedOperator.read? (List.replicate n '-' ++ 'x' :: s) =
      some (crossedOperator.link, s) := Operator.read?_tip hn (by decide)
  rw [readLink?_replicate_dashes hn, harrow, readTipped?_eq, hcircle, hcross]
  simp only [Option.some_or, Option.none_or, Option.filter_some, hs.word_eq_nil, List.isEmpty_nil,
    if_true]

theorem readLink?_dottedLine {n : Nat} (hn : 1 ≤ n) :
    readLink? ('-' :: (List.replicate n '.' ++ '-' :: s)) = some (dottedLineOperator.link, s) := by
  have htip : afterStart? ['>'] s = none :=
    afterStart?_eq_none_of_head? (hs.head?_ne (by decide))
  have harrow : dottedOperator.read? ('-' :: (List.replicate n '.' ++ '-' :: s)) = none :=
    (Operator.read?_fixed ['-']).trans (Operator.read?_tip_eq_none hn (by simp) htip)
  have hread : dottedLineOperator.read? ('-' :: (List.replicate n '.' ++ '-' :: s)) =
      some (dottedLineOperator.link, s) :=
    (Operator.read?_fixed ['-']).trans (Operator.read?_tip hn (by decide))
  rw [readLink?_replicate_dots hn, harrow, hread]
  rfl

theorem readLink?_thickLine {n : Nat} (hn : 3 ≤ n) :
    readLink? (List.replicate n '=' ++ s) = some (thickLineOperator.link, s) := by
  have hn' : 2 ≤ n := Nat.le_of_succ_le hn
  have harrow : thickOperator.read? (List.replicate n '=' ++ s) = none :=
    Operator.read?_tip_eq_none hn' (hs.head?_ne (by decide))
      (afterStart?_eq_none_of_head? (hs.head?_ne (by decide)))
  have hread : thickLineOperator.read? (List.replicate n '=' ++ s) =
      some (thickLineOperator.link, s) := Operator.read?_run hn (hs.head?_ne (by decide))
  rw [readLink?_replicate_equals hn', harrow, hread]
  rfl

/-- A written operator is read as a whole, and as the link that it stands for. -/
theorem readLink?_operatorText {text : List Char} {link : Link} (h : OperatorText text link) :
    readLink? (text ++ s) = some (link, s) := by
  cases h with
  | dashes h => exact readLink?_dashesText hs h
  | bidirectional hn =>
    rw [List.cons_append, List.append_assoc, readLink?_less]
    exact Operator.read?_tip hn (by decide)
  | dotted hn =>
    rw [List.cons_append, List.append_assoc]
    exact readLink?_dotted hn s
  | dottedLine hn =>
    rw [List.cons_append, List.append_assoc]
    exact readLink?_dottedLine hs hn
  | thick hn =>
    rw [List.append_assoc]
    exact readLink?_thick hn s
  | thickLine hn => exact readLink?_thickLine hs hn
  | circled hn =>
    rw [List.append_assoc]
    exact readLink?_circled hs hn
  | crossed hn =>
    rw [List.append_assoc]
    exact readLink?_crossed hs hn
  | @labelled a b c t text label link ha hb hdashes hc hstart hlabel h =>
    have htext : '-' :: '-' :: a :: (t ++ b :: text) ++ s =
        '-' :: '-' :: a :: (t ++ b :: (text ++ s)) := by
      simp only [List.cons_append, List.append_assoc]
    -- a blank behind two dashes, with which no other operator goes on
    have hfirst (d : Char) (hd : isInlineBlank d = false) :
        (a :: (t ++ b :: (text ++ s))).head? ≠ some d := by
      rintro ⟨⟩
      rw [ha] at hd
      cases hd
    have harrow : arrowOperator.read? (List.replicate 2 '-' ++ a :: (t ++ b :: (text ++ s))) =
        none :=
      Operator.read?_tip_eq_none (Nat.le_refl 2) (hfirst '-' rfl)
        (afterStart?_eq_none_of_head? (hfirst '>' rfl))
    have htipped : readTipped? (List.replicate 2 '-' ++ a :: (t ++ b :: (text ++ s))) = none :=
      readTipped?_eq_none (Nat.le_refl 2) (hfirst '-' rfl) (hfirst 'o' rfl) (hfirst 'x' rfl)
    have hplain : plainOperator.read? (List.replicate 2 '-' ++ a :: (t ++ b :: (text ++ s))) =
        none := Operator.read?_run_eq_none (by decide) (hfirst '-' rfl)
    rw [htext]
    show readLink? (List.replicate 2 '-' ++ a :: (t ++ b :: (text ++ s))) = _
    rw [readLink?_replicate_dashes (Nat.le_refl 2), harrow, htipped, hplain]
    exact readLabelled?_append hs ha hb hdashes hc hstart hlabel h

end Follow

end FlowchartLayout.Source
