import FlowchartLayout.Proofs.Source.Brackets
import FlowchartLayout.Proofs.Source.DraftInvariant
import FlowchartLayout.Proofs.Source.Keywords
import FlowchartLayout.Proofs.Source.Operators

/-!
# Chains of links

A line that names a node and links it to further nodes, and those to others, adds exactly the edges
that it shows: for each link in turn, each of its targets is connected to all of its sources.

## Main definitions

- `Leg` — a link with the ids that it leads to
- `chainEdges` — the edges that a chain of legs stands for
- `Unquotes` — a text between bars, without the quotes around it
- `MentionText`, `TargetsText`, `LegText` — the parts of a written chain
- `ChainText` — a written chain

## Main statements

- `edges_follow` — following hops adds the edges of their legs
- `edges_readLine_chainText` — a line with a written chain adds the edges of the chain
-/

namespace FlowchartLayout.Source

/-! ## The edges of a chain -/

/-- A link with the ids that it leads to. -/
structure Leg where
  link : Link
  targets : List String

/-- What a hop says apart from the definitions of its targets. -/
def Hop.leg (hop : Hop) : Leg :=
  ⟨hop.link, hop.targets.map (·.id)⟩

def Link.edge (link : Link) (source target : String) : Edge :=
  { source, target, label := link.label, kind := link.kind
    startMarker := link.startMarker, endMarker := link.endMarker }

/-- One edge from each source to each target, target by target. -/
def legEdges (sources : List String) (leg : Leg) : List Edge :=
  leg.targets.flatMap fun target => sources.map fun source => leg.link.edge source target

/-- The edges of all legs; each leg starts where the one before it ends. -/
def chainEdges (sources : List String) : List Leg → List Edge
  | [] => []
  | leg :: legs => legEdges sources leg ++ chainEdges leg.targets legs

theorem edges_mention (d : Draft) (id : String) :
    (d.mention id).flowchart.edges = d.flowchart.edges := by
  rcases d.mention_cases id with ⟨i, h, -⟩ | ⟨h, -⟩ | ⟨h, -⟩
  · rw [h]
    rfl
  · rw [h]
  · rw [h]
    rfl

theorem edges_define (d : Draft) (id : String) (definition : NodeShape) :
    (d.define id definition).flowchart.edges = d.flowchart.edges := by
  rw [← edges_mention d id]
  rcases d.define_cases id definition with h | ⟨i, label, h⟩
  · rw [h]
  · rw [h]
    rfl

theorem edges_connect (d : Draft) (link : Link) (source target : String) :
    (d.connect link source target).flowchart.edges =
      d.flowchart.edges ++ [link.edge source target] := by
  rw [← edges_mention d target]
  rfl

theorem edges_connectSources (d : Draft) (link : Link) (sources : List String) (target : String) :
    (d.connectSources link sources target).flowchart.edges =
      d.flowchart.edges ++ sources.map fun source => link.edge source target := by
  induction sources generalizing d with
  | nil => exact (List.append_nil _).symm
  | cons source sources ih =>
    have hstep := ih (d.connect link source target)
    rw [edges_connect, List.append_assoc] at hstep
    exact hstep

theorem edges_connectAll (d : Draft) (link : Link) (sources : List String) (target : Mention) :
    (d.connectAll link sources target).flowchart.edges =
      d.flowchart.edges ++ sources.map fun source => link.edge source target.id := by
  rw [← edges_connectSources]
  rcases d.connectAll_cases link sources target with h | ⟨definition, h⟩
  · rw [h]
  · rw [h, edges_define]

theorem edges_connectTargets (d : Draft) (link : Link) (sources : List String)
    (targets : List Mention) :
    (targets.foldl (fun d target => d.connectAll link sources target) d).flowchart.edges =
      d.flowchart.edges ++ legEdges sources ⟨link, targets.map (·.id)⟩ := by
  induction targets generalizing d with
  | nil => exact (List.append_nil _).symm
  | cons target targets ih =>
    rw [List.foldl_cons, ih, edges_connectAll, List.append_assoc]
    rfl

/-- Following hops adds the edges of their legs, behind all others. -/
theorem edges_follow (d : Draft) (sources : List String) (hops : List Hop) :
    (d.follow sources hops).flowchart.edges =
      d.flowchart.edges ++ chainEdges sources (hops.map Hop.leg) := by
  induction hops generalizing d sources with
  | nil => exact (List.append_nil _).symm
  | cons hop hops ih =>
    rw [Draft.follow, ih, edges_connectTargets, List.append_assoc]
    rfl

theorem edges_apply_chain (d : Draft) (first : Mention) (hops : List Hop) :
    (d.apply (.chain first hops)).flowchart.edges =
      d.flowchart.edges ++ chainEdges [first.id] (hops.map Hop.leg) := by
  cases hdef : first.definition with
  | some definition => simp only [Draft.apply, hdef, edges_follow, edges_define]
  | none => simp only [Draft.apply, hdef, edges_follow, edges_mention]

/-! ## Written chains -/

/-- The first words of lines that are no chains. -/
def statementKeywords : List String :=
  ["subgraph", "end", "style", "classdef", "class", "linkstyle", "click", "direction"]

/-- What a text is without the quotes around it, if it has both of them. -/
inductive Unquotes : List Char → List Char → Prop where
  | quoted (t : List Char) : Unquotes ('"' :: (t ++ ['"'])) t
  | plain {t : List Char} (h : ∀ u, t ≠ '"' :: (u ++ ['"'])) : Unquotes t t

section Grammar

variable (allow : List Char → Prop)

/-- An identifier, and the closed shape definition that may follow it. -/
inductive MentionText : List Char → String → Prop where
  | bare {w g : List Char} (hw : IsIdentifier w) (hg : IsGap g) :
      MentionText (w ++ g) (String.ofList w)
  | shaped {w g text g' : List Char} (hw : IsIdentifier w) (hg : IsGap g)
      (htext : ShapeText allow text) (hg' : IsGap g') :
      MentionText (w ++ (g ++ (text ++ g'))) (String.ofList w)

/-- Mentions with ampersands between them. -/
inductive TargetsText : List Char → List String → Prop where
  | single {text : List Char} {id : String} (h : MentionText allow text id) :
      TargetsText text [id]
  | cons {text g texts : List Char} {id : String} {ids : List String}
      (h : MentionText allow text id) (hg : IsGap g) (hrest : TargetsText texts ids) :
      TargetsText (text ++ '&' :: (g ++ texts)) (id :: ids)

/-- An operator, the label between bars that may follow it, and the targets. A label between bars is
trimmed, loses the quotes around it, and takes the place of a label inside the operator. Without it
there is a blank before the targets. -/
inductive LegText : List Char → Leg → Prop where
  | bare {o g texts : List Char} {link : Link} {ids : List String} (ho : OperatorText o link)
      (hg : IsGap g) (hne : g ≠ []) (htargets : TargetsText allow texts ids) :
      LegText (o ++ (g ++ texts)) ⟨link, ids⟩
  | piped {o g t u g' texts : List Char} {link : Link} {label : Option String} {ids : List String}
      (ho : OperatorText o link) (hg : IsGap g) (ht : '|' ∉ t) (hquotes : Unquotes (trim t) u)
      (hlabel : GivesLabel u label) (hg' : IsGap g') (htargets : TargetsText allow texts ids) :
      LegText (o ++ (g ++ '|' :: (t ++ '|' :: (g' ++ texts)))) ⟨{ link with label }, ids⟩

/-- Legs one after another. -/
inductive LegsText : List Char → List Leg → Prop where
  | nil : LegsText [] []
  | cons {text texts : List Char} {leg : Leg} {legs : List Leg} (h : LegText allow text leg)
      (hrest : LegsText texts legs) : LegsText (text ++ texts) (leg :: legs)

/-- A node, and at least one leg that leads on from it. The node is no keyword. -/
inductive ChainText : List Char → String → List Leg → Prop where
  | mk {text texts : List Char} {id : String} {legs : List Leg} (h : MentionText allow text id)
      (hword : String.ofList (id.toList.map Char.toLower) ∉ statementKeywords)
      (hlegs : LegsText allow texts legs) (hne : legs ≠ []) : ChainText (text ++ texts) id legs

end Grammar

/-! ## Reading mentions -/

/-- What may follow the targets of a link: nothing, or another operator. -/
def EndsTargets (s : List Char) : Prop :=
  ∀ c ∈ s.head?, c = '-' ∨ c = '=' ∨ c = '<'

/-- What may follow a mention: nothing, an ampersand, or an operator. -/
def EndsMention (s : List Char) : Prop :=
  ∀ c ∈ s.head?, c = '&' ∨ c = '-' ∨ c = '=' ∨ c = '<'

theorem EndsTargets.endsMention {s : List Char} (hs : EndsTargets s) : EndsMention s :=
  fun c hc => .inr (hs c hc)

section EndsMention

variable {s : List Char} (hs : EndsMention s)

include hs

theorem EndsMention.skipInlineBlanks_eq : skipInlineBlanks s = s := by
  refine skipInlineBlanks_eq_self fun c hc => ?_
  rcases hs c hc with rfl | rfl | rfl | rfl <;> rfl

theorem EndsMention.startsShape_eq : startsShape s = false := by
  cases s with
  | nil => rfl
  | cons c s => rcases hs c rfl with rfl | rfl | rfl | rfl <;> rfl

theorem EndsMention.isWordChar_eq : ∀ c ∈ s.head?, isWordChar c = false := by
  intro c hc
  refine isWordChar_eq_false_of_mem ?_
  rcases hs c hc with rfl | rfl | rfl | rfl <;> decide

end EndsMention

section ShapeText

variable {allow : List Char → Prop} {text : List Char} (h : ShapeText allow text) (s : List Char)

include h

theorem ShapeText.exists_head : ∃ c rest, text ++ s = c :: rest ∧
    (c = '[' ∨ c = '(' ∨ c = '{' ∨ c = '>') := by
  have hstart := h.startsShape s
  cases htext : text ++ s with
  | nil =>
    rw [htext] at hstart
    cases hstart
  | cons c rest =>
    rw [htext] at hstart
    simp only [Source.startsShape, Bool.or_eq_true, beq_iff_eq] at hstart
    exact ⟨c, rest, rfl, by tauto⟩

theorem ShapeText.isWordChar_eq : ∀ c ∈ (text ++ s).head?, isWordChar c = false := by
  obtain ⟨c, rest, hrest, hc⟩ := h.exists_head s
  rw [hrest]
  rintro d ⟨⟩
  refine isWordChar_eq_false_of_mem ?_
  rcases hc with rfl | rfl | rfl | rfl <;> decide

theorem ShapeText.skipInlineBlanks_eq : skipInlineBlanks (text ++ s) = text ++ s := by
  obtain ⟨c, rest, hrest, hc⟩ := h.exists_head s
  rw [hrest]
  refine skipInlineBlanks_eq_self ?_
  rintro d ⟨⟩
  rcases hc with rfl | rfl | rfl | rfl <;> rfl

end ShapeText

/-- A mention is read as a whole. -/
theorem readAfterWord_mentionText {text s : List Char} {id : String}
    (h : MentionText Slashless text id) (hs : EndsMention s) :
    ∃ w, IsIdentifier w ∧ id = String.ofList w ∧ word (text ++ s) = w ∧
      (readAfterWord (text ++ s)).2 = s := by
  cases h with
  | @bare w g hw hg =>
    have hend := isWordChar_head?_gap hg hs.isWordChar_eq
    refine ⟨w, hw, rfl, ?_, ?_⟩
    · rw [List.append_assoc, word_append hw hend]
    · rw [List.append_assoc, readAfterWord, afterWord_append hw hend, skipInlineBlanks_gap hg,
        hs.skipInlineBlanks_eq, readDefinition, readShape?_eq_none hs.startsShape_eq]
  | @shaped w g shape g' hw hg hshape hg' =>
    have hend := isWordChar_head?_gap hg (hshape.isWordChar_eq (g' ++ s))
    have htext : w ++ (g ++ (shape ++ g')) ++ s = w ++ (g ++ (shape ++ (g' ++ s))) := by
      simp only [List.append_assoc]
    obtain ⟨definition, hread⟩ := readShape?_shapeText hshape (g' ++ s)
    refine ⟨w, hw, rfl, ?_, ?_⟩
    · rw [htext, word_append hw hend]
    · rw [htext, readAfterWord, afterWord_append hw hend, skipInlineBlanks_gap hg,
        hshape.skipInlineBlanks_eq, readDefinition, hread]
      exact (skipInlineBlanks_gap hg' s).trans hs.skipInlineBlanks_eq

/-- A mention starts with a word character. -/
theorem MentionText.exists_head {allow : List Char → Prop} {text : List Char} {id : String}
    (h : MentionText allow text id) : ∃ c rest, text = c :: rest ∧ isWordChar c = true := by
  cases h with
  | bare hw =>
    obtain ⟨c, w, rfl⟩ := List.exists_cons_of_ne_nil hw.ne_nil
    exact ⟨c, _, rfl, hw.isWordChar c List.mem_cons_self⟩
  | shaped hw =>
    obtain ⟨c, w, rfl⟩ := List.exists_cons_of_ne_nil hw.ne_nil
    exact ⟨c, _, rfl, hw.isWordChar c List.mem_cons_self⟩

theorem TargetsText.exists_head {allow : List Char → Prop} {texts : List Char} {ids : List String}
    (h : TargetsText allow texts ids) : ∃ c rest, texts = c :: rest ∧ isWordChar c = true := by
  cases h with
  | single h => exact h.exists_head
  | cons h =>
    obtain ⟨c, rest, rfl, hc⟩ := h.exists_head
    exact ⟨c, _, rfl, hc⟩

/-! ## Reading targets -/

section ReadTargets

variable {s first rest : List Char}

/-- A target with an ampersand behind it. -/
theorem readTargets_of_amp (hfirst : skipInlineBlanks s = first) (hword : word first ≠ [])
    (hrest : (readAfterWord first).2 = '&' :: rest) :
    readTargets s = (⟨String.ofList (word first), (readAfterWord first).1⟩ :: (readTargets rest).1,
      (readTargets rest).2) := by
  subst hfirst
  rw [readTargets]
  simp only [dif_neg hword]
  split
  · next rest' hrest' =>
    rw [hrest] at hrest'
    cases hrest'
    rfl
  · next hne => exact absurd hrest (hne rest)

/-- The last target. -/
theorem readTargets_of_end (hfirst : skipInlineBlanks s = first) (hword : word first ≠ [])
    (hrest : (readAfterWord first).2 = rest) (hend : rest.head? ≠ some '&') :
    readTargets s = ([⟨String.ofList (word first), (readAfterWord first).1⟩], rest) := by
  subst hfirst hrest
  rw [readTargets]
  simp only [dif_neg hword]
  split
  · next rest' hrest' =>
    rw [hrest'] at hend
    exact absurd rfl hend
  · rfl

end ReadTargets

/-- Targets are read as a whole. -/
theorem readTargets_targetsText {texts : List Char} {ids : List String}
    (h : TargetsText Slashless texts ids) {g s : List Char} (hg : IsGap g) (hs : EndsTargets s) :
    (readTargets (g ++ (texts ++ s))).1.map (·.id) = ids ∧
      (readTargets (g ++ (texts ++ s))).2 = s := by
  induction h generalizing g with
  | @single text id h =>
    obtain ⟨w, hw, rfl, hword, hrest⟩ := readAfterWord_mentionText h hs.endsMention
    have hfirst := skipInlineBlanks_gap_word hg h.exists_head s
    have hend : s.head? ≠ some '&' := by
      intro hamp
      rcases hs '&' hamp with h | h | h <;> cases h
    rw [readTargets_of_end hfirst (by rw [hword]; exact hw.ne_nil) hrest hend, hword]
    exact ⟨rfl, rfl⟩
  | @cons text g' texts id ids h hg' _ ih =>
    have hamp : EndsMention ('&' :: (g' ++ (texts ++ s))) := by
      rintro c ⟨⟩
      exact .inl rfl
    obtain ⟨w, hw, rfl, hword, hrest⟩ := readAfterWord_mentionText h hamp
    have htext : text ++ '&' :: (g' ++ texts) ++ s = text ++ '&' :: (g' ++ (texts ++ s)) := by
      simp only [List.append_assoc, List.cons_append]
    have hfirst := skipInlineBlanks_gap_word hg h.exists_head ('&' :: (g' ++ (texts ++ s)))
    rw [htext, readTargets_of_amp hfirst (by rw [hword]; exact hw.ne_nil) hrest, hword]
    -- the other targets begin behind the ampersand
    obtain ⟨hids, hs'⟩ := ih hg'
    exact ⟨congrArg (String.ofList w :: ·) hids, hs'⟩

/-! ## Reading legs -/

section ReadHops

variable {s rest : List Char} {link : Link}

theorem readHops_of_none (h : readLinkWithLabel? (skipInlineBlanks s) = none) :
    readHops s = [] := by
  rw [readHops]
  split
  · rfl
  · next hlink =>
    rw [h] at hlink
    cases hlink

theorem readHops_of_some (h : readLinkWithLabel? (skipInlineBlanks s) = some (link, rest))
    (hne : (readTargets rest).1 ≠ []) :
    readHops s = ⟨link, (readTargets rest).1⟩ :: readHops (readTargets rest).2 := by
  have hnonempty : (readTargets rest).1.isEmpty = false := by
    rw [← Bool.not_eq_true, List.isEmpty_iff]
    exact hne
  rw [readHops]
  split
  · next hlink =>
    rw [h] at hlink
    cases hlink
  · next link' rest' hlink =>
    rw [h] at hlink
    cases hlink
    simp only [hnonempty, Bool.false_eq_true, if_false]

end ReadHops

theorem LegText.exists_head {allow : List Char → Prop} {text : List Char} {leg : Leg}
    (h : LegText allow text leg) :
    ∃ c rest, text = c :: rest ∧ (c = '-' ∨ c = '=' ∨ c = '<') := by
  cases h with
  | bare ho =>
    obtain ⟨c, rest, rfl, hc⟩ := ho.exists_head
    exact ⟨c, _, rfl, hc⟩
  | piped ho =>
    obtain ⟨c, rest, rfl, hc⟩ := ho.exists_head
    exact ⟨c, _, rfl, hc⟩

theorem LegText.endsTargets {allow : List Char → Prop} {text : List Char} {leg : Leg}
    (h : LegText allow text leg) (s : List Char) : EndsTargets (text ++ s) := by
  obtain ⟨c, rest, rfl, hc⟩ := h.exists_head
  rintro d ⟨⟩
  exact hc

theorem LegsText.endsTargets {allow : List Char → Prop} {texts : List Char} {legs : List Leg}
    (h : LegsText allow texts legs) : EndsTargets texts := by
  cases h with
  | nil =>
    rintro c ⟨⟩
  | cons h => exact h.endsTargets _

theorem LegsText.startsLink {allow : List Char → Prop} {texts : List Char} {legs : List Leg}
    (h : LegsText allow texts legs) (hne : legs ≠ []) : startsLink texts = true := by
  cases h with
  | nil => exact absurd rfl hne
  | cons h =>
    obtain ⟨c, rest, rfl, hc⟩ := h.exists_head
    rcases hc with rfl | rfl | rfl <;> rfl

theorem TargetsText.ids_ne_nil {allow : List Char → Prop} {texts : List Char} {ids : List String}
    (h : TargetsText allow texts ids) : ids ≠ [] := by
  cases h <;> exact List.cons_ne_nil _ _

theorem LegText.targets_ne_nil {allow : List Char → Prop} {text : List Char} {leg : Leg}
    (h : LegText allow text leg) : leg.targets ≠ [] := by
  cases h with
  | bare _ _ _ htargets => exact htargets.ids_ne_nil
  | piped _ _ _ _ _ _ htargets => exact htargets.ids_ne_nil

theorem Unquotes.unquoted_eq {t u : List Char} (h : Unquotes t u) : unquoted t = u := by
  cases h with
  | quoted =>
    have hlast : (u ++ ['"']).getLast? = some '"' := List.getLast?_concat
    rw [unquoted, if_pos hlast, List.dropLast_concat]
  | plain h =>
    unfold unquoted
    split
    · next inside =>
      refine if_neg fun hlast => ?_
      obtain ⟨u, rfl⟩ := List.getLast?_eq_some_iff.1 hlast
      exact h u rfl
    · rfl

theorem readPipeLabel?_append {t u : List Char} {label : Option String} (ht : '|' ∉ t)
    (hquotes : Unquotes (trim t) u) (hlabel : GivesLabel u label) (s : List Char) :
    readPipeLabel? ('|' :: (t ++ '|' :: s)) = some (label, s) := by
  have hrun : ∀ c ∈ t, (c != '|') = true := fun c hc => bne_iff_ne.2 fun h => ht (h ▸ hc)
  have hend : ∀ c ∈ ('|' :: s).head?, (c != '|') = false := by
    rintro c ⟨⟩
    rfl
  rw [readPipeLabel?, takeWhile_run hrun hend, dropWhile_run hrun hend, hquotes.unquoted_eq,
    hlabel.nonEmptyLabel_eq]

/-- A leg is read as a whole: first its link, with either label, and then its targets. -/
theorem readLinkWithLabel?_legText {text : List Char} {leg : Leg} (h : LegText Slashless text leg)
    {s : List Char} (hs : EndsTargets s) :
    ∃ rest, readLinkWithLabel? (text ++ s) = some (leg.link, rest) ∧
      (readTargets rest).1.map (·.id) = leg.targets ∧ (readTargets rest).2 = s := by
  cases h with
  | @bare o g texts link ids ho hg hne htargets =>
    have hhead := htargets.exists_head
    have hend : EndsOperator (g ++ (texts ++ s)) := by
      obtain ⟨b, g, rfl⟩ := List.exists_cons_of_ne_nil hne
      rintro c ⟨⟩
      exact endsOperator_of_isInlineBlank (hg b List.mem_cons_self)
    have hpipe : readPipeLabel? (texts ++ s) = none := by
      obtain ⟨c, rest, rfl, hc⟩ := hhead
      unfold readPipeLabel?
      split
      · next hbar =>
        cases hbar
        rw [isWordChar_eq_false_of_mem (by decide)] at hc
        cases hc
      · rfl
    have hread := readTargets_targetsText htargets isGap_nil hs
    refine ⟨texts ++ s, ?_, hread⟩
    rw [List.append_assoc, List.append_assoc, readLinkWithLabel?, readLink?_operatorText hend ho]
    simp only [Option.map_some, skipInlineBlanks_gap_word hg hhead, hpipe]
  | @piped o g t u g' texts link label ids ho hg ht hquotes hlabel hg' htargets =>
    have hend : EndsOperator (g ++ '|' :: (t ++ '|' :: (g' ++ (texts ++ s)))) := by
      cases g with
      | nil =>
        rintro c ⟨⟩
        exact .inr (.inr rfl)
      | cons b g =>
        rintro c ⟨⟩
        exact endsOperator_of_isInlineBlank (hg b List.mem_cons_self)
    have hbar : skipInlineBlanks (g ++ '|' :: (t ++ '|' :: (g' ++ (texts ++ s)))) =
        '|' :: (t ++ '|' :: (g' ++ (texts ++ s))) := skipInlineBlanks_gap hg _
    have htext : o ++ (g ++ '|' :: (t ++ '|' :: (g' ++ texts))) ++ s =
        o ++ (g ++ '|' :: (t ++ '|' :: (g' ++ (texts ++ s)))) := by
      simp only [List.append_assoc, List.cons_append]
    refine ⟨g' ++ (texts ++ s), ?_, readTargets_targetsText htargets hg' hs⟩
    rw [htext, readLinkWithLabel?, readLink?_operatorText hend ho]
    simp only [Option.map_some, hbar, readPipeLabel?_append ht hquotes hlabel]

/-- Legs are read one after another. -/
theorem readHops_legsText {texts : List Char} {legs : List Leg} (h : LegsText Slashless texts legs)
    {g : List Char} (hg : IsGap g) : (readHops (g ++ texts)).map Hop.leg = legs := by
  induction h generalizing g with
  | nil =>
    have hnone : readLinkWithLabel? (skipInlineBlanks (g ++ [])) = none := by
      rw [skipInlineBlanks_gap hg]
      rfl
    rw [readHops_of_none hnone, List.map_nil]
  | @cons text texts leg legs h hrest ih =>
    -- the targets end where the next leg starts
    obtain ⟨rest, hlink, hids, hend⟩ := readLinkWithLabel?_legText h hrest.endsTargets
    have hskip : skipInlineBlanks (g ++ (text ++ texts)) = text ++ texts := by
      rw [skipInlineBlanks_gap hg]
      exact (h.endsTargets texts).endsMention.skipInlineBlanks_eq
    have hne : (readTargets rest).1 ≠ [] := by
      intro hnil
      rw [hnil] at hids
      exact h.targets_ne_nil hids.symm
    rw [readHops_of_some (by rw [hskip]; exact hlink) hne, hend, List.map_cons, Hop.leg, hids]
    exact congrArg (leg :: ·) (ih isGap_nil)

/-! ## Reading chains -/

theorem ofWord_of_not_mem {first rest : List Char}
    (h : String.ofList (first.map Char.toLower) ∉ statementKeywords) :
    Statement.ofWord first rest = readChain first rest := by
  unfold Statement.ofWord
  simp only
  split
  case h_9 => rfl
  all_goals
    next hword =>
      rw [hword] at h
      exact absurd (by decide) h

/-- A line that begins with an identifier is read by it. -/
theorem ofLine_identifier {w s : List Char} (hw : IsIdentifier w)
    (hs : ∀ c ∈ s.head?, isWordChar c = false)
    (hword : String.ofList (w.map Char.toLower) ∉ statementKeywords) :
    Statement.ofLine (w ++ s) = readChain w s := by
  rw [ofLine_append hw hs, ofWord_of_not_mem hword]

/-- A written chain is read as a chain with its source and its legs. -/
theorem ofLine_chainText {text : List Char} {id : String} {legs : List Leg}
    (h : ChainText Slashless text id legs) :
    ∃ first hops, Statement.ofLine text = .chain first hops ∧ first.id = id ∧
      hops.map Hop.leg = legs := by
  obtain @⟨_, texts, _, _, hmention, hword, hlegs, hne⟩ := h
  have hends := hlegs.endsTargets.endsMention
  cases hmention with
  | @bare w g hw hg =>
    rw [String.toList_ofList] at hword
    have hlink := hlegs.startsLink hne
    refine ⟨⟨String.ofList w, none⟩, readHops texts, ?_, rfl, ?_⟩
    · rw [List.append_assoc,
        ofLine_identifier hw (isWordChar_head?_gap hg hends.isWordChar_eq) hword]
      simp only [readChain, skipInlineBlanks_gap hg, hends.skipInlineBlanks_eq,
        hends.startsShape_eq, hlink, Bool.false_eq_true, if_false, if_true]
    · exact readHops_legsText hlegs isGap_nil
  | @shaped w g shape g' hw hg hshape hg' =>
    rw [String.toList_ofList] at hword
    have htext : w ++ (g ++ (shape ++ g')) ++ texts = w ++ (g ++ (shape ++ (g' ++ texts))) := by
      simp only [List.append_assoc]
    obtain ⟨definition, hread⟩ := readShape?_shapeText hshape (g' ++ texts)
    refine ⟨⟨String.ofList w, some definition⟩, readHops (g' ++ texts), ?_, rfl, ?_⟩
    · rw [htext, ofLine_identifier hw
        (isWordChar_head?_gap hg (hshape.isWordChar_eq (g' ++ texts))) hword]
      simp only [readChain, skipInlineBlanks_gap hg, hshape.skipInlineBlanks_eq,
        hshape.startsShape, hread, if_true]
    · exact readHops_legsText hlegs hg'

/-- A line with a written chain adds exactly the edges of the chain, behind all others, if the
labels of its slanted shapes have no slashes. That is what it takes for a slanted shape to be read
up to its last bracket. -/
theorem edges_readLine_chainText (d : Draft) :
    (∀ {text : List Char} {id : String} {legs : List Leg}, ChainText Slashless text id legs →
      (d.readLine text).flowchart.edges = d.flowchart.edges ++ chainEdges [id] legs) ∧
    ∀ {body : List Char} {c : Char}, c = '/' ∨ c = '\\' → ∀ s : List Char,
      ((readShape? ('[' :: '/' :: (body ++ c :: ']' :: s))).map Prod.snd = some s ↔
        Slashless body) := by
  refine ⟨fun h => ?_, fun hc s => readShape?_slanted_iff hc s⟩
  obtain ⟨first, hops, hline, rfl, rfl⟩ := ofLine_chainText h
  rw [Draft.readLine, hline, edges_apply_chain]

/-! ## A chain with three legs, and one with slashes in a quoted label -/

/-- A single character stands for a mention, with or without a space behind it. -/
theorem mentionText_singleton (allow : List Char → Prop) {c : Char} (h : isWordChar c = true)
    {g : List Char} (hg : IsGap g) : MentionText allow (c :: g) (String.ofList [c]) :=
  .bare (isIdentifier_singleton h) hg

def fanLine : List Char :=
  "A[a --> b] -->| \"x y\" | B & C -- y --> D -- z -->|\"\"|E".toList

theorem chainText_fanLine : ChainText Slashless fanLine "A"
    [⟨{ kind := .arrow, label := some "x y" }, ["B", "C"]⟩,
      ⟨{ kind := .arrow, label := some "y" }, ["D"]⟩, ⟨{ kind := .arrow }, ["E"]⟩] := by
  have hlabel : LabelText (some '[') ']' "a --> b".toList _ :=
    .plain (.of_forall (by simp)) (by decide)
  have hshape : ShapeText Slashless "[a --> b]".toList :=
    @ShapeText.bracketed _ ⟨.rectangle, ['['], some '[', ']', [']']⟩ _ _
      (List.mem_append_right _ List.mem_cons_self) hlabel (by unfold Bracket.OpensAlone; decide)
  have hA : MentionText Slashless "A[a --> b] ".toList "A" :=
    .shaped (isIdentifier_singleton (by decide)) isGap_nil hshape isGap_space
  have hB := mentionText_singleton Slashless (by decide : isWordChar 'B' = true) isGap_space
  have hC := mentionText_singleton Slashless (by decide : isWordChar 'C' = true) isGap_space
  have hD := mentionText_singleton Slashless (by decide : isWordChar 'D' = true) isGap_space
  have hE := mentionText_singleton Slashless (by decide : isWordChar 'E' = true) isGap_nil
  have harrow : DashesText "-->".toList { kind := .arrow } := .arrow (Nat.le_refl 2)
  have hquoted : Unquotes (trim " \"x y\" ".toList) "x y".toList :=
    (by decide : trim " \"x y\" ".toList = '"' :: ("x y".toList ++ ['"'])) ▸ .quoted _
  have hempty : Unquotes (trim "\"\"".toList) [] :=
    (by decide : trim "\"\"".toList = '"' :: ([] ++ ['"'])) ▸ .quoted _
  have hfirst := LegText.piped (.dashes harrow) isGap_nil (by decide) hquoted (.text (by decide))
    isGap_space (.cons hB isGap_space (.single hC))
  have hy := @OperatorText.labelled ' ' ' ' 'y' ['y'] _ _ _ rfl rfl (by decide) rfl (by decide)
    (.text (by decide)) harrow
  have hz := @OperatorText.labelled ' ' ' ' 'z' ['z'] _ _ _ rfl rfl (by decide) rfl (by decide)
    (.text (by decide)) harrow
  have hsecond := LegText.bare hy isGap_space (List.cons_ne_nil _ _) (.single hD)
  have hthird := LegText.piped hz isGap_nil (by decide) hempty .empty isGap_nil (.single hE)
  exact .mk hA (by decide) (.cons hfirst (.cons hsecond (.cons hthird .nil))) (List.cons_ne_nil _ _)

/-- Both targets of the first link are sources of the second one. Of the labels between bars, the
first one loses its quotes, and the second one leaves nothing. -/
theorem edges_readLine_fanLine :
    ChainText Slashless fanLine "A" [⟨{ kind := .arrow, label := some "x y" }, ["B", "C"]⟩,
        ⟨{ kind := .arrow, label := some "y" }, ["D"]⟩, ⟨{ kind := .arrow }, ["E"]⟩] ∧
      ((Draft.start .topToBottom).readLine fanLine).flowchart.edges =
      [{ source := "A", target := "B", label := some "x y", kind := .arrow },
        { source := "A", target := "C", label := some "x y", kind := .arrow },
        { source := "B", target := "D", label := some "y", kind := .arrow },
        { source := "C", target := "D", label := some "y", kind := .arrow },
        { source := "D", target := "E", kind := .arrow }] :=
  ⟨chainText_fanLine, (edges_readLine_chainText (Draft.start .topToBottom)).1 chainText_fanLine⟩

def slashedLine : List Char :=
  "A[/\"a/b\"/] --> B".toList

theorem chainText_slashedLine :
    ChainText (fun _ => True) slashedLine "A" [⟨{ kind := .arrow }, ["B"]⟩] := by
  have hlabel : SlantedLabel "\"a/b\"".toList :=
    @SlantedLabel.quoted [] "a/b".toList [] isGap_nil (by decide) isGap_nil
  have hA : MentionText (fun _ => True) "A[/\"a/b\"/] ".toList "A" :=
    .shaped (isIdentifier_singleton (by decide)) isGap_nil (.slanted hlabel trivial (.inl rfl))
      isGap_space
  have hB := mentionText_singleton (fun _ => True) (by decide : isWordChar 'B' = true) isGap_nil
  have hleg := LegText.bare (.dashes (.arrow (Nat.le_refl 2))) isGap_space (List.cons_ne_nil _ _)
    (.single hB)
  exact .mk hA (by decide) (.cons hleg .nil) (List.cons_ne_nil _ _)

/-- The slash inside the quotes ends the shape, and the link behind it is lost. -/
theorem not_edges_readLine_slashedLine :
    ¬ ∀ (d : Draft) (text : List Char) (id : String) (legs : List Leg),
      ChainText (fun _ => True) text id legs →
        (d.readLine text).flowchart.edges = d.flowchart.edges ++ chainEdges [id] legs := by
  intro h
  have hedges := h (Draft.start .topToBottom) slashedLine "A" _ chainText_slashedLine
  have hnone : ((Draft.start .topToBottom).readLine slashedLine).flowchart.edges.length = 0 := by
    decide +kernel
  rw [hedges] at hnone
  cases hnone

end FlowchartLayout.Source
