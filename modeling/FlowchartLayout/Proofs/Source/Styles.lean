import FlowchartLayout.Proofs.Number.Decimal
import FlowchartLayout.Proofs.Source.Effects
import FlowchartLayout.Proofs.Source.Keywords
import FlowchartLayout.Proofs.Source.Lines
import Mathlib.Data.List.Induction

/-!
# Style lines

A style line names a node and lists properties, a key and a value each. Of the properties with one
key the last one counts, whatever stands between them, and nothing changes but the two colours and
the stroke width of the node.

## Main definitions

- `Gives`, `LastGives` — a property gives a value to a key, and is the last one to do so
- `IsStyleColor`, `IsStyleWidth` — what a value stands for
- `Styled` — a node before and after a list of properties

## Main statements

- `foldl_addProperty_eq` — the style that properties give
- `readLine_styleLine` — what a style line does to a draft
-/

namespace FlowchartLayout

/-- Without repeated ids and without a layout, to restyle the node with an id is to replace it. -/
theorem Flowchart.styleNode_eq_set {fc : Flowchart} (h : fc.WellFormed) {i : Nat} {n : Node}
    (hn : fc.nodes[i]? = some n) (style : NodeStyle) :
    fc.styleNode n.id style = { fc with nodes := fc.nodes.set i (n.withStyle style) } := by
  have hmetrics : { fc.metrics with computed := false } = fc.metrics := by
    rw [← h.stale]
  have hnodes : fc.nodes.modify i (·.withStyle style) = fc.nodes.set i (n.withStyle style) := by
    rw [List.modify_eq_set_getElem?, hn]
    rfl
  simp only [styleNode, modifyNodeById, findNodeIndex?_of_getElem? h.nodup_nodeIds hn, modifyNode,
    invalidate, hmetrics, hnodes]

namespace Source

/-! ## Properties -/

/-- The property gives the value to the key. The first colon stands between them; blanks around them
and the case of the key do not matter. -/
def Gives (property : List Char) (key : String) (value : List Char) : Prop :=
  ∃ before after, property = before ++ ':' :: after ∧ ':' ∉ before ∧
    (trim before).map Char.toLower = key.toList ∧ trim after = value

/-- The value that a property gives to the key. -/
def valueFor? (key : String) (property : List Char) : Option (List Char) :=
  match property.dropWhile (· != ':') with
  | [] => none
  | _ :: value =>
    if (trim (property.takeWhile (· != ':'))).map Char.toLower = key.toList then
      some (trim value)
    else none

/-- The value that the last property with the key gives to it. -/
def lastValue? (key : String) (properties : List (List Char)) : Option (List Char) :=
  (properties.filterMap (valueFor? key)).getLast?

variable {key : String} {property value : List Char} {properties : List (List Char)}

theorem valueFor?_append (key : String) {before : List Char} (hbefore : ':' ∉ before)
    (after : List Char) :
    valueFor? key (before ++ ':' :: after) =
      if (trim before).map Char.toLower = key.toList then some (trim after) else none := by
  have hrun : ∀ c ∈ before, (c != ':') = true := by
    intro c hc
    rw [bne_iff_ne]
    rintro rfl
    exact hbefore hc
  have hstop : ∀ c ∈ (':' :: after).head?, (c != ':') = false := by
    rintro c ⟨⟩
    rfl
  rw [valueFor?, takeWhile_run hrun hstop, dropWhile_run hrun hstop]

theorem valueFor?_of_not_mem (key : String) (h : ':' ∉ property) :
    valueFor? key property = none := by
  have hall : property.dropWhile (· != ':') = [] := by
    rw [List.dropWhile_eq_nil_iff]
    intro c hc
    rw [bne_iff_ne]
    rintro rfl
    exact h hc
  rw [valueFor?, hall]

theorem valueFor?_eq_some_iff : valueFor? key property = some value ↔ Gives property key value := by
  constructor
  · intro h
    by_cases hcolon : ':' ∈ property
    · obtain ⟨before, after, rfl, hbefore⟩ := List.eq_append_cons_of_mem hcolon
      rw [valueFor?_append key hbefore] at h
      split at h
      · next hkey => exact ⟨before, after, rfl, hbefore, hkey, Option.some.inj h⟩
      · cases h
    · rw [valueFor?_of_not_mem key hcolon] at h
      cases h
  · rintro ⟨before, after, rfl, hbefore, hkey, rfl⟩
    rw [valueFor?_append key hbefore, if_pos hkey]

/-- Blanks in front of a property do not matter. -/
theorem valueFor?_gap_append (key : String) {gap : List Char} (hgap : IsGap gap)
    (property : List Char) : valueFor? key (gap ++ property) = valueFor? key property := by
  have hnot : ':' ∉ gap := fun hmem => absurd (hgap ':' hmem) (by decide)
  by_cases hcolon : ':' ∈ property
  · obtain ⟨before, after, rfl, hbefore⟩ := List.eq_append_cons_of_mem hcolon
    have htrim : trim (gap ++ before) = trim before := by
      rw [← trim_skipInlineBlanks, skipInlineBlanks_gap hgap, trim_skipInlineBlanks]
    rw [← List.append_assoc, valueFor?_append key (by simp [hnot, hbefore]),
      valueFor?_append key hbefore, htrim]
  · rw [valueFor?_of_not_mem key (by simp [hnot, hcolon]), valueFor?_of_not_mem key hcolon]

/-! ## The last property with a key -/

/-- Among the properties, the last one that gives a value to the key gives it this one. -/
def LastGives (properties : List (List Char)) (key : String) (value : List Char) : Prop :=
  ∃ before property after, properties = before ++ property :: after ∧ Gives property key value ∧
    ∀ later ∈ after, ∀ other, ¬ Gives later key other

theorem valueFor?_eq_none_iff :
    valueFor? key property = none ↔ ∀ value, ¬ Gives property key value := by
  simp only [Option.eq_none_iff_forall_ne_some, ne_eq, valueFor?_eq_some_iff]

theorem lastGives_of_lastValue? (h : lastValue? key properties = some value) :
    LastGives properties key value := by
  rw [lastValue?, List.getLast?_filterMap, List.findSome?_eq_some_iff] at h
  obtain ⟨after, property, before, hreverse, hgives, hafter⟩ := h
  refine ⟨before.reverse, property, after.reverse, ?_, valueFor?_eq_some_iff.1 hgives, ?_⟩
  · rw [← List.reverse_reverse properties, hreverse, List.reverse_append,
      List.reverse_cons, List.append_assoc, List.singleton_append]
  · intro later hlater
    exact valueFor?_eq_none_iff.1 (hafter later (List.mem_reverse.1 hlater))

theorem not_gives_of_lastValue? (h : lastValue? key properties = none) :
    ∀ property ∈ properties, ∀ value, ¬ Gives property key value := by
  rw [lastValue?, List.getLast?_eq_none_iff, List.filterMap_eq_nil_iff] at h
  exact fun property hmem => valueFor?_eq_none_iff.1 (h property hmem)

/-! ## Styles -/

/-- One property sets at most one part of a style. -/
theorem addProperty_eq (style : NodeStyle) (property : List Char) :
    addProperty style property =
      { fill := ((valueFor? "fill" property).map styleColor).or style.fill
        stroke := ((valueFor? "stroke" property).map styleColor).or style.stroke
        strokeWidth := ((valueFor? "stroke-width" property).map styleWidth).or
          style.strokeWidth } := by
  cases h : property.dropWhile (· != ':') with
  | nil => simp only [addProperty, valueFor?, h, Option.map_none, Option.none_or]
  | cons c value =>
    simp only [addProperty, valueFor?, h]
    generalize (trim (property.takeWhile (· != ':'))).map Char.toLower = key
    -- the keys are different
    by_cases hfill : key = "fill".toList
    · rw [if_pos hfill, hfill]
      rfl
    · by_cases hstroke : key = "stroke".toList
      · rw [if_neg hfill, if_pos hstroke, hstroke]
        rfl
      · rw [if_neg hfill, if_neg hstroke, if_neg hfill, if_neg hstroke]
        split <;> rfl

theorem lastValue?_append_singleton (key : String) (properties : List (List Char))
    (property : List Char) :
    lastValue? key (properties ++ [property]) =
      (valueFor? key property).or (lastValue? key properties) := by
  rw [lastValue?, List.filterMap_append, lastValue?]
  cases h : valueFor? key property <;> simp [h]

/-- The style that properties give: of each key, the last value counts. -/
theorem foldl_addProperty_eq (properties : List (List Char)) (style : NodeStyle) :
    properties.foldl addProperty style =
      { fill := ((lastValue? "fill" properties).map styleColor).or style.fill
        stroke := ((lastValue? "stroke" properties).map styleColor).or style.stroke
        strokeWidth := ((lastValue? "stroke-width" properties).map styleWidth).or
          style.strokeWidth } := by
  induction properties using List.reverseRecOn with
  | nil => rfl
  | append_singleton properties property ih =>
    simp only [List.foldl_append, List.foldl_cons, List.foldl_nil, ih, addProperty_eq,
      lastValue?_append_singleton, Option.map_or, Option.or_assoc]

/-- The properties are those between the commas; blanks in front of them do not matter. -/
theorem readStyle_intercalate {gap : List Char} (hgap : IsGap gap)
    (hproperties : ∀ p ∈ properties, ',' ∉ p) :
    readStyle (gap ++ [','].intercalate properties) = properties.foldl addProperty {} := by
  have hnot : ',' ∉ gap := fun hmem => absurd (hgap ',' hmem) (by decide)
  have hskip (style : NodeStyle) (property : List Char) :
      addProperty style (gap ++ property) = addProperty style property := by
    simp only [addProperty_eq, valueFor?_gap_append _ hgap]
  cases properties with
  | nil =>
    rw [List.intercalate_nil, List.append_nil, readStyle, splitOn_of_not_mem hnot]
    have hempty := hskip {} []
    rwa [List.append_nil] at hempty
  | cons property properties =>
    obtain ⟨hproperty, hothers⟩ := List.forall_mem_cons.1 hproperties
    have hjoin : gap ++ [','].intercalate (property :: properties) =
        [','].intercalate ((gap ++ property) :: properties) := by
      cases properties with
      | nil => simp only [List.intercalate_singleton]
      | cons next properties => simp only [List.intercalate_cons_cons, List.append_assoc]
    have hpieces : ∀ piece ∈ (gap ++ property) :: properties, ',' ∉ piece :=
      List.forall_mem_cons.2 ⟨by simp [hnot, hproperty], hothers⟩
    rw [hjoin, readStyle, splitOn_intercalate (List.cons_ne_nil _ _) hpieces, List.foldl_cons,
      hskip, List.foldl_cons]

/-! ## Styled nodes -/

/-- The colour that a value stands for. One that cannot be read is gray. -/
def IsStyleColor (value : List Char) (color : Color) : Prop :=
  Color.ofHex? value = some color ∨ Color.ofHex? value = none ∧ color = ⟨0xE0E0E0FF⟩

/-- The width that a value stands for: the nearest number to the one that its first digits and points
write, and 2 if they write none. -/
inductive IsStyleWidth (value : List Char) : Float32 → Prop where
  | written {q : ℚ} {width : Float32} (hq : DecimalText (value.takeWhile isDecimalChar) q)
      (hwidth : IsNearest q width) : IsStyleWidth value width
  | none (h : ∀ q, ¬ DecimalText (value.takeWhile isDecimalChar) q) : IsStyleWidth value 2

theorem isStyleColor_styleColor (value : List Char) : IsStyleColor value (styleColor value) := by
  unfold IsStyleColor styleColor
  cases Color.ofHex? value with
  | none => exact .inr ⟨rfl, rfl⟩
  | some color => exact .inl rfl

theorem isStyleWidth_styleWidth (value : List Char) : IsStyleWidth value (styleWidth value) := by
  have hwidth : styleWidth value = (readDigits? (value.takeWhile isDecimalChar)).getD 2 := rfl
  rw [hwidth]
  by_cases hwritten : ∃ q, DecimalText (value.takeWhile isDecimalChar) q
  · obtain ⟨q, hq⟩ := hwritten
    obtain ⟨width, hread, hnearest⟩ := hq.exists_readDigits?
    rw [hread]
    exact .written hq hnearest
  · have hread : readDigits? (value.takeWhile isDecimalChar) = Option.none := by
      by_contra hsome
      obtain ⟨x, hx⟩ := Option.ne_none_iff_exists'.1 hsome
      exact hwritten (exists_decimalText (fun c hc => List.mem_takeWhile_imp hc) hx)
    rw [hread]
    exact .none (not_exists.1 hwritten)

/-- The properties leave a part of a node as it is, unless they give a value to its key; then the
last such value counts. -/
inductive Sets {α : Type} (properties : List (List Char)) (key : String)
    (Means : List Char → α → Prop) (old : α) : α → Prop where
  | given {value : List Char} {new : α} (h : LastGives properties key value)
      (hnew : Means value new) : Sets properties key Means old new
  | kept (h : ∀ property ∈ properties, ∀ value, ¬ Gives property key value) :
      Sets properties key Means old old

/-- A node before and after it is given properties. -/
structure Styled (properties : List (List Char)) (n n' : Node) : Prop where
  fill : Sets properties "fill" IsStyleColor n.fillColor n'.fillColor
  stroke : Sets properties "stroke" IsStyleColor n.strokeColor n'.strokeColor
  strokeWidth : Sets properties "stroke-width" IsStyleWidth n.strokeWidth n'.strokeWidth
  others : n' = { n with
    fillColor := n'.fillColor, strokeColor := n'.strokeColor, strokeWidth := n'.strokeWidth }

theorem sets_lastValue? {α : Type} {Means : List Char → α → Prop} {read : List Char → α}
    (hread : ∀ value, Means value (read value)) (key : String) (properties : List (List Char))
    (old : α) : Sets properties key Means old (((lastValue? key properties).map read).getD old) := by
  cases h : lastValue? key properties with
  | none => exact .kept (not_gives_of_lastValue? h)
  | some value => exact .given (lastGives_of_lastValue? h) (hread value)

theorem styled_withStyle (properties : List (List Char)) (n : Node) :
    Styled properties n (n.withStyle (properties.foldl addProperty {})) := by
  simp only [foldl_addProperty_eq, Option.or_none, Node.withStyle]
  exact ⟨sets_lastValue? isStyleColor_styleColor .., sets_lastValue? isStyleColor_styleColor ..,
    sets_lastValue? isStyleWidth_styleWidth .., rfl⟩

/-! ## Style lines -/

section Line

variable {keyword gap name gap' : List Char}

/-- A style line, whatever lines were read before it. If no node has the name for its id, the line
changes nothing; otherwise it changes only the colours and the stroke width of that node, each as
the last property with its key says. -/
theorem readLine_styleLine (direction : Direction) (lines : List (List Char))
    (hkeyword : keyword.map Char.toLower = "style".toList) (hgap : IsGap gap) (hne : gap ≠ [])
    (hname : IsIdentifier name) (hgap' : IsGap gap')
    (hends : ∀ c ∈ (gap' ++ [','].intercalate properties).head?, isWordChar c = false)
    (hproperties : ∀ p ∈ properties, ',' ∉ p) :
    let d := lines.foldl Draft.readLine (Draft.start direction)
    let d' := d.readLine (keyword ++ (gap ++ (name ++ (gap' ++ [','].intercalate properties))))
    (String.ofList name ∉ d.flowchart.nodeIds → d' = d) ∧
    ∀ (i : Nat) (n : Node), d.flowchart.nodes[i]? = some n → n.id = String.ofList name →
      ∃ n', Styled properties n n' ∧
        d' = { d with flowchart := { d.flowchart with nodes := d.flowchart.nodes.set i n' } } := by
  intro d d'
  have hwf : d.flowchart.WellFormed :=
    ((Draft.wellFormed_start direction).readLines lines).flowchart
  have hstyle := ofLine_style hkeyword hgap hne hname hends
  rw [readStyle_intercalate hgap' hproperties] at hstyle
  have hline : d' = d.apply (.style (String.ofList name) (properties.foldl addProperty {})) := by
    rw [← hstyle]
    rfl
  rw [hline, Draft.apply]
  refine ⟨fun hnone => ?_, fun i n hn hid => ⟨_, styled_withStyle properties n, ?_⟩⟩
  · rw [Flowchart.styleNode, Flowchart.modifyNodeById,
      Flowchart.findNodeIndex?_eq_none_iff.2 hnone]
  · rw [← hid, Flowchart.styleNode_eq_set hwf hn]

/-- Between the two fill colours stands a property without a colon; the second of them cannot be read.
The first width is written with two points, and the second one behind blanks. -/
theorem readLine_mixedStyleLine :
    let d := ["A --> B".toList].foldl Draft.readLine (Draft.start .topToBottom)
    let properties := ["fill:#f00".toList, "pale".toList, " FILL : pale".toList,
      "stroke-width:1.2.5px".toList, "Stroke-Width: 10.75px".toList]
    let line :=
      "Style A fill:#f00,pale, FILL : pale,stroke-width:1.2.5px,Stroke-Width: 10.75px".toList
    ∃ n n', d.flowchart.nodes[0]? = some n ∧ n.id = "A" ∧ Styled properties n n' ∧
      n'.fillColor = ⟨0xE0E0E0FF⟩ ∧ n'.strokeWidth = 10.75 ∧
      d.readLine line =
        { d with flowchart := { d.flowchart with nodes := d.flowchart.nodes.set 0 n' } } := by
  intro d properties line
  have hfirst : d.flowchart.nodes[0]?.map (·.id) = some "A" := by decide +kernel
  obtain ⟨n, hn, hid⟩ := Option.map_eq_some_iff.1 hfirst
  have hkeyword : "Style".toList.map Char.toLower = "style".toList := by decide +kernel
  have hends : ∀ c ∈ ([' '] ++ [','].intercalate properties).head?, isWordChar c = false := by
    intro c hc
    rw [List.singleton_append, List.head?_cons, Option.mem_some_iff] at hc
    rw [← hc]
    exact isWordChar_eq_false_of_mem (List.mem_cons_self)
  have hproperties : ∀ p ∈ properties, ',' ∉ p := by decide +kernel
  have hvalues : (d.readLine line).flowchart.nodes[0]?.map (fun n => (n.fillColor, n.strokeWidth)) =
      some (⟨0xE0E0E0FF⟩, (10.75 : Float32)) := by
    decide +kernel
  have hid' : n.id = String.ofList ['A'] := hid.trans (by decide +kernel)
  obtain ⟨-, hknown⟩ := readLine_styleLine .topToBottom ["A --> B".toList] hkeyword isGap_space
    (List.cons_ne_nil _ _) (isIdentifier_singleton (by decide : isWordChar 'A' = true))
    isGap_space hends hproperties
  have hd : ["A --> B".toList].foldl Draft.readLine (Draft.start .topToBottom) = d := rfl
  rw [hd] at hknown
  clear_value d
  obtain ⟨n', hstyled, hline⟩ := hknown 0 n hn hid'
  obtain ⟨hlt, -⟩ := List.getElem?_eq_some_iff.1 hn
  have hwritten : d.readLine line =
      { d with flowchart := { d.flowchart with nodes := d.flowchart.nodes.set 0 n' } } :=
    hline
  rw [hwritten, List.getElem?_set_self hlt, Option.map_some, Option.some_inj, Prod.mk.injEq]
    at hvalues
  exact ⟨n, n', hn, hid, hstyled, hvalues.1, hvalues.2, hwritten⟩

end Line

end Source

end FlowchartLayout
