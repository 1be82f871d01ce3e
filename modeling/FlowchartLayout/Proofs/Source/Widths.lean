import FlowchartLayout.Proofs.Number.Decimal
import FlowchartLayout.Proofs.Source.Ids
import FlowchartLayout.Proofs.Source.Permanence
import FlowchartLayout.Proofs.Source.Styles
import FlowchartLayout.Proofs.Source.Unplaced

/-!
# Stroke widths

The only numbers that a source text can set are stroke widths. A node is made by the first line that
mentions it, and its width is the last one that later style lines give it. A written width that is
too large becomes an infinity, and then the flowchart has no document that can be read.

## Main definitions

- `widthFor?`, `widthsFor` — the widths that lines give to a node, as they are written
- `Oversized` — a written width is too large

## Main statements

- `isFinite_styleWidth_iff` — which widths are finite
- `exists_origin` — a node is what the lines after its first mention make of it
- `numbers_ofSource?` — when the numbers of a flowchart are finite, and its document is read back
- `not_finite_ofSource?_oversizedSource` — they need not be
-/

namespace FlowchartLayout.Source

/-! ## Written widths -/

/-- The number at the start of a written width is too large. -/
def Oversized (value : List Char) : Prop :=
  ∃ q, DecimalText (value.takeWhile isDecimalChar) q ∧ overflowBound ≤ q

/-- A width is finite unless the number that is written is too large; if there is none, the width
is 2. -/
theorem isFinite_styleWidth_iff {value : List Char} :
    (styleWidth value).isFinite = true ↔ ¬ Oversized value := by
  have hrun : ∀ c ∈ value.takeWhile isDecimalChar, isDecimalChar c = true :=
    fun c hc => List.mem_takeWhile_imp hc
  have hread := isFinite_readDigits?_iff hrun
  have hwidth : styleWidth value = (readDigits? (value.takeWhile isDecimalChar)).getD 2 := rfl
  have hbound : ¬ Oversized value ↔
      ∀ q, DecimalText (value.takeWhile isDecimalChar) q → q < overflowBound := by
    simp only [Oversized, not_exists, not_and, not_le]
  rw [hbound, ← hread, hwidth]
  cases readDigits? (value.takeWhile isDecimalChar) with
  | none => exact iff_of_true (by decide +kernel) (by rintro x ⟨⟩)
  | some x =>
    constructor
    · rintro h y ⟨⟩
      exact h
    · intro h
      exact h x rfl

/-- The last width counts. -/
theorem strokeWidth_readStyle (s : List Char) :
    (readStyle s).strokeWidth = (lastValue? "stroke-width" (splitOn ',' s)).map styleWidth := by
  rw [readStyle, foldl_addProperty_eq]
  exact Option.or_none

/-! ## Style lines -/

/-- What stands behind the id in a style line. -/
def propertiesOf (line : List Char) : List Char :=
  afterWord (skipInlineBlanks (afterWord line))

/-- The last width that a line gives to the node with the id. -/
def widthFor? (id : String) (line : List Char) : Option (List Char) :=
  match Statement.ofLine line with
  | .style id' _ =>
    if id' = id then lastValue? "stroke-width" (splitOn ',' (propertiesOf line)) else none
  | _ => none

/-- The widths that lines give to the node with the id, in order. -/
def widthsFor (id : String) (lines : List (List Char)) : List (List Char) :=
  lines.filterMap (widthFor? id)

theorem ne_style_readHeading {s : List Char} {id : String} {style : NodeStyle} :
    readHeading s ≠ .style id style := by
  rcases readHeading_cases s with h | ⟨_, _, h⟩ <;> rw [h] <;> nofun

theorem ne_style_readChain {first s : List Char} {id : String} {style : NodeStyle} :
    readChain first s ≠ .style id style := by
  rcases readChain_cases first s with h | ⟨_, _, h⟩ <;> rw [h] <;> nofun

/-- A style line gives the style that its properties say. -/
theorem eq_readStyle_of_ofLine {line : List Char} {id : String} {style : NodeStyle}
    (h : Statement.ofLine line = .style id style) : style = readStyle (propertiesOf line) := by
  cases saidBy_ofLine line with
  | style _ hread =>
    rw [hread] at h
    injection h with _ hstyle
    exact hstyle.symm
  | heading _ hread => exact absurd (hread.symm.trans h) ne_style_readHeading
  | chain _ hread => exact absurd (hread.symm.trans h) ne_style_readChain
  | blank hread => cases hread.symm.trans h
  | endSubgraph hread => cases hread.symm.trans h
  | direction _ hread => cases hread.symm.trans h

theorem strokeWidth_styleFor? (id : String) (line : List Char) :
    ((Statement.ofLine line).styleFor? id).bind (·.strokeWidth) =
      (widthFor? id line).map styleWidth := by
  unfold widthFor?
  cases h : Statement.ofLine line with
  | style id' style =>
    rw [eq_readStyle_of_ofLine h]
    simp only [Statement.styleFor?]
    split
    · exact strokeWidth_readStyle _
    · rfl
  | _ => rfl

theorem strokeWidth_foldl_withStyle (styles : List NodeStyle) (n : Node) :
    (styles.foldl Node.withStyle n).strokeWidth =
      (styles.filterMap (·.strokeWidth)).getLast?.getD n.strokeWidth := by
  induction styles using List.reverseRecOn with
  | nil => rfl
  | append_singleton styles style ih =>
    rw [List.foldl_append, List.filterMap_append]
    cases h : style.strokeWidth <;> simp [Node.withStyle, ih, h]

/-- The width of a node is the last one that the lines give it. -/
theorem strokeWidth_stylesFor (id : String) (lines : List (List Char)) (n : Node) :
    ((stylesFor id lines).foldl Node.withStyle n).strokeWidth =
      ((widthsFor id lines).getLast?.map styleWidth).getD n.strokeWidth := by
  have hwidths : (stylesFor id lines).filterMap (·.strokeWidth) =
      (widthsFor id lines).map styleWidth := by
    rw [stylesFor, widthsFor, List.filterMap_filterMap, List.map_filterMap]
    exact List.filterMap_congr fun line _ => strokeWidth_styleFor? id line
  rw [strokeWidth_foldl_withStyle, hwidths, List.getLast?_map]

/-! ## Where nodes come from -/

namespace Draft

variable {d : Draft} {n' : Node}

theorem mem_nodes_introduce (h : d.WellFormed) {m : Mention}
    (hn' : n' ∈ (d.introduce m).flowchart.nodes) :
    (∃ n ∈ d.flowchart.nodes, Restyled [] n n') ∨ Restyled [] (Node.implicit n'.id) n' := by
  have hmention {n' : Node} (hn' : n' ∈ (d.mention m.id).flowchart.nodes) :
      (∃ n ∈ d.flowchart.nodes, Restyled [] n n') ∨ Restyled [] (Node.implicit n'.id) n' := by
    rcases mem_nodes_mention h.flowchart.nodup_nodeIds hn' with ⟨n, hn, subgraph, rfl⟩ | ⟨-, rfl⟩
    · exact .inl ⟨n, hn, rfl⟩
    · exact .inr rfl
  rcases introduce_cases d m with ⟨-, heq⟩ | ⟨definition, -, heq⟩
  · rw [heq] at hn'
    exact hmention hn'
  · rw [heq] at hn'
    rcases define_cases d m.id definition with heq | ⟨i, label, heq⟩
    · rw [heq] at hn'
      exact hmention hn'
    · rw [heq] at hn'
      rcases mem_or_exists_of_mem_modify hn' with hn' | ⟨n, hn, rfl⟩
      · exact hmention hn'
      · -- the definition changes the shape and the label
        refine (hmention hn).imp ?_ fun hnew => hnew.trans rfl
        rintro ⟨n₀, hn₀, hrestyled⟩
        exact ⟨n₀, hn₀, hrestyled.trans rfl⟩

theorem mem_nodes_introductions (h : d.WellFormed) {ms : List Mention}
    (hn' : n' ∈ (ms.foldl introduce d).flowchart.nodes) :
    (∃ n ∈ d.flowchart.nodes, Restyled [] n n') ∨ Restyled [] (Node.implicit n'.id) n' := by
  induction ms generalizing d with
  | nil => exact .inl ⟨n', hn', rfl⟩
  | cons m ms ih =>
    rcases ih (h.introduce m) hn' with ⟨n, hn, hrestyled⟩ | hnew
    · rcases mem_nodes_introduce h hn with ⟨n₀, hn₀, hrestyled₀⟩ | hnew
      · exact .inl ⟨n₀, hn₀, hrestyled₀.trans hrestyled⟩
      · rw [← hrestyled.id_eq] at hnew
        exact .inr (hnew.trans hrestyled)
    · exact .inr hnew

/-- A new node is made by a mention. -/
theorem restyled_of_new (h : d.WellFormed) {s : Statement} (hs : s.HasTargets)
    (hn' : n' ∈ (d.apply s).flowchart.nodes) (hnew : n'.id ∉ d.flowchart.nodeIds) :
    s.Mentions n'.id ∧ Restyled [] (Node.implicit n'.id) n' := by
  have hmentions : s.Mentions n'.id :=
    (((mem_nodeIds_apply h hs).1 (List.mem_map_of_mem hn')).resolve_left hnew).1
  refine ⟨hmentions, ?_⟩
  cases s with
  | chain first hops =>
    rw [nodes_apply_chain d hs] at hn'
    refine (mem_nodes_introductions h hn').resolve_left ?_
    rintro ⟨n, hn, hrestyled⟩
    exact hnew (hrestyled.id_eq ▸ List.mem_map_of_mem hn)
  | _ =>
    obtain ⟨m, hm, -⟩ := hmentions
    cases hm

end Draft

/-- A node is made by the first line that mentions it, and styled by the lines after that. -/
theorem exists_origin {direction : Direction} {lines : List (List Char)} {n : Node}
    (hn : n ∈ (lines.foldl Draft.readLine (Draft.start direction)).flowchart.nodes) :
    ∃ before line after, lines = before ++ line :: after ∧
      (Statement.ofLine line).Mentions n.id ∧
      n.id ∉ (before.foldl Draft.readLine (Draft.start direction)).flowchart.nodeIds ∧
      Restyled (stylesFor n.id after) (Node.implicit n.id) n := by
  induction lines using List.reverseRecOn generalizing n with
  | nil => cases hn
  | append_singleton lines line ih =>
    rw [List.foldl_append] at hn
    have hwf := (Draft.wellFormed_start direction).readLines lines
    have htargets := hasTargets_ofLine line
    by_cases hold : n.id ∈ (lines.foldl Draft.readLine (Draft.start direction)).flowchart.nodeIds
    · obtain ⟨n₀, hn₀, hid⟩ := List.mem_map.1 hold
      obtain ⟨i, hi⟩ := List.mem_iff_getElem?.1 hn₀
      obtain ⟨n₁, hn₁, hrestyled, -⟩ := Draft.exists_node_apply hwf htargets hi
      -- the node that the old one becomes is the one with its id
      obtain rfl : n₁ = n := List.inj_on_of_nodup_map
        (hwf.apply htargets).flowchart.nodup_nodeIds (List.mem_of_getElem? hn₁) hn
        (hrestyled.id_eq.trans hid)
      obtain ⟨before, line', after, rfl, hmentions, hnew, horigin⟩ := ih hn₀
      rw [hid] at hmentions hnew horigin hrestyled
      refine ⟨before, line', after ++ [line], ?_, hmentions, hnew, ?_⟩
      · rw [List.append_assoc, List.cons_append]
      · rw [stylesFor_concat]
        exact horigin.trans hrestyled
    · obtain ⟨hmentions, hnew⟩ := Draft.restyled_of_new hwf htargets hn hold
      exact ⟨lines, line, [], rfl, hmentions, hold, hnew⟩

/-! ## Source texts -/

/-- A node has the last width that is written for it behind its first mention, or else 1, and the
width is finite unless what is written there is too large. -/
theorem exists_widths {direction : Direction} {lines : List (List Char)} {n : Node}
    (hn : n ∈ (lines.foldl Draft.readLine (Draft.start direction)).flowchart.nodes) :
    ∃ before line after, lines = before ++ line :: after ∧
      (Statement.ofLine line).Mentions n.id ∧
      n.id ∉ (before.foldl Draft.readLine (Draft.start direction)).flowchart.nodeIds ∧
      n.strokeWidth = ((widthsFor n.id after).getLast?.map styleWidth).getD 1 ∧
      (n.strokeWidth.isFinite = true ↔
        ∀ value, (widthsFor n.id after).getLast? = some value → ¬ Oversized value) := by
  obtain ⟨before, line, after, hlines, hmentions, hnew, hrestyled⟩ := exists_origin hn
  have hwidth : n.strokeWidth = ((widthsFor n.id after).getLast?.map styleWidth).getD 1 :=
    (congrArg Node.strokeWidth hrestyled).trans
      (strokeWidth_stylesFor n.id after (Node.implicit n.id))
  refine ⟨before, line, after, hlines, hmentions, hnew, hwidth, ?_⟩
  rw [hwidth]
  cases (widthsFor n.id after).getLast? with
  | none => exact iff_of_true (by decide +kernel) (by rintro value ⟨⟩)
  | some value =>
    rw [Option.map_some, Option.getD_some, isFinite_styleWidth_iff]
    constructor
    · rintro h value ⟨⟩
      exact h
    · intro h
      exact h value rfl

/-- The document of a flowchart without layout can be read just if all its stroke widths are finite,
as far as these read back. -/
theorem ofDocument_document_of_unplaced {fc : Flowchart} (h : fc.Unplaced)
    (hreads : ∀ n ∈ fc.nodes, n.strokeWidth.isFinite = true → ReadsBack n.strokeWidth)
    {style : Json.Style} (hstyle : style.IsBlank) :
    ((∀ n ∈ fc.nodes, n.strokeWidth.isFinite = true) →
      Flowchart.ofDocument (fc.document style) = .ok fc) ∧
    ((∃ n ∈ fc.nodes, n.strokeWidth.isFinite = false) →
      ∃ p, Flowchart.ofDocument (fc.document style) = .error p) := by
  have hinitial : ∀ x ∈ Flowchart.initialNumbers, ReadsBack x := by decide +kernel
  rw [Flowchart.ofDocument_document_eq hstyle]
  constructor
  · intro hfinite
    refine Flowchart.faithful.decode_encode fc fun x hx => ?_
    rcases h.mem_numbers_iff.1 hx with hx | ⟨n, hn, rfl⟩
    · exact hinitial x hx
    · exact hreads n hn (hfinite n hn)
  · rintro ⟨n, hn, hinfinite⟩
    exact Flowchart.faithful.exists_problem fc
      ⟨n.strokeWidth, h.mem_numbers_iff.2 (.inr ⟨n, hn, rfl⟩), hinfinite⟩

/-- The numbers of a source text, and whether its document is read back. All of them are the initial
ones but the stroke widths. The width of a node is the last one that is written for it behind its
first mention, and is finite unless that one is too large. If no width is infinite, and the widths
read back, then the document reads as the flowchart; and if one is, no document can be read. -/
theorem numbers_ofSource? {source : String} {direction : Direction} {body : List Char}
    (hsource : readHeader? source.toList = some (direction, body)) :
    ∃ fc, Flowchart.ofSource? source = some fc ∧
      (∀ x, x ∈ fc.numbers ↔
        x ∈ Flowchart.initialNumbers ∨ ∃ n ∈ fc.nodes, n.strokeWidth = x) ∧
      (∀ n ∈ fc.nodes, ∃ before line after, contentLines body = before ++ line :: after ∧
        (Statement.ofLine line).Mentions n.id ∧
        n.id ∉ (before.foldl Draft.readLine (Draft.start direction)).flowchart.nodeIds ∧
        n.strokeWidth = ((widthsFor n.id after).getLast?.map styleWidth).getD 1 ∧
        (n.strokeWidth.isFinite = true ↔
          ∀ value, (widthsFor n.id after).getLast? = some value → ¬ Oversized value)) ∧
      ((∀ x ∈ fc.numbers, x.isFinite = true) ↔ ∀ n ∈ fc.nodes, n.strokeWidth.isFinite = true) ∧
      ((∀ n ∈ fc.nodes, n.strokeWidth.isFinite = true → ReadsBack n.strokeWidth) →
        ∀ style : Json.Style, style.IsBlank →
          ((∀ n ∈ fc.nodes, n.strokeWidth.isFinite = true) →
            Flowchart.ofDocument (fc.document style) = .ok fc) ∧
          ((∃ n ∈ fc.nodes, n.strokeWidth.isFinite = false) →
            ∃ p, Flowchart.ofDocument (fc.document style) = .error p)) := by
  have hunplaced := Draft.unplaced_readLines direction (contentLines body)
  refine ⟨_, ofSource?_eq_readLines hsource, fun x => hunplaced.mem_numbers_iff,
    fun n hn => exists_widths hn, ?_,
    fun hreads style hstyle => ofDocument_document_of_unplaced hunplaced hreads hstyle⟩
  have hinitial : ∀ x ∈ Flowchart.initialNumbers, x.isFinite = true := by decide +kernel
  constructor
  · intro h n hn
    exact h n.strokeWidth (hunplaced.mem_numbers_iff.2 (.inr ⟨n, hn, rfl⟩))
  · intro h x hx
    rcases hunplaced.mem_numbers_iff.1 hx with hx | ⟨n, hn, rfl⟩
    · exact hinitial x hx
    · exact h n hn

/-! ## A width that is too large, and one that replaces it -/

def oversizedSource : String :=
  "flowchart TB\nA\nstyle A stroke-width:1000000000000000000000000000000000000000"

def restyledSource : String :=
  oversizedSource ++ "\nA --> B\nstyle A stroke-width:2.5px"

/-- The width that is too large is not the last one, so the document is read back. -/
theorem ofDocument_restyledSource :
    (readHeader? restyledSource.toList).isSome = true ∧
      ∃ fc, Flowchart.ofSource? restyledSource = some fc ∧
        fc.nodes.map (·.strokeWidth) = [2.5, 1] ∧
        Flowchart.ofDocument (fc.document .compact) = .ok fc := by
  have hheader : (readHeader? restyledSource.toList).isSome = true := by decide +kernel
  obtain ⟨⟨direction, body⟩, hsource⟩ := Option.isSome_iff_exists.1 hheader
  obtain ⟨fc, hfc, -, -, -, hdocument⟩ := numbers_ofSource? hsource
  have hwidths : (Flowchart.ofSource? restyledSource).map (·.nodes.map (·.strokeWidth)) =
      some [2.5, 1] := by
    decide +kernel
  rw [hfc, Option.map_some, Option.some_inj] at hwidths
  have hmem {n : Node} (hn : n ∈ fc.nodes) : n.strokeWidth ∈ [2.5, 1] :=
    hwidths ▸ List.mem_map_of_mem hn
  have hfinite : ∀ x ∈ ([2.5, 1] : List Float32), x.isFinite = true := by decide +kernel
  have hreads : ∀ x ∈ ([2.5, 1] : List Float32), ReadsBack x := by decide +kernel
  have hread := hdocument (fun n hn _ => hreads _ (hmem hn)) .compact Json.isBlank_compact
  exact ⟨hheader, fc, hfc, hwidths, hread.1 fun n hn => hfinite _ (hmem hn)⟩

/-- Not every number of a source text is finite. -/
theorem not_finite_ofSource?_oversizedSource :
    ¬ ∀ source fc, Flowchart.ofSource? source = some fc → ∀ x ∈ fc.numbers, x.isFinite = true := by
  intro h
  have hfinite : ((Flowchart.ofSource? oversizedSource).map fun fc =>
      fc.numbers.all (·.isFinite)) = some false := by
    decide +kernel
  obtain ⟨fc, hfc, hnot⟩ := Option.map_eq_some_iff.1 hfinite
  rw [List.all_eq_true.2 (h oversizedSource fc hfc)] at hnot
  cases hnot

end FlowchartLayout.Source
