import FlowchartLayout.Proofs.Layout.Arrangement

/-!
# Bounds of sizes, extents and scales

Labels may be measured as anything, spacings may be anything, and so may the viewport: a layout that
is computed has sizes and extents that are numbers and not too small, and a scale between the
smallest one and 1. Coordinates may still be NaN or infinite: the larger of two numbers ignores NaN,
and an infinite extent makes the ratio of extents zero, from which the smallest scale takes over.

## Main definitions

- `Metrics.InBounds` — the scale and the extents lie in their bounds
- `Node.InBounds` — the sizes of a node lie in their bounds

## Main statements

- `axisScale_le_one` — nothing is scaled up
- `Flowchart.isNonneg_reach` — the corner of the content is not negative
- `Flowchart.metrics_inBounds_layoutWith` — the scale and the extents of a layout
- `Flowchart.nodes_inBounds_layoutWith` — the sizes of the nodes of a layout
-/

namespace FlowchartLayout

/-- The scale is not less than the smallest one and not more than 1; the extents hold the padding on
both sides, and what remains without it is not negative. None of them is NaN. -/
structure Metrics.InBounds (m : Metrics) : Prop where
  scale : m.scale.isNaN = false ∧ 0.6 ≤ m.scale ∧ m.scale ≤ 1
  naturalWidth : m.naturalWidth.isNaN = false ∧ 40 ≤ m.naturalWidth
  naturalHeight : m.naturalHeight.isNaN = false ∧ 40 ≤ m.naturalHeight
  contentWidth : m.contentWidth.isNaN = false ∧ 0 ≤ m.contentWidth
  contentHeight : m.contentHeight.isNaN = false ∧ 0 ≤ m.contentHeight

/-- The sizes are not NaN and not too small, and equal where the shape asks for it. -/
structure Node.InBounds (n : Node) : Prop where
  width : n.width.isNaN = false ∧ 40 ≤ n.width
  height : n.height.isNaN = false ∧ 24 ≤ n.height
  square : n.shape = .circle ∨ n.shape = .diamond → n.width = n.height

/-- A bound is a bound of a number that is not NaN. -/
theorem and_le_of_le {x y : Float32} (h : x ≤ y) : y.isNaN = false ∧ x ≤ y :=
  ⟨(le_iff.1 h).2.1, h⟩

theorem AtLeast.le {least size : Float32} (h : AtLeast least size) (hleast : least.isNaN = false) :
    least ≤ size :=
  le_iff.2 ⟨hleast, h⟩

/-! ## Scales -/

/-- The padding on both sides is exact. -/
theorem value_two_mul_outerPadding :
    (2 * outerPadding).isFinite = true ∧ value (2 * outerPadding) = 40 := by
  have hmul := approximates_mul isFinite_two isFinite_outerPadding
  rw [value_two, value_outerPadding, show (2 * 20 : ℚ) = (40 : Nat) by norm_num] at hmul
  have hfinite := hmul.isFinite (by norm_num)
  exact ⟨hfinite, ((hmul.roundsTo hfinite).eq_natCast (by norm_num)).trans (by norm_num)⟩

theorem value_forty : value 40 = 40 := (value_ofNat (n := 40) (by norm_num)).2

/-- Nothing is scaled up, whatever the extents are. -/
theorem axisScale_le_one (available natural : Float32) : axisScale available natural ≤ 1 := by
  unfold axisScale
  split
  · next h =>
    simp only [Bool.and_eq_true, decide_eq_true_eq] at h
    obtain ⟨⟨havailable, hlt⟩, hpadding⟩ := h
    obtain ⟨hfinite, hvalue⟩ := value_two_mul_outerPadding
    exact sub_div_sub_le_one hfinite (by rw [hvalue]; norm_num) havailable hlt hpadding
  · exact le_self rfl

theorem minScale_le_fitScale (width height naturalWidth naturalHeight : Float32) :
    minScale ≤ fitScale width height naturalWidth naturalHeight :=
  (atLeast_larger rfl _).le rfl

theorem fitScale_le_one (width height naturalWidth naturalHeight : Float32) :
    fitScale width height naturalWidth naturalHeight ≤ 1 :=
  larger_le (smaller_le (axisScale_le_one ..) (axisScale_le_one ..)) minScale_le_one

/-! ## Extents -/

/-- Both coordinates are numbers and not negative. -/
def Point.IsNonneg (p : Point) : Prop :=
  0 ≤ p.x ∧ 0 ≤ p.y

theorem Point.IsNonneg.larger {p : Point} (h : p.IsNonneg) (x y : Float32) :
    (⟨larger p.x x, larger p.y y⟩ : Point).IsNonneg :=
  ⟨le_larger h.1 x, le_larger h.2 y⟩

/-- The corner of the content is not negative, even if nodes and paths have no place or one without
numbers. -/
theorem Flowchart.isNonneg_reach (fc : Flowchart) : fc.reach.IsNonneg := by
  have hzero : (0 : Float32) ≤ 0 := le_self rfl
  have hstart : (⟨0, 0⟩ : Point).IsNonneg := ⟨hzero, hzero⟩
  have hnodes := List.foldlRecOn (motive := Point.IsNonneg) fc.nodes
    (fun (p : Point) n => ⟨larger p.x (n.x + n.width), larger p.y (n.y + n.height)⟩) hstart
    fun _ hp _ _ => hp.larger _ _
  exact List.foldlRecOn (motive := Point.IsNonneg) _ _ hnodes fun _ hp _ _ => hp.larger _ _

theorem forty_le_add {reach : Float32} (h : 0 ≤ reach) : 40 ≤ reach + 2 * outerPadding := by
  obtain ⟨hfinite, hvalue⟩ := value_two_mul_outerPadding
  refine le_add h rfl hfinite rfl ?_
  rw [hvalue, value_forty, value_zero, zero_add]

theorem zero_le_sub {natural : Float32} (h : 40 ≤ natural) : 0 ≤ natural - 2 * outerPadding := by
  obtain ⟨hfinite, hvalue⟩ := value_two_mul_outerPadding
  refine le_sub h rfl hfinite rfl ?_
  rw [hvalue, value_forty, value_zero, sub_self]

namespace Flowchart

variable {fc : Flowchart} {measure : Measurer} {width height : Float32}

theorem inBounds_fitted (fc : Flowchart) (width height : Float32) :
    (fc.fitted width height).metrics.InBounds := by
  obtain ⟨hx, hy⟩ := fc.isNonneg_reach
  have hwidth := forty_le_add hx
  have hheight := forty_le_add hy
  exact {
    scale := ⟨(le_iff.1 (fitScale_le_one ..)).1, minScale_le_fitScale .., fitScale_le_one ..⟩
    naturalWidth := and_le_of_le hwidth
    naturalHeight := and_le_of_le hheight
    contentWidth := and_le_of_le (zero_le_sub hwidth)
    contentHeight := and_le_of_le (zero_le_sub hheight) }

theorem inBounds_emptyMetrics (width height : Float32) :
    (emptyMetrics width height).InBounds := by
  have hone : (1 : Float32) ≤ 1 := le_self rfl
  have hcontent : 0 ≤ emptyContentSize := by decide +kernel
  exact {
    scale := ⟨(le_iff.1 hone).1, minScale_le_one, hone⟩
    naturalWidth := and_le_of_le (forty_le_add hcontent)
    naturalHeight := and_le_of_le (forty_le_add hcontent)
    contentWidth := and_le_of_le hcontent
    contentHeight := and_le_of_le hcontent }

theorem inBounds_metrics_relaid (fc : Flowchart) (measure : Measurer) (width height : Float32) :
    (fc.relaid measure width height).metrics.InBounds := by
  by_cases h : fc.nodes.isEmpty = true
  · rw [relaid_of_isEmpty h]
    exact inBounds_emptyMetrics width height
  · -- the mark that the layout holds is set last, and is no part of the bounds
    rw [relaid_eq (by simpa using h)]
    obtain ⟨hscale, hwidth, hheight, hcontentWidth, hcontentHeight⟩ :=
      inBounds_fitted (fc.arranged measure).routed width height
    exact ⟨hscale, hwidth, hheight, hcontentWidth, hcontentHeight⟩

/-- Labels of any extent, any spacing and any viewport: a layout that is computed has a scale from
0.6 to 1, natural extents from 40 on and content extents from 0 on. -/
theorem metrics_inBounds_layoutWith (h : fc.isLaidOutFor width height = false)
    (measure : Measurer) : (fc.layoutWith measure width height).metrics.InBounds := by
  rw [layoutWith, h]
  exact inBounds_metrics_relaid fc measure width height

/-- A pair in a subgraph, with gaps, a padding and a font size that are not sensible numbers. -/
def unruly : Flowchart :=
  { direction := .rightToLeft
    spacing := {
      node := .ofBits 0x7fc00000
      rank := .ofBits 0x7f800000
      subgraphPadding := -5
      fontSize := .ofBits 0xff800000 }
    nodes := [{ Node.implicit "A" with shape := .circle, subgraph := some "G" },
      { Node.implicit "B" with shape := .diamond }, Node.implicit "C"]
    edges := [{ source := "A", target := "B", kind := .arrow }]
    subgraphs := [{ id := "G", title := "G" }] }

/-- A measurer that finds NaN in one direction and less than nothing in the other. -/
def unrulyMeasurer : Measurer := fun _ fontSize => ⟨.ofBits 0x7fc00000, fontSize⟩

theorem metrics_inBounds_unruly :
    unruly.isLaidOutFor 1 (.ofBits 0x7fc00000) = false ∧
      (unruly.layoutWith unrulyMeasurer 1 (.ofBits 0x7fc00000)).metrics.InBounds :=
  ⟨rfl, metrics_inBounds_layoutWith rfl unrulyMeasurer⟩

end Flowchart

/-! ## Sizes -/

theorem Node.inBounds_sized (measure : Measurer) (fontSize : Float32) (n : Node) :
    (n.sized measure fontSize).InBounds := by
  obtain ⟨hwidth, hheight⟩ := n.isSized_sized measure fontSize
  refine ⟨and_le_of_le (hwidth.le rfl), and_le_of_le (hheight.le rfl), fun hshape => ?_⟩
  have hsame : (n.sized measure fontSize).shape = n.shape := by
    show (n.sized measure fontSize).bare.shape = n.bare.shape
    rw [bare_sized]
  have hsquare : n.shape.isSquare = true := by
    rw [hsame] at hshape
    rcases hshape with h | h
    · rw [h]
      rfl
    · rw [h]
      rfl
  unfold sized
  simp only [hsquare, if_true]

namespace Flowchart

variable {fc : Flowchart} {measure : Measurer} {width height : Float32}

/-- Placing and fitting move the nodes without a change of their sizes. -/
theorem inBounds_of_mem_relaid {n : Node} (h : n ∈ (fc.relaid measure width height).nodes) :
    n.InBounds := by
  rw [nodes_relaid] at h
  obtain ⟨m, hm, rfl⟩ := List.mem_map.1 h
  obtain ⟨⟨k, seat⟩, hk, slot, groupSize, rfl⟩ := Grid.exists_eq_place_of_mem hm
  obtain ⟨k, -, rfl⟩ := List.mem_map.1 (List.of_mem_zip hk).1
  obtain ⟨hwidth, hheight, hsquare⟩ := Node.inBounds_sized measure fc.spacing.fontSize k
  exact ⟨hwidth, hheight, hsquare⟩

/-- Labels of any extent, any spacing and any viewport: a layout that is computed keeps all nodes,
in their order, and each of them is at least 40 wide and 24 high, and as wide as high if it is a
circle or a diamond. -/
theorem nodes_inBounds_layoutWith (h : fc.isLaidOutFor width height = false)
    (measure : Measurer) :
    (fc.layoutWith measure width height).nodes.map Node.bare = fc.nodes.map Node.bare ∧
      ∀ n ∈ (fc.layoutWith measure width height).nodes, n.InBounds := by
  rw [layoutWith, h]
  exact ⟨congrArg Flowchart.nodes (content_relaid fc measure width height),
    fun _ => inBounds_of_mem_relaid⟩

theorem nodes_inBounds_unruly :
    unruly.isLaidOutFor 1 (.ofBits 0x7fc00000) = false ∧
      (unruly.layoutWith unrulyMeasurer 1 (.ofBits 0x7fc00000)).nodes.map Node.bare =
        unruly.nodes.map Node.bare ∧
      ∀ n ∈ (unruly.layoutWith unrulyMeasurer 1 (.ofBits 0x7fc00000)).nodes, n.InBounds :=
  ⟨rfl, nodes_inBounds_layoutWith rfl unrulyMeasurer⟩

end Flowchart

end FlowchartLayout
