import FlowchartLayout.Proofs.Layout.Arrangement
import FlowchartLayout.Proofs.Layout.Cache

/-!
# Layouts for two viewports

A viewport decides how much the positions are scaled, and nothing else. Sizes are the same in any
two layouts of one flowchart, and so are the extents, which are found before anything is scaled.
Layouts with equal scales have everything in the same places.

## Main definitions

- `SameSizes`, `SamePlaces` — two layouts that agree on sizes and extents, or on all coordinates

## Main statements

- `rescale_eq_of_beq` — equal scales move every coordinate to the same place
- `Flowchart.subgraphs_relaid` — the boxes of a layout are found from its nodes
- `Flowchart.layoutWith_viewports` — two layouts of one flowchart
-/

namespace FlowchartLayout

/-- The layouts agree on the sizes of the nodes, the edges that have paths, and the extents. -/
structure SameSizes (a b : Flowchart) : Prop where
  nodes : a.nodes.map (fun n => (n.width, n.height)) = b.nodes.map fun n => (n.width, n.height)
  paths : a.edges.map (·.path.length) = b.edges.map (·.path.length)
  extents : a.metrics.naturalWidth = b.metrics.naturalWidth ∧
    a.metrics.naturalHeight = b.metrics.naturalHeight ∧
    a.metrics.contentWidth = b.metrics.contentWidth ∧
    a.metrics.contentHeight = b.metrics.contentHeight

/-- The layouts agree on all nodes, all edges and all subgraphs, with their coordinates. -/
structure SamePlaces (a b : Flowchart) : Prop where
  nodes : a.nodes = b.nodes
  edges : a.edges = b.edges
  subgraphs : a.subgraphs = b.subgraphs

/-! ## Scaling -/

theorem extended_ne_zero_of_atLeast {scale : Float32} (h : AtLeast minScale scale) :
    extended scale ≠ 0 := by
  have hmin : (0 : WithBot (WithTop ℚ)) < extended minScale := by
    rw [extended_of_isFinite (by rfl)]
    exact WithBot.coe_lt_coe.2 (WithTop.coe_lt_coe.2 (by linarith [le_value_minScale]))
  exact (hmin.trans_le h.2).ne'

/-- Only the form of the scale matters, which equal scales share: none of them is zero. -/
theorem rescale_eq_of_beq {scale scale' : Float32} (h : AtLeast minScale scale)
    (hbeq : (scale == scale') = true) : rescale scale = rescale scale' := by
  have hform := unpack_eq_of_beq hbeq (extended_ne_zero_of_atLeast h)
  have hlt : scale < 1 ↔ scale' < 1 := by
    rw [lt_iff_compare, lt_iff_compare, hform]
  have hmul (v : Float32) : v * scale = v * scale' := by
    show Float32.ofModel (.pack (.mul .binary32 v.toModel.unpack scale.toModel.unpack)) = _
    rw [hform]
    rfl
  ext1 v
  simp only [rescale, hlt, hmul]

theorem Node.rescaled_eq_of_rescale_eq {scale scale' : Float32}
    (h : rescale scale = rescale scale') : Node.rescaled scale = Node.rescaled scale' := by
  ext1 n
  rw [rescaled, rescaled, h]

theorem Edge.rescaled_eq_of_rescale_eq {scale scale' : Float32}
    (h : rescale scale = rescale scale') : Edge.rescaled scale = Edge.rescaled scale' := by
  have hpoint : Point.rescaled scale = Point.rescaled scale' := by
    ext1 p
    rw [Point.rescaled, Point.rescaled, h]
  ext1 e
  rw [rescaled, rescaled, hpoint]

/-- Sizes are not scaled. -/
theorem map_size_rescaled (scale : Float32) (nodes : List Node) :
    (nodes.map (·.rescaled scale)).map (fun n => (n.width, n.height)) =
      nodes.map fun n => (n.width, n.height) := by
  rw [List.map_map]
  rfl

theorem map_length_rescaled (scale : Float32) (edges : List Edge) :
    (edges.map (·.rescaled scale)).map (·.path.length) = edges.map (·.path.length) := by
  rw [List.map_map]
  refine List.map_congr_left fun e _ => ?_
  exact List.length_map _

namespace Flowchart

variable {fc : Flowchart} {measure : Measurer} {width height width' height' : Float32}

/-! ## Two layouts -/

/-- The boxes depend on the nodes, on the padding, and on the subgraphs as they were. -/
theorem subgraphs_bounded_congr {f g : Flowchart} (hnodes : f.nodes = g.nodes)
    (hspacing : f.spacing = g.spacing) (hsubgraphs : f.subgraphs = g.subgraphs) :
    f.bounded.subgraphs = g.bounded.subgraphs := by
  have hroots : f.rootSubgraphs = g.rootSubgraphs := by
    unfold rootSubgraphs findSubgraph?
    rw [hsubgraphs]
  simp only [bounded, hnodes, hspacing, hsubgraphs, hroots]

/-- The viewport reaches the boxes through the nodes only. -/
theorem subgraphs_relaid (h : fc.nodes.isEmpty = false) :
    (fc.relaid measure width height).subgraphs =
      { fc.cleared with nodes := (fc.relaid measure width height).nodes }.bounded.subgraphs := by
  rw [relaid_eq h]
  exact subgraphs_bounded_congr rfl rfl rfl

/-- The extents are found before anything is scaled, and the sizes are not scaled at all. -/
theorem sameSizes_relaid (fc : Flowchart) (measure : Measurer)
    (width height width' height' : Float32) :
    SameSizes (fc.relaid measure width height) (fc.relaid measure width' height') where
  nodes := by
    rw [nodes_relaid, nodes_relaid, map_size_rescaled, map_size_rescaled]
  paths := by
    rw [edges_relaid, edges_relaid, map_length_rescaled, map_length_rescaled]
  extents := by
    cases h : fc.nodes.isEmpty with
    | true =>
      rw [relaid_of_isEmpty h, relaid_of_isEmpty h]
      exact ⟨rfl, rfl, rfl, rfl⟩
    | false =>
      rw [relaid_eq h, relaid_eq h]
      exact ⟨rfl, rfl, rfl, rfl⟩

/-- Layouts with equal scales have everything in the same places. -/
theorem samePlaces_relaid
    (h : ((fc.relaid measure width height).metrics.scale ==
      (fc.relaid measure width' height').metrics.scale) = true) :
    SamePlaces (fc.relaid measure width height) (fc.relaid measure width' height') := by
  have hrescale := rescale_eq_of_beq atLeast_scale h
  have hnodes :
      (fc.relaid measure width height).nodes = (fc.relaid measure width' height').nodes := by
    rw [nodes_relaid, nodes_relaid, Node.rescaled_eq_of_rescale_eq hrescale]
  refine ⟨hnodes, ?_, ?_⟩
  · rw [edges_relaid, edges_relaid, Edge.rescaled_eq_of_rescale_eq hrescale]
  · cases hempty : fc.nodes.isEmpty with
    | true => rw [relaid_of_isEmpty hempty, relaid_of_isEmpty hempty]
    | false => rw [subgraphs_relaid hempty, subgraphs_relaid hempty, hnodes]

/-- For a flowchart without a layout, any labels and any two viewports, which need not be finite or
positive: both layouts have the same sizes and extents, and if their scales are equal, everything is
in the same places. -/
theorem layoutWith_viewports (h : fc.Stale) (measure : Measurer)
    (width height width' height' : Float32) :
    SameSizes (fc.layoutWith measure width height) (fc.layoutWith measure width' height') ∧
      (((fc.layoutWith measure width height).metrics.scale ==
        (fc.layoutWith measure width' height').metrics.scale) = true →
      SamePlaces (fc.layoutWith measure width height)
        (fc.layoutWith measure width' height')) := by
  rw [h.layoutWith, h.layoutWith]
  exact ⟨sameSizes_relaid .., samePlaces_relaid⟩

/-- Two nodes, one above the other, and the lower one in a subgraph. -/
def stackedPair : Flowchart :=
  { direction := .topToBottom
    nodes := [Node.implicit "A", { Node.implicit "B" with subgraph := some "G" }]
    edges := [{ source := "A", target := "B", kind := .arrow }]
    subgraphs := [{ id := "G", title := "G" }] }

/-- Two viewports are too low for the pair, which is scaled as far down as possible in both. -/
theorem layoutWith_viewports_stackedPair :
    let low := stackedPair.layoutWith (ColumnMeasurer.measure {}) 800 60
    let lower := stackedPair.layoutWith (ColumnMeasurer.measure {}) 300 50
    stackedPair.Stale ∧ low.metrics.scale < 1 ∧ SameSizes low lower ∧
      (low.metrics.scale == lower.metrics.scale) = true ∧ SamePlaces low lower := by
  intro low lower
  have hscale : (low.metrics.scale == lower.metrics.scale) = true := by decide +kernel
  obtain ⟨hsizes, hplaces⟩ :=
    @layoutWith_viewports stackedPair rfl (ColumnMeasurer.measure {}) 800 60 300 50
  exact ⟨rfl, by decide +kernel, hsizes, hscale, hplaces hscale⟩

end Flowchart

end FlowchartLayout
