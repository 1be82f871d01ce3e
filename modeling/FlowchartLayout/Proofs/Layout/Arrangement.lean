import FlowchartLayout.Proofs.Layout.Content
import FlowchartLayout.Proofs.Layout.Grid
import FlowchartLayout.Proofs.Number.Order

/-!
# Nodes in their places

A layout puts every node into a cell of the grid before edges are routed and everything is fitted
into the viewport.

## Main definitions

- `Flowchart.arranged` — the flowchart with its nodes sized and placed, but not yet fitted

## Main statements

- `Grid.getElem?_placeAll` — each node is placed by its own seat and the seats before it
- `Flowchart.nodes_relaid`, `Flowchart.edges_relaid` — what a layout makes of the arrangement
-/

namespace FlowchartLayout

theorem value_outerPadding : value outerPadding = 20 :=
  (value_ofNat (n := 20) (by norm_num)).2

theorem isFinite_outerPadding : outerPadding.isFinite = true :=
  (value_ofNat (n := 20) (by norm_num)).1

theorem value_minScale : value minScale = 10066330 * 2 ^ (-24 : ℤ) :=
  @value_of_unpack minScale 10066330 (-24) (by decide) rfl

theorem le_value_minScale : 3 / 5 ≤ value minScale := by
  rw [value_minScale]
  norm_num

theorem minScale_le_one : minScale ≤ 1 := by
  refine le_iff.2 ⟨rfl, rfl, ?_⟩
  rw [extended_of_isFinite rfl, extended_of_isFinite rfl, value_minScale, value_one]
  exact WithBot.coe_le_coe.2 (WithTop.coe_le_coe.2 (by norm_num))

/-- Each node is placed by its seat, the seats before it, and the size of its group. -/
theorem Grid.getElem?_placeAll (grid : Grid) (spacing : Spacing) (flow : Direction)
    (all before : List Seat) (pairs : List (Node × Seat)) (i : Nat) :
    (grid.placeAll spacing flow all before pairs)[i]? = pairs[i]?.map fun p =>
      grid.place spacing p.2 (p.2.slot flow (((pairs.take i).map (·.2)).reverse ++ before))
        (all.countP p.2.sameGroup) p.1 := by
  induction pairs generalizing before i with
  | nil => rfl
  | cons p pairs ih =>
    cases i with
    | zero => rfl
    | succ i =>
      rw [Grid.placeAll, List.getElem?_cons_succ, ih]
      simp

theorem Grid.exists_eq_place_of_mem {grid : Grid} {spacing : Spacing} {flow : Direction}
    {all before : List Seat} {pairs : List (Node × Seat)} {n : Node}
    (h : n ∈ grid.placeAll spacing flow all before pairs) :
    ∃ p ∈ pairs, ∃ slot groupSize, n = grid.place spacing p.2 slot groupSize p.1 := by
  obtain ⟨i, hi⟩ := List.mem_iff_getElem?.1 h
  rw [Grid.getElem?_placeAll] at hi
  obtain ⟨p, hp, rfl⟩ := Option.map_eq_some_iff.1 hi
  exact ⟨p, List.mem_of_getElem? hp, _, _, rfl⟩

/-- The node moved to where its coordinates go. -/
def Node.rescaled (scale : Float32) (n : Node) : Node :=
  { n with x := rescale scale n.x, y := rescale scale n.y }

/-- The edge moved to where its coordinates go. -/
def Edge.rescaled (scale : Float32) (e : Edge) : Edge :=
  { e with
    path := e.path.map (·.rescaled scale)
    labelPosition := e.labelPosition.map (·.rescaled scale) }

namespace Flowchart

/-- The flowchart with its nodes sized and placed, before it is fitted. -/
def arranged (fc : Flowchart) (measure : Measurer) : Flowchart :=
  let fc := fc.cleared.sized measure
  fc.placed (assignLayers fc.nodes fc.edges)

variable {fc : Flowchart} {measure : Measurer} {width height : Float32}

theorem content_arranged : (fc.arranged measure).content = fc.content := by
  calc (fc.arranged measure).content
    _ = (fc.cleared.sized measure).content := content_placed _ (length_assignLayers _ _)
    _ = fc.cleared.content := content_sized ..
    _ = fc.content := content_cleared fc

theorem relaid_eq (h : fc.nodes.isEmpty = false) :
    fc.relaid measure width height =
      { (((fc.arranged measure).routed).fitted width height).bounded with
        metrics := { (((fc.arranged measure).routed).fitted width height).metrics with
          computed := true } } := by
  rw [relaid]
  simp only [cleared, h]
  rfl

theorem relaid_of_isEmpty (h : fc.nodes.isEmpty = true) :
    fc.relaid measure width height = { fc.cleared with metrics := emptyMetrics width height } := by
  rw [relaid]
  simp only [cleared, h]
  rfl

/-- Fitting moves the nodes; nothing after the arrangement changes anything else about them. -/
theorem nodes_relaid : (fc.relaid measure width height).nodes =
    (fc.arranged measure).nodes.map
      (·.rescaled (fc.relaid measure width height).metrics.scale) := by
  by_cases h : fc.nodes.isEmpty = true
  · rw [relaid_of_isEmpty h]
    rw [List.isEmpty_iff] at h
    simp [arranged, cleared, sized, placed, Grid.placeAll, h]
  · rw [relaid_eq (by simpa using h)]
    rfl

theorem edges_relaid : (fc.relaid measure width height).edges =
    ((fc.arranged measure).routed).edges.map
      (·.rescaled (fc.relaid measure width height).metrics.scale) := by
  by_cases h : fc.nodes.isEmpty = true
  · rw [relaid_of_isEmpty h]
    rw [List.isEmpty_iff] at h
    simp [arranged, cleared, sized, placed, Grid.placeAll, routed, Edge.routed, findNode?, h,
      Edge.rescaled]
  · rw [relaid_eq (by simpa using h)]
    rfl

/-- The recorded scale is a number and not less than the smallest scale. -/
theorem atLeast_scale : AtLeast minScale (fc.relaid measure width height).metrics.scale := by
  have hmin : minScale.isFinite = true := rfl
  by_cases h : fc.nodes.isEmpty = true
  · rw [relaid_of_isEmpty h]
    show AtLeast minScale 1
    exact (le_iff.1 minScale_le_one).2
  · rw [relaid_eq (by simpa using h)]
    exact atLeast_larger hmin _

/-! ## Coordinates of the arrangement -/

theorem isSized_sized {n : Node} (h : n ∈ (fc.cleared.sized measure).nodes) : n.IsSized := by
  obtain ⟨m, -, rfl⟩ := List.mem_map.1 h
  exact Node.isSized_sized ..

/-- The grid that the nodes are placed on. -/
def grid (fc : Flowchart) (measure : Measurer) : Grid :=
  Grid.of (fc.cleared.sized measure).nodes
    (assignLayers (fc.cleared.sized measure).nodes (fc.cleared.sized measure).edges)

theorem grid_fits {n : Node} (h : n ∈ (fc.cleared.sized measure).nodes) :
    (fc.grid measure).Fits n :=
  Grid.fits_of_mem (fun _ hm => isSized_sized hm) _ h

/-- With the default gaps no coordinate is negative. -/
theorem nonneg_of_mem_arranged (hspacing : fc.spacing = {}) {n : Node}
    (h : n ∈ (fc.arranged measure).nodes) :
    n.IsSized ∧ (n.x.isFinite = true → 0 ≤ value n.x) ∧ (n.y.isFinite = true → 0 ≤ value n.y) := by
  obtain ⟨⟨m, seat⟩, hm, slot, groupSize, rfl⟩ := Grid.exists_eq_place_of_mem h
  have hfits : (fc.grid measure).Fits m := grid_fits (List.of_mem_zip hm).1
  obtain ⟨hnode, hrank⟩ := value_gaps
  have hgaps : (fc.cleared.sized measure).spacing = {} := hspacing
  rw [hgaps, Grid.place_eq]
  refine ⟨⟨hfits.width, hfits.height⟩, fun hx => ?_, fun hy => ?_⟩
  · exact centredIn_nonneg hx (hfits.corner_nonneg (by rw [hrank]; norm_num)
      (by rw [hnode]; norm_num) (finite_of_centredIn hx).1) hfits.cellWidth
  · exact centredIn_nonneg hy (hfits.corner_nonneg (by rw [hrank]; norm_num)
      (by rw [hnode]; norm_num) (finite_of_centredIn hy).1) hfits.cellHeight

end Flowchart

end FlowchartLayout
