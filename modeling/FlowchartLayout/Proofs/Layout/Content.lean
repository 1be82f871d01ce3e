import FlowchartLayout.Layout.Compute
import FlowchartLayout.Proofs.Layers.Stages

/-!
# Content and geometry

A flowchart consists of its content, which is what was put into it, and of its geometry, which is
what a layout computes. A layout reads nothing but the content and leaves the content as it is;
hence a layout of a flowchart that is laid out already gives the same flowchart again.

## Main definitions

- `Node.bare`, `Edge.bare`, `Subgraph.bare` — records without their geometry
- `Flowchart.content` — a flowchart without its geometry

## Main statements

- `Flowchart.relaid_content` — a layout depends on the content only
- `Flowchart.content_relaid` — a layout keeps the content
- `Flowchart.relaid_relaid` — only the last of two layouts counts
-/

namespace FlowchartLayout

/-! ## Records without geometry -/

/-- The node without place and size. -/
def Node.bare (n : Node) : Node :=
  { n with x := 0, y := 0, width := 0, height := 0 }

/-- The node without its place. -/
def Node.unplaced (n : Node) : Node :=
  { n with x := 0, y := 0 }

/-- The edge without a path. -/
def Edge.bare (e : Edge) : Edge :=
  { e with path := [], labelPosition := none }

/-- The subgraph without bounds. -/
def Subgraph.bare (s : Subgraph) : Subgraph :=
  { s with x := 0, y := 0, width := 0, height := 0 }

namespace Flowchart

/-- What was put into a flowchart: its records, direction and spacing, without any geometry. -/
def content (fc : Flowchart) : Flowchart :=
  { fc with
    nodes := fc.nodes.map Node.bare
    edges := fc.edges.map Edge.bare
    subgraphs := fc.subgraphs.map Subgraph.bare
    metrics := {} }

variable (fc : Flowchart) (measure : Measurer) (width height : Float32) (layers : List Nat)

/-! ## A layout reads the content only -/

theorem cleared_content : fc.content.cleared =
    { fc.cleared with nodes := fc.nodes.map Node.bare, metrics := {} } := by
  simp only [cleared, content, List.map_map]
  rfl

end Flowchart

theorem Node.sized_bare (measure : Measurer) (fontSize : Float32) (n : Node) :
    n.bare.sized measure fontSize = (n.sized measure fontSize).unplaced := by
  unfold Node.sized
  change (if n.shape.isSquare then _ else _) = _
  split
  · rfl
  · rfl

theorem links_map_unplaced (nodes : List Node) (edges : List Edge) :
    links (nodes.map Node.unplaced) edges = links nodes edges := by
  unfold links
  rw [List.map_map]
  rfl

theorem assignLayers_map_unplaced (nodes : List Node) (edges : List Edge) :
    assignLayers (nodes.map Node.unplaced) edges = assignLayers nodes edges := by
  unfold assignLayers
  rw [links_map_unplaced, List.length_map]

theorem Grid.of_map_unplaced (nodes : List Node) (layers : List Nat) :
    Grid.of (nodes.map Node.unplaced) layers = Grid.of nodes layers := by
  unfold Grid.of
  rw [List.foldl_map, List.foldl_map]
  rfl

theorem Grid.placeAll_map_unplaced (grid : Grid) (spacing : Spacing) (flow : Direction)
    (all before : List Seat) (pairs : List (Node × Seat)) :
    grid.placeAll spacing flow all before (pairs.map (Prod.map Node.unplaced id)) =
      grid.placeAll spacing flow all before pairs := by
  induction pairs generalizing before with
  | nil => rfl
  | cons pair pairs ih =>
    simp only [List.map_cons, Prod.map, Grid.placeAll, id]
    rw [← ih]
    rfl

namespace Flowchart

variable (fc : Flowchart) (measure : Measurer) (width height : Float32) (layers : List Nat)

/-- The direction of a subgraph depends on the subgraphs and the direction of the flowchart only. -/
theorem directionFrom_congr {f g : Flowchart} (hdirection : f.direction = g.direction)
    (hsubgraphs : f.subgraphs = g.subgraphs) (steps : Nat) (id : Option String) :
    f.directionFrom steps id = g.directionFrom steps id := by
  induction steps generalizing id with
  | zero => exact hdirection
  | succ steps ih =>
    cases id with
    | none => exact hdirection
    | some id =>
      simp only [directionFrom, findSubgraph?, hsubgraphs, hdirection, ih]

theorem effectiveDirection_congr {f g : Flowchart} (hdirection : f.direction = g.direction)
    (hsubgraphs : f.subgraphs = g.subgraphs) (n : Node) :
    f.effectiveDirection n = g.effectiveDirection n := by
  unfold effectiveDirection
  rw [hsubgraphs]
  exact directionFrom_congr hdirection hsubgraphs _ _

theorem seats_unplaced :
    seats { fc with nodes := fc.nodes.map Node.unplaced, metrics := {} } layers =
      fc.seats layers := by
  unfold seats
  rw [List.zip_map_left, List.map_map]
  refine List.map_congr_left fun pair _ => ?_
  have hdirection := effectiveDirection_congr
    (f := { fc with nodes := fc.nodes.map Node.unplaced, metrics := {} }) (g := fc)
    rfl rfl pair.1.unplaced
  exact congrArg (fun direction => Seat.mk pair.2 direction pair.1.subgraph) hdirection

/-- Placing does not ask where the nodes were. -/
theorem placed_unplaced :
    placed { fc with nodes := fc.nodes.map Node.unplaced, metrics := {} } layers =
      { fc.placed layers with metrics := {} } := by
  unfold placed
  rw [seats_unplaced, Grid.of_map_unplaced]
  simp only [List.zip_map_left, Grid.placeAll_map_unplaced]

theorem sized_cleared_content :
    fc.content.cleared.sized measure =
      { fc.cleared.sized measure with
        nodes := (fc.cleared.sized measure).nodes.map Node.unplaced, metrics := {} } := by
  rw [cleared_content]
  simp only [sized, cleared, List.map_map]
  congr 1
  exact List.map_congr_left fun n _ => Node.sized_bare measure fc.spacing.fontSize n

theorem isEmpty_content_cleared : fc.content.cleared.nodes.isEmpty = fc.cleared.nodes.isEmpty :=
  List.isEmpty_map

/-- A layout depends on the content only. -/
theorem relaid_content :
    fc.content.relaid measure width height = fc.relaid measure width height := by
  unfold relaid
  simp only [isEmpty_content_cleared]
  -- without nodes only metrics are computed, and otherwise the nodes are placed anew
  split
  · next h =>
    have hnil : fc.nodes = [] := List.isEmpty_iff.1 h
    rw [cleared_content]
    simp only [cleared, hnil, List.map_nil]
  · rw [sized_cleared_content, assignLayers_map_unplaced, placed_unplaced]
    rfl

end Flowchart

/-! ## A layout keeps the content -/

theorem Node.bare_sized (measure : Measurer) (fontSize : Float32) (n : Node) :
    (n.sized measure fontSize).bare = n.bare := by
  unfold Node.sized
  simp only
  split
  · rfl
  · rfl

theorem Edge.bare_routed (fc : Flowchart) (e : Edge) : (e.routed fc).bare = e.bare := by
  unfold Edge.routed
  split
  · rfl
  · rfl

theorem Grid.map_bare_placeAll (grid : Grid) (spacing : Spacing) (flow : Direction)
    (all before : List Seat) (pairs : List (Node × Seat)) :
    (grid.placeAll spacing flow all before pairs).map Node.bare =
      pairs.map fun pair => pair.1.bare := by
  induction pairs generalizing before with
  | nil => rfl
  | cons pair pairs ih =>
    simp only [Grid.placeAll, List.map_cons, ih]
    rfl

/-- Putting bounds on the first subgraph with an id changes no more than its geometry. -/
theorem map_bare_modify {subgraphs : List Subgraph} {s : Subgraph} {id : String} {padding : Float32}
    {inner : Box} (h : subgraphs.find? (·.id == id) = some s) :
    (subgraphs.modify (subgraphs.findIdx (·.id == id)) fun _ => s.around padding inner).map
      Subgraph.bare = subgraphs.map Subgraph.bare := by
  induction subgraphs with
  | nil => rfl
  | cons t ts ih =>
    rw [List.find?_cons] at h
    rw [List.findIdx_cons]
    cases ht : t.id == id with
    | true =>
      rw [ht] at h
      cases h
      rfl
    | false =>
      rw [ht] at h
      simp only [cond_false, List.modify_succ_cons, List.map_cons, ih h]

namespace Bounding

/-- A visit changes no more than the geometry of subgraphs. -/
theorem map_bare_visit (nodes : List Node) (padding : Float32) (depth : Nat) (b : Bounding)
    (id : String) :
    (visit nodes padding depth b id).1.subgraphs.map Subgraph.bare =
      b.subgraphs.map Subgraph.bare := by
  induction depth generalizing b id with
  | zero => rfl
  | succ depth ih =>
    unfold visit
    split
    · rfl
    · -- the visits of the children come first, and each keeps the content
      have hchildren (children : List String) (start : Bounding × Option Box) :
          (children.foldl
            (fun (acc : Bounding × Option Box) child =>
              ((visit nodes padding depth acc.1 child).1,
                Box.union? acc.2 (visit nodes padding depth acc.1 child).2))
            start).1.subgraphs.map Subgraph.bare = start.1.subgraphs.map Subgraph.bare :=
        List.foldlRecOn (motive := fun acc : Bounding × Option Box =>
            acc.1.subgraphs.map Subgraph.bare = start.1.subgraphs.map Subgraph.bare)
          children _ rfl fun acc hacc child _ => (ih acc.1 child).trans hacc
      simp only
      split
      · next hfind =>
        simp only
        rw [map_bare_modify hfind]
        exact hchildren _ _
      · exact hchildren _ _

end Bounding

namespace Flowchart

variable (fc : Flowchart) (measure : Measurer) (width height : Float32)

theorem content_cleared : fc.cleared.content = fc.content := by
  simp only [cleared, content, List.map_map]
  rfl

theorem content_sized : (fc.sized measure).content = fc.content := by
  simp only [sized, content, List.map_map]
  congr 1
  exact List.map_congr_left fun n _ => Node.bare_sized measure _ n

/-- Placing keeps every node, if there is a layer for each. -/
theorem content_placed {layers : List Nat} (h : layers.length = fc.nodes.length) :
    (fc.placed layers).content = fc.content := by
  have hseats : (fc.seats layers).length = fc.nodes.length := by
    rw [seats, List.length_map, List.length_zip, h, Nat.min_self]
  have hnodes : ((fc.nodes.zip (fc.seats layers)).map fun pair => pair.1.bare) =
      fc.nodes.map Node.bare := by
    calc ((fc.nodes.zip (fc.seats layers)).map fun pair => pair.1.bare)
      _ = ((fc.nodes.zip (fc.seats layers)).map Prod.fst).map Node.bare :=
          by rw [List.map_map]; rfl
      _ = fc.nodes.map Node.bare := by rw [List.map_fst_zip (Nat.le_of_eq hseats.symm)]
  simp only [placed, content, Grid.map_bare_placeAll, hnodes]

theorem content_routed : fc.routed.content = fc.content := by
  simp only [routed, content, List.map_map]
  congr 1
  exact List.map_congr_left fun e _ => Edge.bare_routed fc e

theorem content_fitted : (fc.fitted width height).content = fc.content := by
  simp only [fitted, content, List.map_map]
  rfl

theorem content_bounded : fc.bounded.content = fc.content := by
  have hsubgraphs : fc.bounded.subgraphs.map Subgraph.bare = fc.subgraphs.map Subgraph.bare :=
    List.foldlRecOn (motive := fun b : Bounding =>
        b.subgraphs.map Subgraph.bare = fc.subgraphs.map Subgraph.bare)
      fc.rootSubgraphs _ rfl fun b hb id _ => (Bounding.map_bare_visit _ _ _ b id).trans hb
  exact congrArg (fun subgraphs => { fc.content with subgraphs }) hsubgraphs

/-- A layout keeps the content. -/
theorem content_relaid : (fc.relaid measure width height).content = fc.content := by
  unfold relaid
  simp only
  split
  · exact content_cleared fc
  · have hlayers : (assignLayers (fc.cleared.sized measure).nodes
        (fc.cleared.sized measure).edges).length = (fc.cleared.sized measure).nodes.length :=
      length_assignLayers _ _
    calc (((fc.cleared.sized measure).placed _).routed.fitted width height).bounded.content
      _ = (((fc.cleared.sized measure).placed _).routed.fitted width height).content :=
          content_bounded _
      _ = ((fc.cleared.sized measure).placed _).routed.content := content_fitted ..
      _ = ((fc.cleared.sized measure).placed _).content := content_routed _
      _ = (fc.cleared.sized measure).content := content_placed _ hlayers
      _ = fc.cleared.content := content_sized ..
      _ = fc.content := content_cleared fc

/-- Only the last of two layouts counts. -/
theorem relaid_relaid (width' height' : Float32) :
    (fc.relaid measure width' height').relaid measure width height =
      fc.relaid measure width height := by
  rw [← relaid_content, content_relaid, relaid_content]

end Flowchart

end FlowchartLayout
