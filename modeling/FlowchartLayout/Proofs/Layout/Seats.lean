import FlowchartLayout.Proofs.Layout.Arrangement

/-!
# Seats in rows

The layer, the subgraph and the direction of every node decide where the nodes sit. Without
directions of their own, the subgraphs of a flowchart leave it to two counts where a node sits in
the row of its layer: how many nodes of the layer come before it, and how many nodes of the layer
are in the same subgraph.

## Main definitions

- `Flowchart.layerAt`, `Flowchart.subgraphAt` — the layer and the subgraph of the node at a position
- `Flowchart.slotAt`, `Flowchart.groupSizeAt` — the two counts
- `Flowchart.offsetAt` — how far from the middle of its row a node sits
- `Flowchart.directedSeatAt`, `Flowchart.directedSlotAt` — the seat and the slot, with directions

## Main statements

- `Flowchart.two_le_offset` — nodes of one layer and one subgraph sit apart
- `Flowchart.getElem?_nodes_placed_directed` — each node is placed by its seat and two counts
- `Flowchart.exists_place_of_getElem?` — the places that the nodes of a layout get, where subgraphs
  set no directions
-/

namespace FlowchartLayout

theorem le_foldl_max {ns : List Nat} {n start : Nat} (h : n = start ∨ n ∈ ns) :
    n ≤ ns.foldl max start := by
  induction ns generalizing n start with
  | nil => simp_all
  | cons m ns ih =>
    rw [List.foldl_cons]
    have hstart : max start m ≤ ns.foldl max (max start m) := ih (.inl rfl)
    rcases h with rfl | h
    · exact Nat.le_trans (Nat.le_max_left n m) hstart
    · rcases List.mem_cons.1 h with rfl | h
      · exact Nat.le_trans (Nat.le_max_right start n) hstart
      · exact ih (.inr h)

/-- A later count that counts at least as much, and the position of the earlier one, is larger. -/
theorem countP_range_lt {p q : Nat → Bool} {i n : Nat} (hpq : ∀ j, p j = true → q j = true)
    (hi : q i = true) (h : i < n) : (List.range i).countP p < (List.range n).countP q := by
  calc (List.range i).countP p
    _ ≤ (List.range i).countP q := List.countP_mono_left fun j _ => hpq j
    _ < (List.range (i + 1)).countP q := by simp [List.range_succ, hi]
    _ ≤ (List.range n).countP q := (List.range_sublist.2 h).countP_le

namespace Flowchart

variable (fc : Flowchart)

/-- The layer of the node at a position. -/
def layerAt (i : Nat) : Nat :=
  (assignLayers fc.nodes fc.edges).getD i 0

/-- The subgraph that holds the node at a position. -/
def subgraphAt (i : Nat) : Option String :=
  (fc.nodes[i]?).bind (·.subgraph)

/-- The number of nodes before the position on its layer. -/
def slotAt (i : Nat) : Nat :=
  (List.range i).countP fun j => fc.layerAt j == fc.layerAt i

/-- The number of nodes on the layer of the position and in its subgraph. -/
def groupSizeAt (i : Nat) : Nat :=
  (List.range fc.nodes.length).countP fun j =>
    fc.layerAt i == fc.layerAt j && fc.subgraphAt i == fc.subgraphAt j

/-- Twice the distance from the middle of the row to the middle of the cell at the position, in
steps of the grid. -/
def offsetAt (i : Nat) : Int :=
  2 * fc.slotAt i + 1 - fc.groupSizeAt i

variable {fc} {i j : Nat}

theorem slotAt_lt (h : i < j) (hlayer : fc.layerAt i = fc.layerAt j) :
    fc.slotAt i < fc.slotAt j := by
  rw [slotAt, slotAt, hlayer]
  exact countP_range_lt (fun _ => id) (by simp [hlayer]) h

/-- Nodes of one layer and one subgraph sit at least a step apart. -/
theorem two_le_offset (hij : i ≠ j) (hlayer : fc.layerAt i = fc.layerAt j)
    (hsubgraph : fc.subgraphAt i = fc.subgraphAt j) :
    2 ≤ |fc.offsetAt i - fc.offsetAt j| := by
  have hsize : fc.groupSizeAt i = fc.groupSizeAt j := by
    simp only [groupSizeAt, hlayer, hsubgraph]
  have hslot : fc.slotAt i < fc.slotAt j ∨ fc.slotAt j < fc.slotAt i :=
    (Nat.lt_or_gt_of_ne hij).imp (slotAt_lt · hlayer) (slotAt_lt · hlayer.symm)
  simp only [offsetAt, hsize]
  rw [le_abs]
  omega

theorem assignLayers_bare (nodes : List Node) (edges : List Edge) :
    assignLayers (nodes.map Node.bare) (edges.map Edge.bare) = assignLayers nodes edges := by
  have hlinks : links (nodes.map Node.bare) (edges.map Edge.bare) = links nodes edges := by
    simp only [links, List.map_map, List.filterMap_map]
    rfl
  unfold assignLayers
  rw [hlinks, List.length_map]

/-- Where nodes sit depends on the content only. -/
theorem seats_eq_of_content_eq {f g : Flowchart} (h : f.content = g.content) :
    f.layerAt = g.layerAt ∧ f.subgraphAt = g.subgraphAt ∧ f.slotAt = g.slotAt ∧
      f.groupSizeAt = g.groupSizeAt := by
  have hlayer (fc : Flowchart) : fc.content.layerAt = fc.layerAt := by
    ext i
    exact congrArg (·.getD i 0) (assignLayers_bare fc.nodes fc.edges)
  have hsubgraph (fc : Flowchart) : fc.content.subgraphAt = fc.subgraphAt := by
    ext1 i
    simp only [subgraphAt, content, List.getElem?_map, Option.bind_map]
    rfl
  have hlength (fc : Flowchart) : fc.content.nodes.length = fc.nodes.length := List.length_map _
  have hlayers : f.layerAt = g.layerAt := by rw [← hlayer f, h, hlayer g]
  have hsubgraphs : f.subgraphAt = g.subgraphAt := by rw [← hsubgraph f, h, hsubgraph g]
  refine ⟨hlayers, hsubgraphs, ?_, ?_⟩
  · ext i
    simp only [slotAt, hlayers]
  · ext i
    simp only [groupSizeAt, hlayers, hsubgraphs]
    rw [← hlength f, h, hlength g]

theorem offsetAt_eq_of_content_eq {f g : Flowchart} (h : f.content = g.content) :
    f.offsetAt = g.offsetAt := by
  obtain ⟨-, -, hslot, hgroup⟩ := seats_eq_of_content_eq h
  ext i
  simp only [offsetAt, hslot, hgroup]

theorem direction_of_content_eq {f g : Flowchart} (h : f.content = g.content)
    (hf : ∀ s ∈ f.subgraphs, s.direction = none) : ∀ s ∈ g.subgraphs, s.direction = none := by
  intro s hs
  have hmem : s.bare ∈ f.content.subgraphs := by
    rw [h]
    exact List.mem_map_of_mem hs
  obtain ⟨t, ht, hbare⟩ := List.mem_map.1 hmem
  exact (congrArg Subgraph.direction hbare).symm.trans (hf t ht)

theorem content_sized_cleared (fc : Flowchart) (measure : Measurer) :
    (fc.cleared.sized measure).content = fc.content := by
  rw [content_sized, content_cleared]

/-! ## Rows of the grid -/

theorem layers_eq (fc : Flowchart) :
    assignLayers fc.nodes fc.edges = (List.range fc.nodes.length).map fc.layerAt := by
  refine List.ext_getElem (by simp [length_assignLayers]) fun i hi _ => ?_
  simp [layerAt, List.getElem?_eq_getElem hi]

theorem layerAt_le_lastLayer (hi : i < fc.nodes.length) :
    fc.layerAt i ≤ (Grid.of fc.nodes (assignLayers fc.nodes fc.edges)).lastLayer := by
  refine le_foldl_max (.inr ?_)
  rw [layers_eq]
  exact List.mem_map_of_mem (List.mem_range.2 hi)

/-- A group is not larger than the widest layer. -/
theorem groupSizeAt_le_widest (hi : i < fc.nodes.length) :
    fc.groupSizeAt i ≤ (Grid.of fc.nodes (assignLayers fc.nodes fc.edges)).widest := by
  have hcount : fc.groupSizeAt i ≤ (assignLayers fc.nodes fc.edges).count (fc.layerAt i) := by
    rw [layers_eq, List.count, List.countP_map, groupSizeAt]
    refine List.countP_mono_left fun j _ h => ?_
    simp only [Bool.and_eq_true, beq_iff_eq] at h
    simp [h.1]
  refine Nat.le_trans hcount (le_foldl_max (.inr ?_))
  have hlast := layerAt_le_lastLayer hi
  exact List.mem_map_of_mem (List.mem_range.2 (Nat.lt_succ_of_le hlast))

/-! ## Seats -/

/-- The direction that the node at a position follows. -/
def directionAt (fc : Flowchart) (i : Nat) : Direction :=
  (fc.nodes[i]?.map fc.effectiveDirection).getD fc.direction

/-- The seat of the node at a position. -/
def directedSeatAt (fc : Flowchart) (i : Nat) : Seat :=
  { layer := fc.layerAt i, direction := fc.directionAt i, subgraph := fc.subgraphAt i }

/-- Whether the node at position `j` counts for the slot of the node at position `i`. -/
def countsFor (fc : Flowchart) (i j : Nat) : Bool :=
  if fc.directionAt i = fc.direction then
    fc.layerAt j == fc.layerAt i && fc.directionAt j == fc.direction
  else fc.layerAt i == fc.layerAt j && fc.subgraphAt i == fc.subgraphAt j

/-- The slot of the node at a position, across the direction that it follows. -/
def directedSlotAt (fc : Flowchart) (i : Nat) : Nat :=
  (List.range i).countP (fc.countsFor i)

/-- The subgraph of a node decides which direction it follows. -/
theorem directionAt_eq_directionFrom (i : Nat) :
    fc.directionAt i = fc.directionFrom (fc.subgraphs.length + 1) (fc.subgraphAt i) := by
  rw [directionAt, subgraphAt]
  cases fc.nodes[i]? <;> rfl

theorem countsFor_of_eq (h : fc.directionAt i = fc.direction) :
    fc.countsFor i = fun j => fc.layerAt j == fc.layerAt i && fc.directionAt j == fc.direction := by
  ext1 j
  exact if_pos h

theorem countsFor_of_ne (h : fc.directionAt i ≠ fc.direction) :
    fc.countsFor i = fun j =>
      fc.layerAt i == fc.layerAt j && fc.subgraphAt i == fc.subgraphAt j := by
  ext1 j
  exact if_neg h

theorem seats_eq_directed :
    fc.seats (assignLayers fc.nodes fc.edges) =
      (List.range fc.nodes.length).map fc.directedSeatAt := by
  refine List.ext_getElem (by simp [seats, length_assignLayers]) fun i hi _ => ?_
  have hi' : i < fc.nodes.length := by
    simpa [seats, length_assignLayers] using hi
  have hlayer : i < (assignLayers fc.nodes fc.edges).length := by rwa [length_assignLayers]
  simp [seats, directedSeatAt, layerAt, directionAt, subgraphAt, List.getElem?_eq_getElem hlayer,
    hi']

theorem slot_directedSeatAt (i : Nat) :
    (fc.directedSeatAt i).slot fc.direction ((List.range i).map fc.directedSeatAt).reverse =
      fc.directedSlotAt i := by
  by_cases h : fc.directionAt i = fc.direction
  · have hflow : (fc.directedSeatAt i).direction = fc.direction := h
    rw [Seat.slot, if_pos hflow, List.countP_reverse, List.countP_map, directedSlotAt,
      countsFor_of_eq h]
    rfl
  · have hflow : (fc.directedSeatAt i).direction ≠ fc.direction := h
    rw [Seat.slot, if_neg hflow, List.countP_reverse, List.countP_map, directedSlotAt,
      countsFor_of_ne h]
    rfl

theorem countP_sameGroup_directedSeatAt (i : Nat) :
    ((List.range fc.nodes.length).map fc.directedSeatAt).countP (fc.directedSeatAt i).sameGroup =
      fc.groupSizeAt i := by
  rw [List.countP_map]
  rfl

/-- Each node is placed by its seat, its slot and the size of its group. -/
theorem getElem?_nodes_placed_directed (i : Nat) :
    (fc.placed (assignLayers fc.nodes fc.edges)).nodes[i]? = fc.nodes[i]?.map
      ((Grid.of fc.nodes (assignLayers fc.nodes fc.edges)).place fc.spacing (fc.directedSeatAt i)
        (fc.directedSlotAt i) (fc.groupSizeAt i)) := by
  simp only [placed, Grid.getElem?_placeAll, seats_eq_directed]
  by_cases hi : i < fc.nodes.length
  · have hbefore : ((fc.nodes.zip ((List.range fc.nodes.length).map fc.directedSeatAt)).take i).map
        (·.2) = (List.range i).map fc.directedSeatAt := by
      rw [List.map_take, List.map_snd_zip (by simp), ← List.map_take, List.take_range,
        Nat.min_eq_left hi.le]
    have hpair : (fc.nodes.zip ((List.range fc.nodes.length).map fc.directedSeatAt))[i]? =
        some (fc.nodes[i], fc.directedSeatAt i) := by
      simp [hi]
    rw [hpair, List.getElem?_eq_getElem hi, hbefore, List.append_nil, Option.map_some,
      Option.map_some, slot_directedSeatAt, countP_sameGroup_directedSeatAt]
  · rw [List.getElem?_eq_none (by simpa using hi), List.getElem?_eq_none (by simpa using hi)]
    rfl

/-! ## Seats without directions of their own -/

/-- The seat of the node at a position, where no subgraph sets a direction. -/
def seatAt (fc : Flowchart) (i : Nat) : Seat :=
  { layer := fc.layerAt i, direction := fc.direction, subgraph := fc.subgraphAt i }

theorem directionFrom_eq (h : ∀ s ∈ fc.subgraphs, s.direction = none) (steps : Nat)
    (id : Option String) : fc.directionFrom steps id = fc.direction := by
  induction steps generalizing id with
  | zero => rfl
  | succ steps ih =>
    cases id with
    | none => rfl
    | some id =>
      rw [directionFrom]
      cases hfind : fc.findSubgraph? id with
      | none => rfl
      | some s => simp only [h s (List.mem_of_find?_eq_some hfind), ih]

theorem directionAt_eq (h : ∀ s ∈ fc.subgraphs, s.direction = none) (i : Nat) :
    fc.directionAt i = fc.direction := by
  rw [directionAt_eq_directionFrom, directionFrom_eq h]

theorem directedSeatAt_eq (h : ∀ s ∈ fc.subgraphs, s.direction = none) :
    fc.directedSeatAt = fc.seatAt := by
  ext1 i
  rw [directedSeatAt, seatAt, directionAt_eq h]

theorem directedSlotAt_eq (h : ∀ s ∈ fc.subgraphs, s.direction = none) (i : Nat) :
    fc.directedSlotAt i = fc.slotAt i := by
  rw [directedSlotAt, countsFor_of_eq (directionAt_eq h i), slotAt]
  simp [directionAt_eq h]

/-! ## Places -/

variable {measure : Measurer} {width height : Float32} {n : Node}

theorem getElem?_nodes_placed (hdirections : ∀ s ∈ fc.subgraphs, s.direction = none) (i : Nat) :
    (fc.placed (assignLayers fc.nodes fc.edges)).nodes[i]? = fc.nodes[i]?.map
      ((Grid.of fc.nodes (assignLayers fc.nodes fc.edges)).place fc.spacing (fc.seatAt i)
        (fc.slotAt i) (fc.groupSizeAt i)) := by
  rw [getElem?_nodes_placed_directed, directedSeatAt_eq hdirections, directedSlotAt_eq hdirections]

theorem seatAt_sized_cleared (fc : Flowchart) (measure : Measurer) :
    (fc.cleared.sized measure).seatAt = fc.seatAt ∧ (fc.cleared.sized measure).slotAt = fc.slotAt ∧
      (fc.cleared.sized measure).groupSizeAt = fc.groupSizeAt := by
  obtain ⟨hlayer, hsubgraph, hslot, hgroup⟩ :=
    seats_eq_of_content_eq (content_sized_cleared fc measure)
  refine ⟨?_, hslot, hgroup⟩
  ext1 i
  rw [seatAt, seatAt, hlayer, hsubgraph]
  rfl

theorem seatAt_mem_grid (measure : Measurer) (hi : i < fc.nodes.length) :
    fc.layerAt i ≤ (fc.grid measure).lastLayer ∧
      fc.groupSizeAt i ≤ (fc.grid measure).widest := by
  obtain ⟨hseat, -, hgroup⟩ := seatAt_sized_cleared fc measure
  have hlayer : (fc.cleared.sized measure).layerAt i = fc.layerAt i :=
    congrArg Seat.layer (congrFun hseat i)
  have hi' : i < (fc.cleared.sized measure).nodes.length := by
    simpa [sized, cleared] using hi
  rw [← hlayer, ← hgroup]
  exact ⟨layerAt_le_lastLayer hi', groupSizeAt_le_widest hi'⟩

/-- In a layout, a node is in the place that its layer, its slot and its group give it. -/
theorem exists_place_of_getElem? (hdirections : ∀ s ∈ fc.subgraphs, s.direction = none)
    (h : (fc.relaid measure width height).nodes[i]? = some n) :
    ∃ m ∈ (fc.cleared.sized measure).nodes, i < fc.nodes.length ∧
      n = ((fc.grid measure).place fc.spacing (fc.seatAt i) (fc.slotAt i) (fc.groupSizeAt i)
        m).rescaled (fc.relaid measure width height).metrics.scale := by
  obtain ⟨hseat, hslot, hgroup⟩ := seatAt_sized_cleared fc measure
  have hdirections' :=
    direction_of_content_eq (content_sized_cleared fc measure).symm hdirections
  rw [nodes_relaid, List.getElem?_map, arranged, getElem?_nodes_placed hdirections', hseat, hslot,
    hgroup, Option.map_map, Option.map_eq_some_iff] at h
  obtain ⟨m, hm, rfl⟩ := h
  have hi : i < fc.nodes.length := by
    have hlt := (List.getElem?_eq_some_iff.1 hm).1
    simpa [sized, cleared] using hlt
  exact ⟨m, List.mem_of_getElem? hm, hi, rfl⟩

/-- A layout keeps the sizes that the nodes were given. -/
theorem exists_side_eq_of_mem_sized (hdirections : ∀ s ∈ fc.subgraphs, s.direction = none)
    {m : Node} (hm : m ∈ (fc.cleared.sized measure).nodes) (horizontal : Bool) :
    ∃ n ∈ (fc.relaid measure width height).nodes,
      (n.side horizontal).2 = (m.side horizontal).2 := by
  obtain ⟨i, hi⟩ := List.mem_iff_getElem?.1 hm
  have hplaced := getElem?_nodes_placed
    (direction_of_content_eq (content_sized_cleared fc measure).symm hdirections) i
  rw [hi, Option.map_some] at hplaced
  rw [nodes_relaid]
  refine ⟨_, List.mem_map_of_mem (List.mem_of_getElem? hplaced), ?_⟩
  rw [Grid.place_eq]
  cases horizontal <;> rfl

end Flowchart

end FlowchartLayout
