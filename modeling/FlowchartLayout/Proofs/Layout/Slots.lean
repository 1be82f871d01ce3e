import FlowchartLayout.Proofs.Layout.Seats

/-!
# Counting slots

Nodes are placed one after the other. A node that follows the direction of the flowchart takes its
slot from a table with one counter for each layer; for any other node, the nodes before it in its
group are counted. Both ways, the nodes that are counted together get the slots 0, 1, 2 and so on.

## Main definitions

- `Seating` — what the loop over the nodes keeps
- `Flowchart.seating?` — the loop with its counters, which fails where it would look up an entry
  that does not exist or subtract too much
- `Flowchart.Slotted` — what holds of the slots

## Main statements

- `Flowchart.seat?_seatingAt` — what one step of the loop does
- `Flowchart.seating?_eq` — the loop does not fail
- `Flowchart.slots_exact` — the loop places the nodes as a layout does, and numbers them
-/

namespace FlowchartLayout

/-- The counter at an index, and the counters with that one increased. -/
def bump? (counters : List Nat) (i : Nat) : Option (Nat × List Nat) :=
  counters[i]?.map fun count => (count, counters.set i (count + 1))

/-- How often each number below `size` occurs, counted one after the other. -/
def countEach? (size : Nat) (numbers : List Nat) : Option (List Nat) :=
  numbers.foldlM (fun counters i => (bump? counters i).map (·.2)) (List.replicate size 0)

/-- The grid, with the nodes of the layers counted one after the other. -/
def Grid.of? (nodes : List Node) (layers : List Nat) : Option Grid :=
  (countEach? (layers.foldl max 0 + 1) layers).map fun sizes =>
    { Grid.of nodes layers with widest := sizes.foldl max 0 }

/-- Places a node, if neither the rank nor the space beside the group is negative. -/
def Grid.place? (grid : Grid) (spacing : Spacing) (seat : Seat) (slot groupSize : Nat) (n : Node) :
    Option Node := do
  guard (seat.direction.isReversed = true → seat.layer ≤ grid.lastLayer)
  guard (groupSize ≤ grid.widest)
  return grid.place spacing seat slot groupSize n

/-- How many of the first nodes are in the group of the seat, counted one after the other. -/
def countGroup? (layers : List Nat) (nodes : List Node) (seat : Seat) (first : Nat) : Option Nat :=
  (List.range first).foldlM (fun count j => do
    let layer ← layers[j]?
    let n ← nodes[j]?
    return if layer = seat.layer ∧ n.subgraph = seat.subgraph then count + 1 else count) 0

/-- What the loop over the nodes keeps: the next slots of the layers, the slots given so far, and
the nodes, of which the first ones are in place. -/
structure Seating where
  next : List Nat
  slots : List Nat
  nodes : List Node

namespace Flowchart

/-- The slot of a seat after the first nodes, and the next slots of the layers from then on. -/
def slot? (fc : Flowchart) (layers : List Nat) (s : Seating) (seat : Seat) (first : Nat) :
    Option (Nat × List Nat) :=
  if seat.direction = fc.direction then bump? s.next seat.layer
  else (countGroup? layers s.nodes seat first).map (·, s.next)

/-- Gives the node at a position its slot, and places it. -/
def seat? (fc : Flowchart) (layers : List Nat) (directions : List Direction) (grid : Grid)
    (s : Seating) (i : Nat) : Option Seating := do
  let layer ← layers[i]?
  let direction ← directions[i]?
  let n ← s.nodes[i]?
  let seat := { layer, direction, subgraph := n.subgraph }
  let (slot, next) ← fc.slot? layers s seat i
  let groupSize ← countGroup? layers s.nodes seat s.nodes.length
  let n ← grid.place? fc.spacing seat slot groupSize n
  return { next, slots := s.slots ++ [slot], nodes := s.nodes.set i n }

/-- The loop over all nodes. -/
def seating? (fc : Flowchart) (layers : List Nat) : Option Seating := do
  let directions := fc.nodes.map fc.effectiveDirection
  let grid ← Grid.of? fc.nodes layers
  (List.range fc.nodes.length).foldlM (fc.seat? layers directions grid)
    { next := List.replicate (grid.lastLayer + 1) 0, slots := [], nodes := fc.nodes }

end Flowchart

/-! ## Loops with counters -/

/-- A loop that goes from each state to the next reaches the last one. -/
theorem foldlM_range {α : Type} {step : α → Nat → Option α} (state : Nat → α) {n : Nat}
    (h : ∀ i < n, step (state i) i = some (state (i + 1))) :
    (List.range n).foldlM step (state 0) = some (state n) := by
  induction n with
  | zero => rfl
  | succ n ih =>
    have hlast := h n (Nat.lt_succ_self n)
    rw [List.range_succ, List.foldlM_append, ih fun i hi => h i (Nat.lt_succ_of_lt hi)]
    simp [hlast]

/-- For each number below `size`, how many of the first `n` positions with `p` have it as key. -/
def tally (size : Nat) (key : Nat → Nat) (p : Nat → Bool) (n : Nat) : List Nat :=
  (List.range size).map fun k => (List.range n).countP fun j => key j == k && p j

section tally

variable {size : Nat} {key : Nat → Nat} {p : Nat → Bool} {n : Nat}

theorem tally_zero : tally size key p 0 = List.replicate size 0 := by
  simp [tally, List.map_const']

theorem tally_succ_of_not (h : p n = false) : tally size key p (n + 1) = tally size key p n := by
  simp [tally, List.range_succ, h]

/-- The counter of the key at the next position counts it too. -/
theorem bump?_tally (hkey : key n < size) (h : p n = true) :
    bump? (tally size key p n) (key n) =
      some ((List.range n).countP fun j => key j == key n && p j, tally size key p (n + 1)) := by
  have hcounter : (tally size key p n)[key n]? =
      some ((List.range n).countP fun j => key j == key n && p j) := by
    simp [tally, hkey]
  rw [bump?, hcounter, Option.map_some]
  refine congrArg some (Prod.ext rfl (List.ext_getElem (by simp [tally]) fun k _ _ => ?_))
  simp only [tally, List.getElem_set, List.getElem_map, List.getElem_range, List.range_succ,
    List.countP_append, List.countP_singleton, h, Bool.and_true, beq_iff_eq]
  split
  · next heq => rw [heq]
  · simp

theorem countEach?_map_range (hkey : ∀ i < n, key i < size) :
    countEach? size ((List.range n).map key) = some (tally size key (fun _ => true) n) := by
  rw [countEach?, List.foldlM_map, ← @tally_zero size key (fun _ => true)]
  refine foldlM_range (tally size key fun _ => true) fun i hi => ?_
  rw [bump?_tally (hkey i hi) rfl, Option.map_some]

end tally

/-- Numbered one after the other, the positions with a property get the numbers from zero on. -/
theorem map_countP_filter_range (p : Nat → Bool) (n : Nat) :
    ((List.range n).filter p).map (fun i => (List.range i).countP p) =
      List.range ((List.range n).countP p) := by
  induction n with
  | zero => rfl
  | succ n ih =>
    rw [List.range_succ, List.filter_append, List.map_append, ih, List.countP_append]
    cases hn : p n with
    | true => simp [hn, List.range_succ]
    | false => simp [hn]

namespace Flowchart

variable {fc : Flowchart} {i : Nat}

/-! ## The loop over the nodes -/

/-- The node put in the place for the position. -/
def placeAt (fc : Flowchart) (i : Nat) (n : Node) : Node :=
  (Grid.of fc.nodes (assignLayers fc.nodes fc.edges)).place fc.spacing (fc.directedSeatAt i)
    (fc.directedSlotAt i) (fc.groupSizeAt i) n

/-- What the loop keeps before it comes to a position. -/
def seatingAt (fc : Flowchart) (i : Nat) : Seating :=
  { next := tally ((Grid.of fc.nodes (assignLayers fc.nodes fc.edges)).lastLayer + 1) fc.layerAt
      (fun j => fc.directionAt j == fc.direction) i
    slots := (List.range i).map fc.directedSlotAt
    nodes := fc.nodes.mapIdx fun j n => if j < i then fc.placeAt j n else n }

/-- Each layer has its counter, and counting one after the other finds the widest layer. -/
theorem gridOf?_assignLayers : Grid.of? fc.nodes (assignLayers fc.nodes fc.edges) =
    some (Grid.of fc.nodes (assignLayers fc.nodes fc.edges)) := by
  have hkey : ∀ i < fc.nodes.length,
      fc.layerAt i < (assignLayers fc.nodes fc.edges).foldl max 0 + 1 :=
    fun i hi => Nat.lt_succ_of_le (layerAt_le_lastLayer hi)
  have hsizes : tally ((assignLayers fc.nodes fc.edges).foldl max 0 + 1) fc.layerAt
      (fun _ => true) fc.nodes.length =
        (List.range ((assignLayers fc.nodes fc.edges).foldl max 0 + 1)).map
          (assignLayers fc.nodes fc.edges).count := by
    refine List.map_congr_left fun layer _ => ?_
    rw [layers_eq, List.count, List.countP_map]
    refine List.countP_congr fun j _ => ?_
    simp
  have hcount := countEach?_map_range hkey
  rw [hsizes, ← layers_eq] at hcount
  rw [Grid.of?, hcount]
  rfl

theorem getElem?_nodes_seatingAt (i j : Nat) :
    (fc.seatingAt i).nodes[j]? =
      fc.nodes[j]?.map fun n => if j < i then fc.placeAt j n else n :=
  List.getElem?_mapIdx

theorem getElem?_assignLayers (hi : i < fc.nodes.length) :
    (assignLayers fc.nodes fc.edges)[i]? = some (fc.layerAt i) := by
  rw [layers_eq]
  simp [hi]

/-- Placed or not, the nodes are found on their layers and in their subgraphs. -/
theorem countGroup?_seatingAt (i : Nat) (seat : Seat) {first : Nat}
    (hfirst : first ≤ fc.nodes.length) :
    countGroup? (assignLayers fc.nodes fc.edges) (fc.seatingAt i).nodes seat first =
      some ((List.range first).countP fun j =>
        seat.layer == fc.layerAt j && seat.subgraph == fc.subgraphAt j) := by
  refine foldlM_range (fun m => (List.range m).countP fun j =>
    seat.layer == fc.layerAt j && seat.subgraph == fc.subgraphAt j) fun j hj => ?_
  have hj : j < fc.nodes.length := Nat.lt_of_lt_of_le hj hfirst
  have hsubgraph : (if j < i then fc.placeAt j fc.nodes[j] else fc.nodes[j]).subgraph =
      fc.subgraphAt j := by
    rw [apply_ite Node.subgraph, subgraphAt, List.getElem?_eq_getElem hj]
    exact ite_self _
  simp only [getElem?_assignLayers hj, getElem?_nodes_seatingAt, List.getElem?_eq_getElem hj,
    Option.map_some, Option.bind_eq_bind, Option.bind_some, hsubgraph, List.range_succ,
    List.countP_append, List.countP_singleton]
  by_cases h : fc.layerAt j = seat.layer ∧ fc.subgraphAt j = seat.subgraph
  · simp [h.1, h.2]
  · have hnot : ¬ (seat.layer = fc.layerAt j ∧ seat.subgraph = fc.subgraphAt j) :=
      fun heq => h ⟨heq.1.symm, heq.2.symm⟩
    simp [h, hnot]

/-- The counter of the layer and the count over the group give the slots that a layout uses. -/
theorem slot?_seatingAt (hi : i < fc.nodes.length) :
    fc.slot? (assignLayers fc.nodes fc.edges) (fc.seatingAt i) (fc.directedSeatAt i) i =
      some (fc.directedSlotAt i, (fc.seatingAt (i + 1)).next) := by
  rw [slot?, directedSlotAt]
  by_cases h : fc.directionAt i = fc.direction
  · have hflow : (fc.directedSeatAt i).direction = fc.direction := h
    have hkey := Nat.lt_succ_of_le (layerAt_le_lastLayer hi)
    rw [if_pos hflow, countsFor_of_eq h]
    exact bump?_tally hkey (by simpa using h)
  · have hflow : (fc.directedSeatAt i).direction ≠ fc.direction := h
    rw [if_neg hflow, countGroup?_seatingAt i _ hi.le, countsFor_of_ne h, seatingAt, seatingAt,
      tally_succ_of_not (by simpa using h)]
    rfl

/-- Placing the node at a position puts one more node in place. -/
theorem nodes_set_seatingAt (hi : i < fc.nodes.length) :
    (fc.seatingAt i).nodes.set i (fc.placeAt i fc.nodes[i]) = (fc.seatingAt (i + 1)).nodes := by
  refine List.ext_getElem? fun j => ?_
  rw [List.getElem?_set, getElem?_nodes_seatingAt, getElem?_nodes_seatingAt]
  split
  · next heq =>
    subst heq
    simp [seatingAt, hi]
  · next hne =>
    have hiff : j < i ↔ j < i + 1 := by omega
    simp only [hiff]

/-- In one step, the node at the position gets its slot, whichever way it is counted, and is placed
without a negative rank or a negative space. -/
theorem seat?_seatingAt (hi : i < fc.nodes.length) :
    fc.seat? (assignLayers fc.nodes fc.edges) (fc.nodes.map fc.effectiveDirection)
      (Grid.of fc.nodes (assignLayers fc.nodes fc.edges)) (fc.seatingAt i) i =
        some (fc.seatingAt (i + 1)) := by
  have hdirection : (fc.nodes.map fc.effectiveDirection)[i]? = some (fc.directionAt i) := by
    simp [directionAt, hi]
  have hnode : (fc.seatingAt i).nodes[i]? = some fc.nodes[i] := by
    simp [getElem?_nodes_seatingAt, hi]
  have hseat : (⟨fc.layerAt i, fc.directionAt i, fc.nodes[i].subgraph⟩ : Seat) =
      fc.directedSeatAt i := by
    simp [directedSeatAt, subgraphAt, hi]
  have hsize : countGroup? (assignLayers fc.nodes fc.edges) (fc.seatingAt i).nodes
      (fc.directedSeatAt i) (fc.seatingAt i).nodes.length = some (fc.groupSizeAt i) := by
    rw [seatingAt, List.length_mapIdx]
    exact countGroup?_seatingAt i _ le_rfl
  have hplace : (Grid.of fc.nodes (assignLayers fc.nodes fc.edges)).place? fc.spacing
      (fc.directedSeatAt i) (fc.directedSlotAt i) (fc.groupSizeAt i) fc.nodes[i] =
        some (fc.placeAt i fc.nodes[i]) := by
    have hrank := layerAt_le_lastLayer hi
    have hspace := groupSizeAt_le_widest hi
    simp [Grid.place?, directedSeatAt, hrank, hspace, placeAt, guard]
  have hslots : (fc.seatingAt i).slots ++ [fc.directedSlotAt i] =
      (fc.seatingAt (i + 1)).slots := by
    simp [seatingAt, List.range_succ]
  rw [seat?]
  simp only [getElem?_assignLayers hi, hdirection, hnode, hseat, slot?_seatingAt hi, hsize, hplace,
    hslots, nodes_set_seatingAt hi, Option.bind_eq_bind, Option.bind_some]
  rfl

theorem seatingAt_zero :
    fc.seatingAt 0 =
      { next := List.replicate ((Grid.of fc.nodes (assignLayers fc.nodes fc.edges)).lastLayer + 1) 0
        slots := []
        nodes := fc.nodes } := by
  have hnodes : fc.nodes.mapIdx (fun j n => if j < 0 then fc.placeAt j n else n) = fc.nodes := by
    refine List.ext_getElem? fun j => ?_
    simp
  rw [seatingAt, tally_zero, hnodes]
  rfl

/-- The loop looks up nothing that does not exist and subtracts nothing too large, and comes to an
end. -/
theorem seating?_eq :
    fc.seating? (assignLayers fc.nodes fc.edges) = some (fc.seatingAt fc.nodes.length) := by
  rw [seating?, gridOf?_assignLayers]
  simp only [Option.bind_eq_bind, Option.bind_some, ← seatingAt_zero]
  exact foldlM_range fc.seatingAt fun i hi => seat?_seatingAt hi

/-- At the end, the nodes are in the places of a layout. -/
theorem nodes_seatingAt_length :
    (fc.seatingAt fc.nodes.length).nodes =
      (fc.placed (assignLayers fc.nodes fc.edges)).nodes := by
  refine List.ext_getElem? fun i => ?_
  rw [getElem?_nodes_seatingAt, getElem?_nodes_placed_directed]
  cases h : fc.nodes[i]? with
  | none => rfl
  | some n => simp [(List.getElem?_eq_some_iff.1 h).1, placeAt]

/-! ## The slots -/

/-- The slots at the positions are 0, 1, 2 and so on, in the order of the positions. -/
def Numbered (slots positions : List Nat) : Prop :=
  positions.map (slots[·]?) = (List.range positions.length).map some

theorem numbered_of_countP {slot : Nat → Nat} {p : Nat → Bool} {n : Nat}
    (h : ∀ i, p i = true → slot i = (List.range i).countP p) :
    Numbered ((List.range n).map slot) ((List.range n).filter p) := by
  rw [Numbered, ← List.countP_eq_length_filter, ← map_countP_filter_range, List.map_map]
  refine List.map_congr_left fun i hi => ?_
  obtain ⟨hi, hp⟩ := List.mem_filter.1 hi
  simp [List.mem_range.1 hi, h i hp]

/-- What holds of the slots and of the nodes that are placed with them. -/
structure Slotted (fc : Flowchart) (s : Seating) : Prop where
  /-- A layout puts each node where its slot belongs. -/
  placed : ∀ i n, fc.nodes[i]? = some n → ∃ slot, s.slots[i]? = some slot ∧
    (fc.placed (assignLayers fc.nodes fc.edges)).nodes[i]? =
      some ((Grid.of fc.nodes (assignLayers fc.nodes fc.edges)).place fc.spacing
        (fc.directedSeatAt i) slot (fc.groupSizeAt i) n)
  /-- The last layer and the widest layer are not less than what is subtracted from them. -/
  bounded : ∀ i < fc.nodes.length,
    fc.layerAt i ≤ (Grid.of fc.nodes (assignLayers fc.nodes fc.edges)).lastLayer ∧
      fc.groupSizeAt i ≤ (Grid.of fc.nodes (assignLayers fc.nodes fc.edges)).widest
  /-- The nodes of a layer that follow the direction of the flowchart are numbered. -/
  layer : ∀ layer, Numbered s.slots ((List.range fc.nodes.length).filter fun i =>
    fc.layerAt i == layer && fc.directionAt i == fc.direction)
  /-- The nodes of a group with another direction are numbered. -/
  group : ∀ i < fc.nodes.length, fc.directionAt i ≠ fc.direction →
    Numbered s.slots ((List.range fc.nodes.length).filter fun j =>
      fc.layerAt i == fc.layerAt j && fc.subgraphAt i == fc.subgraphAt j)
  /-- Nodes of one layer and one subgraph have different slots. -/
  distinct : ∀ i < fc.nodes.length, ∀ j < fc.nodes.length, i ≠ j →
    fc.layerAt i = fc.layerAt j → fc.subgraphAt i = fc.subgraphAt j → s.slots[i]? ≠ s.slots[j]?
  /-- There are more nodes on the layer than the slot says. -/
  below : ∀ i slot, s.slots[i]? = some slot →
    slot < (List.range fc.nodes.length).countP fun j => fc.layerAt j == fc.layerAt i

theorem countsFor_congr {j : Nat} (hlayer : fc.layerAt i = fc.layerAt j)
    (hsubgraph : fc.subgraphAt i = fc.subgraphAt j) : fc.countsFor i = fc.countsFor j := by
  have hdirection : fc.directionAt i = fc.directionAt j := by
    rw [directionAt_eq_directionFrom, directionAt_eq_directionFrom, hsubgraph]
  ext1 k
  rw [countsFor, countsFor, hlayer, hsubgraph, hdirection]

theorem countsFor_self (i : Nat) : fc.countsFor i i = true := by
  by_cases h : fc.directionAt i = fc.direction
  · simp [countsFor_of_eq h, h]
  · simp [countsFor_of_ne h]

theorem layerAt_eq_of_countsFor {j : Nat} (h : fc.countsFor i j = true) :
    fc.layerAt j = fc.layerAt i := by
  by_cases hflow : fc.directionAt i = fc.direction
  · rw [countsFor_of_eq hflow, Bool.and_eq_true, beq_iff_eq] at h
    exact h.1
  · rw [countsFor_of_ne hflow, Bool.and_eq_true, beq_iff_eq] at h
    exact h.1.symm

theorem directedSlotAt_lt {j : Nat} (h : i < j) (hlayer : fc.layerAt i = fc.layerAt j)
    (hsubgraph : fc.subgraphAt i = fc.subgraphAt j) :
    fc.directedSlotAt i < fc.directedSlotAt j := by
  rw [directedSlotAt, directedSlotAt, ← countsFor_congr hlayer hsubgraph]
  exact countP_range_lt (fun _ => id) (countsFor_self i) h

theorem slotted_seatingAt : fc.Slotted (fc.seatingAt fc.nodes.length) where
  placed i n hn := by
    have hi := (List.getElem?_eq_some_iff.1 hn).1
    refine ⟨fc.directedSlotAt i, by simp [seatingAt, hi], ?_⟩
    rw [getElem?_nodes_placed_directed, hn, Option.map_some]
  bounded i hi := ⟨layerAt_le_lastLayer hi, groupSizeAt_le_widest hi⟩
  layer layer := by
    refine numbered_of_countP fun i hi => ?_
    simp only [Bool.and_eq_true, beq_iff_eq] at hi
    rw [directedSlotAt, countsFor_of_eq hi.2, hi.1]
  group i hi h := by
    refine numbered_of_countP fun j hj => ?_
    simp only [Bool.and_eq_true, beq_iff_eq] at hj
    rw [directedSlotAt, ← countsFor_congr hj.1 hj.2, countsFor_of_ne h]
  distinct i hi j hj hij hlayer hsubgraph := by
    have hne : fc.directedSlotAt i ≠ fc.directedSlotAt j := by
      rcases Nat.lt_or_gt_of_ne hij with h | h
      · exact (directedSlotAt_lt h hlayer hsubgraph).ne
      · exact (directedSlotAt_lt h hlayer.symm hsubgraph.symm).ne'
    simpa [seatingAt, hi, hj] using hne
  below i slot h := by
    simp only [seatingAt, List.getElem?_map, Option.map_eq_some_iff] at h
    obtain ⟨j, hj, rfl⟩ := h
    obtain ⟨hi, rfl⟩ := List.getElem?_eq_some_iff.1 hj
    rw [List.getElem_range]
    rw [List.length_range] at hi
    exact countP_range_lt (fun j hj => by simpa using layerAt_eq_of_countsFor hj) (by simp) hi

/-- For any flowchart and the layers computed for it, the loop that places the nodes comes to its
end: each look-up finds its entry, and neither the last layer nor the widest layer is less than what
is subtracted from it. It places the nodes as a layout does. The nodes of a layer that follow the
direction of the flowchart get the slots from zero on in their order, and so do the nodes of a group
with another direction; nodes of one layer and one subgraph get different slots, all below the
number of nodes on the layer. -/
theorem slots_exact (fc : Flowchart) :
    ∃ s, fc.seating? (assignLayers fc.nodes fc.edges) = some s ∧
      s.nodes = (fc.placed (assignLayers fc.nodes fc.edges)).nodes ∧ fc.Slotted s :=
  ⟨fc.seatingAt fc.nodes.length, seating?_eq, nodes_seatingAt_length, slotted_seatingAt⟩

/-- Two nodes outside of all subgraphs and two inside of one with a direction of its own, in turn. -/
def mixedLayer : Flowchart :=
  { direction := .topToBottom
    nodes :=
      [Node.implicit "A", { Node.implicit "B" with subgraph := some "G" }, Node.implicit "C",
        { Node.implicit "D" with subgraph := some "G" }]
    subgraphs := [{ id := "G", title := "G", direction := some .leftToRight }] }

/-- The nodes outside and the nodes inside of the subgraph are numbered separately. -/
theorem slots_mixedLayer :
    ∃ s, mixedLayer.seating? (assignLayers mixedLayer.nodes mixedLayer.edges) = some s ∧
      Numbered s.slots [0, 2] ∧ mixedLayer.directionAt 1 ≠ mixedLayer.direction ∧
      Numbered s.slots [1, 3] := by
  obtain ⟨s, hs, -, h⟩ := slots_exact mixedLayer
  have hdirection : mixedLayer.directionAt 1 ≠ mixedLayer.direction := by decide
  have houter : ((List.range mixedLayer.nodes.length).filter fun i =>
      mixedLayer.layerAt i == 0 && mixedLayer.directionAt i == mixedLayer.direction) = [0, 2] := by
    decide +kernel
  have hinner : ((List.range mixedLayer.nodes.length).filter fun j =>
      mixedLayer.layerAt 1 == mixedLayer.layerAt j &&
        mixedLayer.subgraphAt 1 == mixedLayer.subgraphAt j) = [1, 3] := by
    decide +kernel
  exact ⟨s, hs, houter ▸ h.layer 0, hdirection, hinner ▸ h.group 1 (by decide) hdirection⟩

end Flowchart

end FlowchartLayout
