import FlowchartLayout.Layout.Source
import FlowchartLayout.Proofs.Layout.Cache
import FlowchartLayout.Proofs.Layout.Seats

/-!
# Overlapping nodes

Slots are counted over a whole layer, but a row is centred by the size of the group that a node
belongs to. Nodes of different layers, and nodes of one layer and one subgraph, are kept apart.
Nodes of one layer and different subgraphs may get the same cell, or cells half a step apart.

## Main definitions

- `Node.Overlaps` — the interiors of two boxes have a point in common
- `Around` — a side of a box that is about centred in a cell
- `Grid.Holds` — a box that is about centred in the cell of a rank and an offset
- `Flowchart.breadth` — the size of a node along its row

## Main statements

- `Grid.Fits.holds` — every node is held by the cell of its seat
- `overlaps_layoutSource` — which nodes overlap
-/

namespace FlowchartLayout

/-! ## Boxes -/

/-- The point lies inside the box of the node. -/
def Node.Inside (n : Node) (x y : ℚ) : Prop :=
  (value n.x < x ∧ x < value n.x + value n.width) ∧
    value n.y < y ∧ y < value n.y + value n.height

/-- The interiors of the boxes have a point in common. -/
def Node.Overlaps (m n : Node) : Prop :=
  ∃ x y, m.Inside x y ∧ n.Inside x y

/-- The box ends before the bound on both axes. -/
structure Node.EndsBefore (bound : ℚ) (n : Node) : Prop where
  finite_x : (n.x + n.width).isFinite = true
  lt_x : value (n.x + n.width) < bound
  finite_y : (n.y + n.height).isFinite = true
  lt_y : value (n.y + n.height) < bound

theorem Node.EndsBefore.side {bound : ℚ} {n : Node} (h : n.EndsBefore bound)
    (horizontal : Bool) :
    ((n.side horizontal).1 + (n.side horizontal).2).isFinite = true ∧
      value ((n.side horizontal).1 + (n.side horizontal).2) < bound := by
  cases horizontal with
  | true => exact ⟨h.finite_x, h.lt_x⟩
  | false => exact ⟨h.finite_y, h.lt_y⟩

theorem not_overlaps_of_le {m n : Node} (horizontal : Bool)
    (h : value (m.side horizontal).1 + value (m.side horizontal).2 ≤
      value (n.side horizontal).1) : ¬ m.Overlaps n := by
  rintro ⟨x, y, hm, hn⟩
  cases horizontal with
  | true =>
    simp only [Node.side, if_true] at h
    linarith [hm.1.2, hn.1.1]
  | false =>
    simp only [Node.side, Bool.false_eq_true, if_false] at h
    linarith [hm.2.2, hn.2.1]

theorem Node.Overlaps.symm {m n : Node} (h : m.Overlaps n) : n.Overlaps m := by
  obtain ⟨x, y, hm, hn⟩ := h
  exact ⟨x, y, hn, hm⟩

/-- Boxes overlap if they do so on both axes. -/
theorem overlaps_of_forall {m n : Node}
    (h : ∀ horizontal, ∃ x,
      (value (m.side horizontal).1 < x ∧
        x < value (m.side horizontal).1 + value (m.side horizontal).2) ∧
      value (n.side horizontal).1 < x ∧
        x < value (n.side horizontal).1 + value (n.side horizontal).2) : m.Overlaps n := by
  obtain ⟨x, hxm, hxn⟩ := h true
  obtain ⟨y, hym, hyn⟩ := h false
  exact ⟨x, y, ⟨hxm, hym⟩, hxn, hyn⟩

theorem exists_between_sides {a b c d : ℚ} (hab : a < b) (hcd : c < d) (had : a < d) (hcb : c < b) :
    ∃ x, (a < x ∧ x < b) ∧ c < x ∧ x < d := by
  obtain ⟨x, hlow, hhigh⟩ := exists_between (max_lt (lt_min hab had) (lt_min hcb hcd))
  obtain ⟨ha, hc⟩ := max_lt_iff.1 hlow
  obtain ⟨hb, hd⟩ := lt_min_iff.1 hhigh
  exact ⟨x, ⟨ha, hb⟩, hc, hd⟩

/-! ## Cells -/

/-- A side of the given size begins where it is centred in a cell, give or take 4. -/
structure Around (start size cellStart cell : ℚ) : Prop where
  le_size : 24 ≤ size
  size_le : size ≤ cell
  near : |start - (cellStart + (cell - size) / 2)| ≤ 4

section Around

variable {start size cellStart cell start' size' cellStart' : ℚ}
  (h : Around start size cellStart cell) (h' : Around start' size' cellStart' cell)

include h h'

theorem Around.le (hapart : size + size' + 16 ≤ 2 * (cellStart' - cellStart)) :
    start + size ≤ start' := by
  have hnear := abs_le.1 h.near
  have hnear' := abs_le.1 h'.near
  linarith

theorem Around.exists_between (hclose : 2 * |cellStart' - cellStart| + 16 < size + size') :
    ∃ x, (start < x ∧ x < start + size) ∧ start' < x ∧ x < start' + size' := by
  have hnear := abs_le.1 h.near
  have hnear' := abs_le.1 h'.near
  have hsize := h.le_size
  have hsize' := h'.le_size
  have hdistance := abs_le.1 (le_refl |cellStart' - cellStart|)
  exact exists_between_sides (by linarith) (by linarith) (by linarith) (by linarith)

end Around

/-- One side of a node that was not scaled, in terms of the cell it is centred in. -/
theorem near_cell {scale corner cell size : Float32} (hscale : ¬ scale < 1)
    (hcorner : corner.isFinite = true → 0 ≤ value corner)
    (hsize : size.isFinite = true → 24 ≤ value size) (hcell : AtLeast size cell)
    (hfinite : (rescale scale (centredIn corner cell size) + size).isFinite = true)
    (hsmall : value (rescale scale (centredIn corner cell size) + size) < 2 ^ 24) :
    corner.isFinite = true ∧ cell.isFinite = true ∧ value corner ≤ 2 ^ 24 - 2 ∧
      value cell ≤ 2 ^ 26 ∧ 24 ≤ value size ∧ value size ≤ value cell ∧
      |value (rescale scale (centredIn corner cell size)) -
        (20 + value corner + (value cell - value size) / 2)| ≤ 2 := by
  rw [rescale, if_neg hscale] at hfinite hsmall ⊢
  obtain ⟨hmoved, hfsize⟩ := finite_of_add hfinite
  have hcentred := (finite_of_add hmoved).1
  obtain ⟨hfcorner, -, -, hfcell, -⟩ := finite_of_centredIn hcentred
  have hcorner0 := hcorner hfcorner
  have hsize24 := hsize hfsize
  have hcentred0 := centredIn_nonneg hcentred hcorner0 hcell
  have hmoved_round := roundsTo_add hmoved
  rw [value_outerPadding] at hmoved_round
  have hmoved0 := hmoved_round.nonneg (by linarith)
  have hend := abs_le.1 ((roundsTo_add hfinite).near (by linarith) hsmall)
  have hstart := abs_le.1 (hmoved_round.near (by linarith) (by linarith))
  have hnear := abs_le.1 (near_centredIn hcentred hcorner0 hcell (by linarith))
  have hle := hcell.value_le hfsize hfcell
  exact ⟨hfcorner, hfcell, by linarith, by linarith, hsize24, hle,
    abs_le.2 ⟨by linarith, by linarith⟩⟩

/-- The gap between nodes is hardly changed by rounding. -/
theorem near_pitch {cell gap : Float32} (hcell : 0 ≤ value cell ∧ value cell ≤ 2 ^ 26)
    (hgap : 0 ≤ value gap ∧ value gap ≤ 40) (hfinite : (cell + gap).isFinite = true) :
    |value (cell + gap) - (value cell + value gap)| ≤ 5 := by
  refine (roundsTo_add hfinite).abs_sub_le.trans ?_
  rw [abs_of_nonneg (by linarith : 0 ≤ value cell + value gap)]
  have htiny : (1 : ℚ) / 2 ^ 150 ≤ 1 / 2 := by norm_num
  linarith

/-! ## Nodes on the grid -/

namespace Grid

variable {grid : Grid} {seat : Seat} {slot groupSize : Nat} {n : Node} {scale : Float32}

theorem corner_along (grid : Grid) (spacing : Spacing) (seat : Seat) (slot groupSize : Nat) :
    grid.corner spacing seat slot groupSize seat.direction.isHorizontal =
      grid.primary spacing seat := if_pos rfl

theorem corner_across (grid : Grid) (spacing : Spacing) (seat : Seat) (slot groupSize : Nat) :
    grid.corner spacing seat slot groupSize (!seat.direction.isHorizontal) =
      grid.secondary spacing seat slot groupSize :=
  if_neg (by cases seat.direction.isHorizontal <;> decide)

theorem side_place (spacing : Spacing) (horizontal : Bool) :
    ((grid.place spacing seat slot groupSize n).rescaled scale).side horizontal =
      (rescale scale (centredIn (grid.corner spacing seat slot groupSize horizontal)
        (grid.cell horizontal) (n.side horizontal).2), (n.side horizontal).2) := by
  rw [place_eq]
  cases horizontal <;> rfl

theorem Fits.side (h : grid.Fits n) (horizontal : Bool) :
    ((n.side horizontal).2.isFinite = true → 24 ≤ value (n.side horizontal).2) ∧
      AtLeast (n.side horizontal).2 (grid.cell horizontal) := by
  cases horizontal with
  | true => exact ⟨fun hfinite => le_trans (by norm_num) (h.width.forty_le hfinite), h.cellWidth⟩
  | false => exact ⟨h.height.twentyFour_le, h.cellHeight⟩

/-- The box is about centred in a cell: the one of the rank along the direction, and the one of the
offset from the middle, which is counted in half steps, across it. -/
structure Holds (grid : Grid) (flow : Direction) (rank : Nat) (offset : Int) (n : Node) :
    Prop where
  along : Around (value (n.side flow.isHorizontal).1) (value (n.side flow.isHorizontal).2)
    (20 + rank * value (grid.along flow + ({} : Spacing).rank)) (value (grid.along flow))
  across : Around (value (n.side !flow.isHorizontal).1) (value (n.side !flow.isHorizontal).2)
    (20 + (grid.widest - 1 + offset) / 2 * value (grid.across flow + ({} : Spacing).node))
    (value (grid.across flow))
  along_pitch :
    |value (grid.along flow + ({} : Spacing).rank) - (value (grid.along flow) + 40)| ≤ 5
  across_pitch :
    |value (grid.across flow + ({} : Spacing).node) - (value (grid.across flow) + 20)| ≤ 5
  across_finite : (grid.across flow).isFinite = true

namespace Holds

variable {flow : Direction} {rank rank' : Nat} {offset offset' : Int} {m n : Node}

theorem not_overlaps_of_rank_lt (hm : grid.Holds flow rank offset m)
    (hn : grid.Holds flow rank' offset' n) (h : rank < rank') : ¬ m.Overlaps n := by
  have hstep : (rank : ℚ) + 1 ≤ rank' := by exact_mod_cast h
  have hpitch := abs_le.1 hm.along_pitch
  have hsize_m := hm.along.size_le
  have hsize_n := hn.along.size_le
  refine not_overlaps_of_le flow.isHorizontal (hm.along.le hn.along ?_)
  nlinarith [hm.along.le_size]

theorem not_overlaps_of_rank_ne (hm : grid.Holds flow rank offset m)
    (hn : grid.Holds flow rank' offset' n) (h : rank ≠ rank') : ¬ m.Overlaps n := by
  rcases Nat.lt_or_gt_of_ne h with h | h
  · exact hm.not_overlaps_of_rank_lt hn h
  · exact fun hmn => hn.not_overlaps_of_rank_lt hm h hmn.symm

theorem not_overlaps_of_le_sub (hm : grid.Holds flow rank offset m)
    (hn : grid.Holds flow rank' offset' n)
    (h : value (m.side !flow.isHorizontal).2 + value (n.side !flow.isHorizontal).2 + 16 ≤
      (offset' - offset) * (value (grid.across flow) + 15)) : ¬ m.Overlaps n := by
  have hpitch := abs_le.1 hm.across_pitch
  have hsize_m := hm.across.le_size
  have hsize_n := hn.across.le_size
  have hcell : 0 < value (grid.across flow) + 15 := by linarith [hm.across.size_le]
  have hoffset : (0 : ℚ) < offset' - offset :=
    pos_of_mul_pos_left (by linarith) hcell.le
  refine not_overlaps_of_le (!flow.isHorizontal) (hm.across.le hn.across (h.trans ?_))
  nlinarith

/-- Boxes a step of the grid apart, or half a step if they are small enough, do not overlap. -/
theorem not_overlaps_of_le_abs (hm : grid.Holds flow rank offset m)
    (hn : grid.Holds flow rank' offset' n)
    (h : value (m.side !flow.isHorizontal).2 + value (n.side !flow.isHorizontal).2 + 16 ≤
      |(offset - offset' : ℚ)| * (value (grid.across flow) + 15)) : ¬ m.Overlaps n := by
  rcases abs_cases (offset - offset' : ℚ) with ⟨habs, -⟩ | ⟨habs, -⟩
  · rw [habs] at h
    exact fun hmn => hn.not_overlaps_of_le_sub hm (by linarith) hmn.symm
  · rw [habs] at h
    exact hm.not_overlaps_of_le_sub hn (by linarith)

/-- Boxes in one cell, or half a step of the grid apart if they are large enough, overlap. -/
theorem overlaps (hm : grid.Holds flow rank offset m) (hn : grid.Holds flow rank offset' n)
    (h : |(offset - offset' : ℚ)| * (value (grid.across flow) + 25) + 16 <
      value (m.side !flow.isHorizontal).2 + value (n.side !flow.isHorizontal).2) :
    m.Overlaps n := by
  refine overlaps_of_forall ((Bool.forall_bool' flow.isHorizontal).2 ⟨?_, ?_⟩)
  · refine hm.along.exists_between hn.along ?_
    rw [sub_self, abs_zero]
    linarith [hm.along.le_size, hn.along.le_size]
  · refine hm.across.exists_between hn.across (lt_of_le_of_lt ?_ h)
    have hpitch := abs_le.1 hm.across_pitch
    have hcell := hm.across.le_size.trans hm.across.size_le
    have hscaled := mul_le_mul_of_nonneg_left
      (by linarith : value (grid.across flow + ({} : Spacing).node) ≤
        value (grid.across flow) + 25) (abs_nonneg (offset - offset' : ℚ))
    rw [add_sub_add_left_eq_sub, ← sub_mul, abs_mul, abs_of_nonneg (by linarith : 0 ≤ value _),
      ← sub_div, add_sub_add_left_eq_sub, abs_div, abs_two, abs_sub_comm]
    linarith

end Holds

/-- Along its direction, a node is in the row of its rank. -/
theorem Fits.around_along (h : grid.Fits n) (hscale : ¬ scale < 1)
    (hends : ((grid.place {} seat slot groupSize n).rescaled scale).EndsBefore (2 ^ 24)) :
    let side := ((grid.place {} seat slot groupSize n).rescaled scale).side
      seat.direction.isHorizontal
    let pitch := value (grid.along seat.direction + ({} : Spacing).rank)
    Around (value side.1) (value side.2) (20 + grid.rank seat * pitch)
        (value (grid.along seat.direction)) ∧
      |pitch - (value (grid.along seat.direction) + 40)| ≤ 5 := by
  obtain ⟨hnode, hrank⟩ := value_gaps
  obtain ⟨hfinite, hsmall⟩ := hends.side seat.direction.isHorizontal
  obtain ⟨hsize, hcell⟩ := h.side seat.direction.isHorizontal
  rw [side_place, corner_along] at hfinite hsmall ⊢
  rw [← along] at hfinite hsmall hcell ⊢
  obtain ⟨hfcorner, hfcell, hcorner, hcell_le, hle_size, hsize_le, hnear⟩ :=
    near_cell hscale (h.primary_nonneg (by rw [hrank]; norm_num)) hsize hcell hfinite hsmall
  have hprimary := abs_le.1
    (h.near_primary (by rw [hrank]; norm_num) hfcorner (by linarith))
  have hnear := abs_le.1 hnear
  have hpitch := near_pitch ⟨by linarith, hcell_le⟩ (by rw [hrank]; norm_num)
    (finite_of_mul hfcorner).2
  rw [hrank] at hpitch
  exact ⟨⟨hle_size, hsize_le, abs_le.2 ⟨by linarith, by linarith⟩⟩, hpitch⟩

/-- Across its direction, a node is in the cell of its slot in a row centred for its group. -/
theorem Fits.around_across (h : grid.Fits n) (hscale : ¬ scale < 1)
    (hends : ((grid.place {} seat slot groupSize n).rescaled scale).EndsBefore (2 ^ 24)) :
    let side := ((grid.place {} seat slot groupSize n).rescaled scale).side
      (!seat.direction.isHorizontal)
    let pitch := value (grid.across seat.direction + ({} : Spacing).node)
    Around (value side.1) (value side.2)
        (20 + (((grid.widest - groupSize : Nat) : ℚ) / 2 + slot) * pitch)
        (value (grid.across seat.direction)) ∧
      |pitch - (value (grid.across seat.direction) + 20)| ≤ 5 ∧
      (grid.across seat.direction).isFinite = true := by
  obtain ⟨hnode, hrank⟩ := value_gaps
  obtain ⟨hfinite, hsmall⟩ := hends.side (!seat.direction.isHorizontal)
  obtain ⟨hsize, hcell⟩ := h.side (!seat.direction.isHorizontal)
  rw [side_place, corner_across] at hfinite hsmall ⊢
  rw [← across] at hfinite hsmall hcell ⊢
  obtain ⟨hfcorner, hfcell, hcorner, hcell_le, hle_size, hsize_le, hnear⟩ :=
    near_cell hscale (h.secondary_nonneg (by rw [hnode]; norm_num)) hsize hcell hfinite hsmall
  have hsecondary := abs_le.1
    (h.near_secondary (by rw [hnode]; norm_num) hfcorner hcorner)
  have hnear := abs_le.1 hnear
  have hpitch := near_pitch ⟨by linarith, hcell_le⟩ (by rw [hnode]; norm_num)
    (finite_of_mul (finite_of_add hfcorner).2).2
  rw [hnode] at hpitch
  exact ⟨⟨hle_size, hsize_le, abs_le.2 ⟨by linarith, by linarith⟩⟩, hpitch, hfcell⟩

/-- A node that is not scaled is held by the cell of its seat. -/
theorem Fits.holds (h : grid.Fits n) (hscale : ¬ scale < 1) (hgroup : groupSize ≤ grid.widest)
    (hends : ((grid.place {} seat slot groupSize n).rescaled scale).EndsBefore (2 ^ 24)) :
    grid.Holds seat.direction (grid.rank seat) (2 * slot + 1 - groupSize)
      ((grid.place {} seat slot groupSize n).rescaled scale) := by
  obtain ⟨halong, halong_pitch⟩ := h.around_along hscale hends
  obtain ⟨hacross, hacross_pitch, hfinite⟩ := h.around_across hscale hends
  have hoffset : (grid.widest - 1 + (2 * slot + 1 - groupSize : Int)) / 2 =
      ((grid.widest - groupSize : Nat) : ℚ) / 2 + slot := by
    push_cast [hgroup]
    ring
  rw [← hoffset] at hacross
  exact ⟨halong, hacross, halong_pitch, hacross_pitch, hfinite⟩

end Grid

/-! ## Nodes of a layout -/

namespace Flowchart

variable {fc : Flowchart} {measure : Measurer} {width height : Float32} {i j : Nat} {m n : Node}

/-- Every node of a layout is held by the cell of its layer and its offset. -/
theorem holds_relaid (hdirections : ∀ s ∈ fc.subgraphs, s.direction = none)
    (hspacing : fc.spacing = {}) (hscale : ¬ (fc.relaid measure width height).metrics.scale < 1)
    (hn : (fc.relaid measure width height).nodes[i]? = some n) (hends : n.EndsBefore (2 ^ 24)) :
    (fc.grid measure).Holds fc.direction ((fc.grid measure).rank (fc.seatAt i)) (fc.offsetAt i)
      n := by
  obtain ⟨m, hm, hi, rfl⟩ := exists_place_of_getElem? hdirections hn
  rw [hspacing] at hends ⊢
  exact (grid_fits hm).holds hscale (seatAt_mem_grid measure hi).2 hends

theorem rank_seatAt_ne (hi : i < fc.nodes.length) (hj : j < fc.nodes.length)
    (h : fc.layerAt i ≠ fc.layerAt j) :
    (fc.grid measure).rank (fc.seatAt i) ≠ (fc.grid measure).rank (fc.seatAt j) := by
  have hi := (seatAt_mem_grid measure hi).1
  have hj := (seatAt_mem_grid measure hj).1
  unfold Grid.rank seatAt
  dsimp only
  split <;> omega

/-- The size of a node along its row, that is, across the direction of the flowchart. -/
def breadth (fc : Flowchart) (n : Node) : ℚ :=
  value (n.side !fc.direction.isHorizontal).2

theorem breadth_eq_of_content_eq {f g : Flowchart} (h : f.content = g.content) :
    f.breadth = g.breadth := by
  have hdirection : f.content.direction = g.content.direction := by rw [h]
  ext n
  exact congrArg (fun d : Direction => value (n.side !d.isHorizontal).2) hdirection

section Pair

variable (hdirections : ∀ s ∈ fc.subgraphs, s.direction = none) (hspacing : fc.spacing = {})
  (hscale : ¬ (fc.relaid measure width height).metrics.scale < 1)
  (hends : ∀ n ∈ (fc.relaid measure width height).nodes, n.EndsBefore (2 ^ 24))
  (hm : (fc.relaid measure width height).nodes[i]? = some m)
  (hn : (fc.relaid measure width height).nodes[j]? = some n)

include hdirections hspacing hscale hends

/-- No node is broader than a cell, or very small. -/
theorem breadth_mem {k : Node} (hk : k ∈ (fc.relaid measure width height).nodes) :
    24 ≤ fc.breadth k ∧ fc.breadth k ≤ value ((fc.grid measure).across fc.direction) := by
  obtain ⟨i, hi⟩ := List.mem_iff_getElem?.1 hk
  have hacross := (holds_relaid hdirections hspacing hscale hi (hends k hk)).across
  exact ⟨hacross.le_size, hacross.size_le⟩

include hm

/-- One of the nodes is as broad as a cell. -/
theorem exists_across_le_breadth : ∃ k ∈ (fc.relaid measure width height).nodes,
    value ((fc.grid measure).across fc.direction) ≤ fc.breadth k := by
  have hhold := holds_relaid hdirections hspacing hscale hm (hends m (List.mem_of_getElem? hm))
  obtain ⟨first, hfirst, -, -⟩ := exists_place_of_getElem? hdirections hm
  obtain ⟨l, hl, hle⟩ := Grid.exists_atLeast_cell (fun _ h => isSized_sized h) hfirst
    (assignLayers (fc.cleared.sized measure).nodes (fc.cleared.sized measure).edges)
    (!fc.direction.isHorizontal)
  obtain ⟨k, hk, hside⟩ := exists_side_eq_of_mem_sized hdirections hl (!fc.direction.isHorizontal)
  refine ⟨k, hk, ?_⟩
  rw [← hside] at hle
  exact hle.value_le hhold.across_finite
    (finite_of_add ((hends k hk).side (!fc.direction.isHorizontal)).1).2

include hn

/-- Nodes on different layers, or far enough apart on one layer, do not overlap. -/
theorem not_overlaps_relaid (h : fc.layerAt i ≠ fc.layerAt j ∨
    ∃ k ∈ (fc.relaid measure width height).nodes, fc.breadth m + fc.breadth n + 16 ≤
      |(fc.offsetAt i - fc.offsetAt j : ℚ)| * (fc.breadth k + 15)) : ¬ m.Overlaps n := by
  have hhold_m := holds_relaid hdirections hspacing hscale hm (hends m (List.mem_of_getElem? hm))
  have hhold_n := holds_relaid hdirections hspacing hscale hn (hends n (List.mem_of_getElem? hn))
  rcases h with h | ⟨k, hk, h⟩
  · obtain ⟨-, -, hi, -⟩ := exists_place_of_getElem? hdirections hm
    obtain ⟨-, -, hj, -⟩ := exists_place_of_getElem? hdirections hn
    exact hhold_m.not_overlaps_of_rank_ne hhold_n (rank_seatAt_ne hi hj h)
  · have hcell := (breadth_mem hdirections hspacing hscale hends hk).2
    refine hhold_m.not_overlaps_of_le_abs hhold_n (h.trans ?_)
    gcongr

/-- Nodes that get one cell, or are large for their distance, overlap. -/
theorem overlaps_relaid (hlayer : fc.layerAt i = fc.layerAt j)
    (h : ∀ k ∈ (fc.relaid measure width height).nodes,
      |(fc.offsetAt i - fc.offsetAt j : ℚ)| * (fc.breadth k + 25) + 16 <
        fc.breadth m + fc.breadth n) : m.Overlaps n := by
  have hhold_m := holds_relaid hdirections hspacing hscale hm (hends m (List.mem_of_getElem? hm))
  have hhold_n := holds_relaid hdirections hspacing hscale hn (hends n (List.mem_of_getElem? hn))
  have hrank : (fc.grid measure).rank (fc.seatAt i) = (fc.grid measure).rank (fc.seatAt j) := by
    rw [Grid.rank, Grid.rank, seatAt, seatAt, hlayer]
  obtain ⟨k, hk, hcell⟩ := exists_across_le_breadth hdirections hspacing hscale hends hm
  rw [hrank] at hhold_m
  refine hhold_m.overlaps hhold_n (lt_of_le_of_lt ?_ (h k hk))
  gcongr

/-- Nodes a step apart do not overlap. -/
theorem not_overlaps_relaid_of_two_le (h : 2 ≤ |fc.offsetAt i - fc.offsetAt j|) :
    ¬ m.Overlaps n := by
  have hstep : (2 : ℚ) ≤ |(fc.offsetAt i - fc.offsetAt j : ℚ)| := by exact_mod_cast h
  have hm_mem := List.mem_of_getElem? hm
  have hn_mem := List.mem_of_getElem? hn
  have hbreadth_m := (breadth_mem hdirections hspacing hscale hends hm_mem).1
  have hbreadth_n := (breadth_mem hdirections hspacing hscale hends hn_mem).1
  refine not_overlaps_relaid hdirections hspacing hscale hends hm hn (.inr ?_)
  rcases le_total (fc.breadth m) (fc.breadth n) with hle | hle
  · exact ⟨n, hn_mem, by nlinarith⟩
  · exact ⟨m, hm_mem, by nlinarith⟩

end Pair

end Flowchart

theorem exists_relaid_of_layoutSource {source : String} {width height : Float32} {fc : Flowchart}
    (h : layoutSource source width height = .ok fc) :
    ∃ given : Flowchart, given.spacing = {} ∧
      given.relaid (ColumnMeasurer.measure {}) width height = fc := by
  unfold layoutSource at h
  split at h
  · next start _ =>
    have hstale : (start.setSpacing {}).Stale := Flowchart.stale_invalidate _
    refine ⟨start.setSpacing {}, rfl, ?_⟩
    rw [← hstale.layoutWith]
    exact Except.ok.inj h
  · cases h

/-- Nodes on different layers, or a whole step apart, do not overlap, and nor do nodes of one
subgraph. Nodes of different subgraphs may get one cell, though, and then they overlap, or cells
half a step apart, and then they overlap if they are large for the grid. Coordinates from 2²⁴ on,
where rounding may swallow the gap between nodes, are left open. -/
theorem overlaps_layoutSource {source : String} {width height : Float32} {fc : Flowchart}
    (hlayout : layoutSource source width height = .ok fc)
    (hdirections : ∀ s ∈ fc.subgraphs, s.direction = none) (hscale : fc.metrics.scale = 1)
    (hends : ∀ n ∈ fc.nodes, n.EndsBefore (2 ^ 24)) {i j : Nat} {m n : Node} (hij : i ≠ j)
    (hm : fc.nodes[i]? = some m) (hn : fc.nodes[j]? = some n) :
    (fc.layerAt i ≠ fc.layerAt j ∨ 2 ≤ |fc.offsetAt i - fc.offsetAt j| → ¬ m.Overlaps n) ∧
      (fc.subgraphAt i = fc.subgraphAt j → ¬ m.Overlaps n) ∧
      (fc.layerAt i = fc.layerAt j → fc.offsetAt i = fc.offsetAt j → m.Overlaps n) ∧
      (fc.layerAt i = fc.layerAt j → |fc.offsetAt i - fc.offsetAt j| = 1 →
        ((∃ k ∈ fc.nodes, fc.breadth m + fc.breadth n + 1 ≤ fc.breadth k) → ¬ m.Overlaps n) ∧
        ((∀ k ∈ fc.nodes, fc.breadth k + 41 < fc.breadth m + fc.breadth n) → m.Overlaps n)) := by
  obtain ⟨given, hspacing, rfl⟩ := exists_relaid_of_layoutSource hlayout
  have hcontent := given.content_relaid (ColumnMeasurer.measure {}) width height
  obtain ⟨hlayer, hsubgraph, -, -⟩ := Flowchart.seats_eq_of_content_eq hcontent
  have hgiven := Flowchart.direction_of_content_eq hcontent hdirections
  have hunscaled : ¬ (given.relaid (ColumnMeasurer.measure {}) width height).metrics.scale < 1 := by
    rw [hscale]
    decide +kernel
  have hapart := Flowchart.not_overlaps_relaid hgiven hspacing hunscaled hends hm hn
  have hstep := Flowchart.not_overlaps_relaid_of_two_le hgiven hspacing hunscaled hends hm hn
  have htogether := Flowchart.overlaps_relaid hgiven hspacing hunscaled hends hm hn
  have hbreadth_m :=
    (Flowchart.breadth_mem hgiven hspacing hunscaled hends (List.mem_of_getElem? hm)).1
  have hbreadth_n :=
    (Flowchart.breadth_mem hgiven hspacing hunscaled hends (List.mem_of_getElem? hn)).1
  rw [hlayer, hsubgraph, Flowchart.offsetAt_eq_of_content_eq hcontent,
    Flowchart.breadth_eq_of_content_eq hcontent]
  refine ⟨?_, ?_, ?_, ?_⟩
  · rintro (hlayers | hfar)
    · exact hapart (.inl hlayers)
    · exact hstep hfar
  -- Nodes of one subgraph are on different layers or in one group, where their slots differ.
  · intro hgroups
    by_cases hlayers : given.layerAt i = given.layerAt j
    · exact hstep (Flowchart.two_le_offset hij hlayers hgroups)
    · exact hapart (.inl hlayers)
  · intro hsame hoffset
    refine htogether hsame fun k _ => ?_
    rw [hoffset, sub_self, abs_zero, zero_mul]
    linarith
  · intro hsame hhalf
    have hdistance : |(given.offsetAt i - given.offsetAt j : ℚ)| = 1 := by exact_mod_cast hhalf
    rw [hdistance] at hapart htogether
    constructor
    · rintro ⟨k, hk, hsmall⟩
      exact hapart (.inr ⟨k, hk, by linarith⟩)
    · intro hlarge
      exact htogether hsame fun k hk => by linarith [hlarge k hk]

/-- A node without a subgraph before the three nodes of a subgraph, without edges. -/
def mixedRowSource : String :=
  "flowchart TB\nX\nsubgraph S\nA\nB\nC\nend"

/-- The layout of the four nodes. -/
def mixedRow : Flowchart :=
  match layoutSource mixedRowSource 800 600 with
  | .ok fc => fc
  | .error _ => .empty .topToBottom

theorem layoutSource_mixedRow : layoutSource mixedRowSource 800 600 = .ok mixedRow := by
  have hnodes : mixedRow.nodes ≠ [] := by decide +kernel
  unfold mixedRow at hnodes ⊢
  split at hnodes
  · next hlayout => exact hlayout
  · exact absurd rfl hnodes

theorem unscaled_mixedRow :
    (∀ s ∈ mixedRow.subgraphs, s.direction = none) ∧ mixedRow.metrics.scale = 1 := by
  decide +kernel

theorem nodes_mixedRow : ∃ x a b c, mixedRow.nodes = [x, a, b, c] :=
  List.length_eq_four.1 (by decide +kernel)

theorem endsBefore_mixedRow : ∀ n ∈ mixedRow.nodes, n.EndsBefore (2 ^ 24) := by
  intro n hn
  obtain ⟨hfx, hx, hfy, hy⟩ :
      (n.x + n.width).isFinite = true ∧ n.x + n.width < Nat.toFloat32 1024 ∧
        (n.y + n.height).isFinite = true ∧ n.y + n.height < Nat.toFloat32 1024 := by
    revert n
    decide +kernel
  obtain ⟨hfinite, hvalue⟩ := value_ofNat (n := 1024) (by norm_num)
  have hbound : value (Nat.toFloat32 1024) < 2 ^ 24 := by
    rw [hvalue]
    norm_num
  exact ⟨hfx, ((lt_iff_value hfx hfinite).1 hx).trans hbound, hfy,
    ((lt_iff_value hfy hfinite).1 hy).trans hbound⟩

/-- The first two nodes get one cell, the next one another. -/
theorem overlaps_mixedRow :
    layoutSource mixedRowSource 800 600 = .ok mixedRow ∧
      (∀ s ∈ mixedRow.subgraphs, s.direction = none) ∧ mixedRow.metrics.scale = 1 ∧
      (∀ n ∈ mixedRow.nodes, n.EndsBefore (2 ^ 24)) ∧
      ∃ x a b c, mixedRow.nodes = [x, a, b, c] ∧ a.Overlaps x ∧ ¬ a.Overlaps b := by
  obtain ⟨hdirections, hscale⟩ := unscaled_mixedRow
  obtain ⟨x, a, b, c, hnodes⟩ := nodes_mixedRow
  have hx : mixedRow.nodes[0]? = some x := by rw [hnodes]; rfl
  have ha : mixedRow.nodes[1]? = some a := by rw [hnodes]; rfl
  have hb : mixedRow.nodes[2]? = some b := by rw [hnodes]; rfl
  obtain ⟨hlayer, hoffset, hgroup⟩ : mixedRow.layerAt 1 = mixedRow.layerAt 0 ∧
      mixedRow.offsetAt 1 = mixedRow.offsetAt 0 ∧
      mixedRow.subgraphAt 1 = mixedRow.subgraphAt 2 := by decide +kernel
  have hax := overlaps_layoutSource layoutSource_mixedRow hdirections hscale endsBefore_mixedRow
    (by decide) ha hx
  have hab := overlaps_layoutSource layoutSource_mixedRow hdirections hscale endsBefore_mixedRow
    (by decide) ha hb
  exact ⟨layoutSource_mixedRow, hdirections, hscale, endsBefore_mixedRow, x, a, b, c, hnodes,
    hax.2.2.1 hlayer hoffset, hab.2.1 hgroup⟩

/-- It is not so that the nodes of every layout that is not scaled are apart. -/
theorem not_apart_mixedRow :
    ¬ ∀ (source : String) (width height : Float32) (fc : Flowchart),
      layoutSource source width height = .ok fc → (∀ s ∈ fc.subgraphs, s.direction = none) →
      fc.metrics.scale = 1 → ∀ (i j : Nat) (m n : Node), i ≠ j → fc.nodes[i]? = some m →
      fc.nodes[j]? = some n → ¬ m.Overlaps n := by
  intro h
  obtain ⟨x, a, b, c, hnodes⟩ := nodes_mixedRow
  have hx : mixedRow.nodes[0]? = some x := by rw [hnodes]; rfl
  have ha : mixedRow.nodes[1]? = some a := by rw [hnodes]; rfl
  have hsame : ∀ horizontal, mixedRow.nodes[0]?.map (·.side horizontal) =
      mixedRow.nodes[1]?.map (·.side horizontal) := by decide +kernel
  have hsize : ∀ n ∈ mixedRow.nodes, ∀ horizontal, (n.side horizontal).2.isFinite = true ∧
      Nat.toFloat32 0 < (n.side horizontal).2 := by decide +kernel
  obtain ⟨hdirections, hscale⟩ := unscaled_mixedRow
  refine h mixedRowSource 800 600 mixedRow layoutSource_mixedRow hdirections hscale 0 1 x a
    (by decide) hx ha (overlaps_of_forall fun horizontal => ?_)
  obtain ⟨hfinite, hlt⟩ := hsize x (List.mem_of_getElem? hx) horizontal
  obtain ⟨hfinite_zero, hzero⟩ := value_ofNat (n := 0) (by norm_num)
  have hpos := (lt_iff_value hfinite_zero hfinite).1 hlt
  rw [hzero, Nat.cast_zero] at hpos
  have hsides : x.side horizontal = a.side horizontal := by
    simpa [hx, ha] using hsame horizontal
  rw [← hsides]
  exact exists_between_sides (by linarith) (by linarith) (by linarith) (by linarith)

end FlowchartLayout
