import FlowchartLayout.Layout.Placement
import FlowchartLayout.Proofs.Number.Arithmetic

/-!
# Coordinates on the grid

A sized node is at least as large as the smallest node and at most as large as a cell. Where its
place has coordinates, they are not negative, and below 2²⁴ they are those of exact arithmetic up to
a small error.

## Main definitions

- `Node.IsSized` — the sizes are numbers, and not too small
- `Grid.Fits` — the cell is as large as the node
- `centredIn` — the corner of a box that is centred in a cell
- `Grid.primary`, `Grid.secondary` — the corner of a cell, along the direction and across it

## Main statements

- `Grid.fits_of_mem`, `Grid.exists_atLeast_cell` — the cell is as large as the largest of the nodes
- `near_centredIn`, `Grid.Fits.near_primary`, `Grid.Fits.near_secondary` — the errors of coordinates
-/

namespace FlowchartLayout

/-! ## Constants -/

/-- The gaps between nodes and between layers, unless they are set. -/
theorem value_gaps : value ({} : Spacing).node = 20 ∧ value ({} : Spacing).rank = 40 :=
  ⟨(value_ofNat (n := 20) (by norm_num)).2, (value_ofNat (n := 40) (by norm_num)).2⟩

@[simp]
theorem value_two : value 2 = 2 := (value_ofNat (n := 2) (by norm_num)).2

theorem isFinite_two : (2 : Float32).isFinite = true := (value_ofNat (n := 2) (by norm_num)).1

theorem isFinite_minNodeWidth : minNodeWidth.isFinite = true :=
  (value_ofNat (n := 40) (by norm_num)).1

@[simp]
theorem value_minNodeWidth : value minNodeWidth = 40 :=
  (value_ofNat (n := 40) (by norm_num)).2

theorem isFinite_minNodeHeight : minNodeHeight.isFinite = true :=
  (value_ofNat (n := 24) (by norm_num)).1

@[simp]
theorem value_minNodeHeight : value minNodeHeight = 24 :=
  (value_ofNat (n := 24) (by norm_num)).2

/-! ## Sizes -/

/-- A size is a number, infinite or not, and not smaller than the least one. -/
def AtLeast (least size : Float32) : Prop :=
  size.isNaN = false ∧ extended least ≤ extended size

theorem atLeast_larger {least : Float32} (h : least.isFinite = true) (x : Float32) :
    AtLeast least (larger x least) :=
  ⟨isNaN_larger_right (isNaN_of_isFinite h), extended_le_larger_right (isNaN_of_isFinite h)⟩

theorem AtLeast.value_le {least size : Float32} (h : AtLeast least size)
    (hleast : least.isFinite = true) (hsize : size.isFinite = true) : value least ≤ value size := by
  have hle := h.2
  rwa [extended_of_isFinite hleast, extended_of_isFinite hsize, WithBot.coe_le_coe,
    WithTop.coe_le_coe] at hle

theorem AtLeast.larger_left {least x y : Float32} (hx : AtLeast least x) (hy : y.isNaN = false) :
    AtLeast least (larger x y) :=
  ⟨isNaN_larger_right hy, by rw [extended_larger hx.1 hy]; exact hx.2.trans (le_max_left _ _)⟩

theorem AtLeast.larger_right {least x y : Float32} (hx : x.isNaN = false) (hy : AtLeast least y) :
    AtLeast least (larger x y) :=
  ⟨isNaN_larger_right hy.1, by rw [extended_larger hx hy.1]; exact hy.2.trans (le_max_right _ _)⟩

theorem AtLeast.forty_le {width : Float32} (h : AtLeast minNodeWidth width)
    (hfinite : width.isFinite = true) : 40 ≤ value width := by
  rw [← value_minNodeWidth]
  exact h.value_le isFinite_minNodeWidth hfinite

theorem AtLeast.twentyFour_le {height : Float32} (h : AtLeast minNodeHeight height)
    (hfinite : height.isFinite = true) : 24 ≤ value height := by
  rw [← value_minNodeHeight]
  exact h.value_le isFinite_minNodeHeight hfinite

/-- The sizes are numbers and not too small. -/
structure Node.IsSized (n : Node) : Prop where
  width : AtLeast minNodeWidth n.width
  height : AtLeast minNodeHeight n.height

theorem Node.isSized_sized (measure : Measurer) (fontSize : Float32) (n : Node) :
    (n.sized measure fontSize).IsSized := by
  have hwidth := atLeast_larger isFinite_minNodeWidth
  have hheight := atLeast_larger isFinite_minNodeHeight
  unfold Node.sized
  simp only
  split
  · exact ⟨(hwidth _).larger_left (hheight _).1, .larger_right (hwidth _).1 (hheight _)⟩
  · exact ⟨hwidth _, hheight _⟩

/-! ## Cells -/

theorem atLeast_foldl_larger {α : Type} (size : α → Float32) {as : List α}
    (has : ∀ a ∈ as, (size a).isNaN = false) {start : Float32} (hstart : start.isNaN = false) :
    AtLeast start (as.foldl (fun s a => larger s (size a)) start) ∧
      ∀ a ∈ as, AtLeast (size a) (as.foldl (fun s a => larger s (size a)) start) := by
  induction as generalizing start with
  | nil => exact ⟨⟨hstart, le_rfl⟩, nofun⟩
  | cons a as ih =>
    obtain ⟨ha, has⟩ := List.forall_mem_cons.1 has
    obtain ⟨hfirst, hrest⟩ := ih has (isNaN_larger_right ha : (larger start (size a)).isNaN = false)
    have hle : extended start ≤ extended (larger start (size a)) ∧
        extended (size a) ≤ extended (larger start (size a)) := by
      rw [extended_larger hstart ha]
      exact ⟨le_max_left _ _, le_max_right _ _⟩
    exact ⟨⟨hfirst.1, hle.1.trans hfirst.2⟩,
      List.forall_mem_cons.2 ⟨⟨hfirst.1, hle.2.trans hfirst.2⟩, hrest⟩⟩

/-- The largest size is the one to start from or one of the others. -/
theorem foldl_larger_eq {α : Type} (size : α → Float32) (as : List α) (start : Float32) :
    as.foldl (fun s a => larger s (size a)) start = start ∨
      ∃ a ∈ as, as.foldl (fun s a => larger s (size a)) start = size a := by
  induction as generalizing start with
  | nil => exact .inl rfl
  | cons a as ih =>
    have hlarger : larger start (size a) = start ∨ larger start (size a) = size a := by
      unfold larger
      split
      · exact .inr rfl
      · split
        · exact .inr rfl
        · exact .inl rfl
    rw [List.foldl_cons]
    rcases ih (larger start (size a)) with h | ⟨b, hb, h⟩
    · rw [h]
      exact hlarger.imp_right fun hsize => ⟨a, List.mem_cons_self, hsize⟩
    · exact .inr ⟨b, List.mem_cons_of_mem a hb, h⟩

theorem exists_atLeast_foldl_larger {α : Type} (size : α → Float32) {as : List α}
    {start : Float32} (has : ∀ a ∈ as, AtLeast start (size a)) {a : α} (ha : a ∈ as) :
    ∃ b ∈ as, AtLeast (as.foldl (fun s a => larger s (size a)) start) (size b) := by
  rcases foldl_larger_eq size as start with hstart | ⟨b, hb, hsize⟩
  · rw [hstart]
    exact ⟨a, ha, has a ha⟩
  · rw [hsize]
    exact ⟨b, hb, (has b hb).1, le_rfl⟩

/-- The cell of the grid is as large as the node. -/
structure Grid.Fits (grid : Grid) (n : Node) : Prop extends n.IsSized where
  cellWidth : AtLeast n.width grid.cellWidth
  cellHeight : AtLeast n.height grid.cellHeight

theorem Grid.fits_of_mem {nodes : List Node} (hnodes : ∀ n ∈ nodes, n.IsSized) (layers : List Nat)
    {n : Node} (hn : n ∈ nodes) : (Grid.of nodes layers).Fits n := by
  refine ⟨hnodes n hn, ?_, ?_⟩
  · exact (atLeast_foldl_larger Node.width (fun a ha => (hnodes a ha).width.1)
      (isNaN_of_isFinite isFinite_minNodeWidth)).2 n hn
  · exact (atLeast_foldl_larger Node.height (fun a ha => (hnodes a ha).height.1)
      (isNaN_of_isFinite isFinite_minNodeHeight)).2 n hn

/-! ## Boxes in cells -/

/-- The corner of a box of the given size that is centred in a cell. -/
def centredIn (corner cell size : Float32) : Float32 :=
  corner + (cell - size) / 2

theorem RoundsTo.near {q v : ℚ} (h : RoundsTo q v) (hq : 0 ≤ q) (hv : v < 2 ^ 24) :
    |v - q| ≤ 1 / 2 := by
  have hround := h.abs_sub_le_of_abs_lt (k := 24)
    (by rw [abs_of_nonneg (h.nonneg hq)]; exact_mod_cast hv) (by norm_num)
  norm_num at hround ⊢
  exact hround

/-- The same one power further up. -/
theorem RoundsTo.near_double {q v : ℚ} (h : RoundsTo q v) (hq : 0 ≤ q) (hv : v < 2 ^ 25) :
    |v - q| ≤ 1 := by
  have hround := h.abs_sub_le_of_abs_lt (k := 25)
    (by rw [abs_of_nonneg (h.nonneg hq)]; exact_mod_cast hv) (by norm_num)
  norm_num at hround
  exact hround

section CentredIn

variable {corner cell size : Float32}

theorem finite_of_centredIn (h : (centredIn corner cell size).isFinite = true) :
    corner.isFinite = true ∧ ((cell - size) / 2).isFinite = true ∧ (cell - size).isFinite = true ∧
      cell.isFinite = true ∧ size.isFinite = true := by
  obtain ⟨hcorner, hhalf⟩ := finite_of_add h
  have hdiff := finite_of_div isFinite_two hhalf
  exact ⟨hcorner, hhalf, hdiff, finite_of_sub hdiff⟩

/-- The exact steps of the computation, each with a result that is not negative. -/
theorem roundsTo_centredIn (h : (centredIn corner cell size).isFinite = true)
    (hcell : AtLeast size cell) :
    ∃ diff half : ℚ, 0 ≤ value cell - value size ∧ 0 ≤ diff ∧ 0 ≤ half ∧
      RoundsTo (value cell - value size) diff ∧ RoundsTo (diff / 2) half ∧
      RoundsTo (value corner + half) (value (centredIn corner cell size)) := by
  obtain ⟨-, hhalf, hdiff, hfcell, hfsize⟩ := finite_of_centredIn h
  have hle := hcell.value_le hfsize hfcell
  have hround := roundsTo_sub hdiff
  have hround' := roundsTo_div isFinite_two (by simp) hhalf
  rw [value_two] at hround'
  have hnonneg := hround.nonneg (by linarith)
  exact ⟨_, _, by linarith, hnonneg, hround'.nonneg (by linarith), hround, hround', roundsTo_add h⟩

theorem centredIn_nonneg (h : (centredIn corner cell size).isFinite = true)
    (hcorner : 0 ≤ value corner) (hcell : AtLeast size cell) :
    0 ≤ value (centredIn corner cell size) := by
  obtain ⟨diff, half, -, -, hhalf, -, -, hround⟩ := roundsTo_centredIn h hcell
  exact hround.nonneg (by linarith)

theorem near_centredIn (h : (centredIn corner cell size).isFinite = true)
    (hcorner : 0 ≤ value corner) (hcell : AtLeast size cell)
    (hsmall : value (centredIn corner cell size) ≤ 2 ^ 24 - 2) :
    |value (centredIn corner cell size) - (value corner + (value cell - value size) / 2)| ≤
      3 / 2 := by
  obtain ⟨diff, half, hle, hdiff, hhalf, hround₁, hround₂, hround₃⟩ :=
    roundsTo_centredIn h hcell
  have hnear₃ := abs_le.1 (hround₃.near (by linarith) (by linarith))
  have hnear₂ := abs_le.1 (hround₂.near (by linarith) (by linarith))
  have hnear₁ := abs_le.1 (hround₁.near_double hle (by linarith))
  rw [abs_le]
  constructor <;> linarith

end CentredIn

/-! ## Steps along an axis -/

section Steps

variable {n : Nat} {pitch : Float32}

theorem value_toFloat32_nonneg (h : n.toFloat32.isFinite = true) : 0 ≤ value n.toFloat32 :=
  ((approximates_ofNat n).roundsTo h).nonneg (Nat.cast_nonneg n)

theorem steps_nonneg (h : (n.toFloat32 * pitch).isFinite = true) (hpitch : 0 ≤ value pitch) :
    0 ≤ value (n.toFloat32 * pitch) :=
  (roundsTo_mul h).nonneg (mul_nonneg (value_toFloat32_nonneg (finite_of_mul h).1) hpitch)

/-- Steps that do not lead too far are counted exactly. -/
theorem roundsTo_steps (h : (n.toFloat32 * pitch).isFinite = true) (hpitch : 8 ≤ value pitch)
    (hsmall : value (n.toFloat32 * pitch) < 2 ^ 25) :
    RoundsTo (n * value pitch) (value (n.toFloat32 * pitch)) := by
  have hfinite := (finite_of_mul h).1
  have hcount := (approximates_ofNat n).roundsTo hfinite
  have hnonneg := value_toFloat32_nonneg hfinite
  have hproduct := abs_le.1 ((roundsTo_mul h).near_double (mul_nonneg hnonneg (by linarith)) hsmall)
  have hcount_lt : value n.toFloat32 < 2 ^ 24 - 1 := by nlinarith
  have hclose := abs_le.1 (hcount.near (Nat.cast_nonneg n) (by linarith))
  have hn : n < 2 ^ 24 := by
    have : (n : ℚ) < 2 ^ 24 := by linarith
    exact_mod_cast this
  rw [← hcount.eq_natCast hn]
  exact roundsTo_mul h

end Steps

/-! ## Cells in the grid -/

/-- Where a box begins on the horizontal or the vertical axis, and its size there. -/
def Node.side (horizontal : Bool) (n : Node) : Float32 × Float32 :=
  if horizontal then (n.x, n.width) else (n.y, n.height)

namespace Grid

/-- The size of a cell on the horizontal or the vertical axis. -/
def cell (grid : Grid) (horizontal : Bool) : Float32 :=
  if horizontal then grid.cellWidth else grid.cellHeight

/-- One of the nodes is as large as a cell. -/
theorem exists_atLeast_cell {nodes : List Node} (hnodes : ∀ n ∈ nodes, n.IsSized) {n : Node}
    (hn : n ∈ nodes) (layers : List Nat) (horizontal : Bool) :
    ∃ k ∈ nodes, AtLeast ((Grid.of nodes layers).cell horizontal) (k.side horizontal).2 := by
  cases horizontal with
  | true => exact exists_atLeast_foldl_larger Node.width (fun a ha => (hnodes a ha).width) hn
  | false => exact exists_atLeast_foldl_larger Node.height (fun a ha => (hnodes a ha).height) hn

/-- The size of a cell along a direction. -/
def along (grid : Grid) (d : Direction) : Float32 :=
  grid.cell d.isHorizontal

/-- The size of a cell across a direction. -/
def across (grid : Grid) (d : Direction) : Float32 :=
  grid.cell !d.isHorizontal

/-- The number of a layer along its direction. -/
def rank (grid : Grid) (seat : Seat) : Nat :=
  if seat.direction.isReversed then grid.lastLayer - seat.layer else seat.layer

/-- Where a cell begins along its direction. -/
def primary (grid : Grid) (spacing : Spacing) (seat : Seat) : Float32 :=
  (grid.rank seat).toFloat32 * (grid.along seat.direction + spacing.rank)

/-- Where a cell begins across its direction. -/
def secondary (grid : Grid) (spacing : Spacing) (seat : Seat) (slot groupSize : Nat) : Float32 :=
  (grid.widest - groupSize).toFloat32 * (grid.across seat.direction + spacing.node) / 2 +
    slot.toFloat32 * (grid.across seat.direction + spacing.node)

/-- Where a cell begins on the horizontal or the vertical axis. -/
def corner (grid : Grid) (spacing : Spacing) (seat : Seat) (slot groupSize : Nat)
    (horizontal : Bool) : Float32 :=
  if seat.direction.isHorizontal = horizontal then grid.primary spacing seat
  else grid.secondary spacing seat slot groupSize

theorem place_eq (grid : Grid) (spacing : Spacing) (seat : Seat) (slot groupSize : Nat) (n : Node) :
    grid.place spacing seat slot groupSize n =
      { n with
        x := centredIn (grid.corner spacing seat slot groupSize true) grid.cellWidth n.width
        y := centredIn (grid.corner spacing seat slot groupSize false) grid.cellHeight
          n.height } := by
  unfold place corner primary secondary along across
  cases seat.direction.isHorizontal <;> rfl

variable {grid : Grid} {spacing : Spacing} {seat : Seat} {slot groupSize : Nat}

theorem Fits.minNodeWidth_le {n : Node} (h : grid.Fits n) : AtLeast minNodeWidth grid.cellWidth :=
  ⟨h.cellWidth.1, h.width.2.trans h.cellWidth.2⟩

theorem Fits.minNodeHeight_le {n : Node} (h : grid.Fits n) :
    AtLeast minNodeHeight grid.cellHeight :=
  ⟨h.cellHeight.1, h.height.2.trans h.cellHeight.2⟩

namespace Fits

variable {n : Node}

/-- A pitch is at least that of the smallest cells. -/
theorem le_pitch (h : grid.Fits n) {horizontal : Bool} {gap : Float32}
    (hfinite : (grid.cell horizontal + gap).isFinite = true) (hgap : 0 ≤ value gap) :
    8 ≤ value (grid.cell horizontal + gap) := by
  have hleast : 24 ≤ value (grid.cell horizontal) := by
    have hfcell := (finite_of_add hfinite).1
    cases horizontal with
    | true => exact le_trans (by norm_num) (h.minNodeWidth_le.forty_le hfcell)
    | false => exact h.minNodeHeight_le.twentyFour_le hfcell
  have herror := abs_le.1 (roundsTo_add hfinite).abs_sub_le
  rw [abs_of_nonneg (by linarith : 0 ≤ value (grid.cell horizontal) + value gap)] at herror
  have htiny : (1 : ℚ) / 2 ^ 150 ≤ 1 := by norm_num
  linarith

theorem le_primary_pitch (h : grid.Fits n) (hgap : 0 ≤ value spacing.rank)
    (hfinite : (grid.primary spacing seat).isFinite = true) :
    8 ≤ value (grid.along seat.direction + spacing.rank) :=
  h.le_pitch (finite_of_mul hfinite).2 hgap

theorem le_secondary_pitch (h : grid.Fits n) (hgap : 0 ≤ value spacing.node)
    (hfinite : (grid.secondary spacing seat slot groupSize).isFinite = true) :
    8 ≤ value (grid.across seat.direction + spacing.node) :=
  h.le_pitch (finite_of_mul (finite_of_add hfinite).2).2 hgap

theorem primary_nonneg (h : grid.Fits n) (hgap : 0 ≤ value spacing.rank)
    (hfinite : (grid.primary spacing seat).isFinite = true) :
    0 ≤ value (grid.primary spacing seat) :=
  steps_nonneg hfinite (by linarith [h.le_primary_pitch hgap hfinite])

theorem near_primary (h : grid.Fits n) (hgap : 0 ≤ value spacing.rank)
    (hfinite : (grid.primary spacing seat).isFinite = true)
    (hsmall : value (grid.primary spacing seat) < 2 ^ 24) :
    |value (grid.primary spacing seat) -
      grid.rank seat * value (grid.along seat.direction + spacing.rank)| ≤ 1 / 2 := by
  have hpitch := h.le_primary_pitch hgap hfinite
  exact (roundsTo_steps hfinite hpitch (hsmall.trans (by norm_num))).near
    (mul_nonneg (Nat.cast_nonneg _) (by linarith)) hsmall

theorem secondary_nonneg (h : grid.Fits n) (hgap : 0 ≤ value spacing.node)
    (hfinite : (grid.secondary spacing seat slot groupSize).isFinite = true) :
    0 ≤ value (grid.secondary spacing seat slot groupSize) := by
  have hpitch := h.le_secondary_pitch hgap hfinite
  obtain ⟨hstart, hslot⟩ := finite_of_add hfinite
  have hsteps := steps_nonneg (finite_of_div isFinite_two hstart) (by linarith)
  have hhalf := roundsTo_div isFinite_two (by simp) hstart
  rw [value_two] at hhalf
  exact (roundsTo_add hfinite).nonneg
    (add_nonneg (hhalf.nonneg (by linarith)) (steps_nonneg hslot (by linarith)))

theorem corner_nonneg (h : grid.Fits n) (hrank : 0 ≤ value spacing.rank)
    (hnode : 0 ≤ value spacing.node) {horizontal : Bool}
    (hfinite : (grid.corner spacing seat slot groupSize horizontal).isFinite = true) :
    0 ≤ value (grid.corner spacing seat slot groupSize horizontal) := by
  by_cases hd : seat.direction.isHorizontal = horizontal
  · rw [corner, if_pos hd] at hfinite ⊢
    exact h.primary_nonneg hrank hfinite
  · rw [corner, if_neg hd] at hfinite ⊢
    exact h.secondary_nonneg hnode hfinite

theorem near_secondary (h : grid.Fits n) (hgap : 0 ≤ value spacing.node)
    (hfinite : (grid.secondary spacing seat slot groupSize).isFinite = true)
    (hsmall : value (grid.secondary spacing seat slot groupSize) ≤ 2 ^ 24 - 2) :
    |value (grid.secondary spacing seat slot groupSize) -
      (((grid.widest - groupSize : Nat) : ℚ) / 2 + slot) *
        value (grid.across seat.direction + spacing.node)| ≤ 2 := by
  have hpitch := h.le_secondary_pitch hgap hfinite
  obtain ⟨hstart, hslot⟩ := finite_of_add hfinite
  have hsteps := finite_of_div isFinite_two hstart
  have hhalf := roundsTo_div isFinite_two (by simp) hstart
  rw [value_two] at hhalf
  have hsteps0 := steps_nonneg hsteps (by linarith)
  have hhalf0 := hhalf.nonneg (by linarith)
  have hslot0 := steps_nonneg hslot (by linarith)
  have hsum : RoundsTo _ (value (grid.secondary spacing seat slot groupSize)) :=
    roundsTo_add hfinite
  have hnear := abs_le.1 (hsum.near (by linarith) (hsmall.trans_lt (by norm_num)))
  have hnear_half := abs_le.1 (hhalf.near (by linarith) (by linarith))
  have hnear_start := abs_le.1 ((roundsTo_steps hsteps hpitch (by linarith)).near_double
    (mul_nonneg (Nat.cast_nonneg _) (by linarith)) (by linarith))
  have hnear_slot := abs_le.1 ((roundsTo_steps hslot hpitch (by linarith)).near
    (mul_nonneg (Nat.cast_nonneg _) (by linarith)) (by linarith))
  rw [abs_le, add_mul]
  constructor <;> linarith

end Fits

end Grid

end FlowchartLayout
