import FlowchartLayout.Proofs.Flowchart.WellFormed
import FlowchartLayout.Proofs.Layout.Arrangement
import FlowchartLayout.Proofs.Layout.Cache

/-!
# Paths and centres

Edges are routed from centre to centre before the flowchart is fitted into the viewport. Fitting
scales positions but not sizes, so that a path ends where the centre of a node would be if the node
had been scaled too.

## Main definitions

- `shrinkage` — the factor by which positions are scaled
- `Point.Meets` — where a path ends at a node

## Main statements

- `near_centre` — one coordinate of a centre, scaled before or after half the size is added
- `Flowchart.path_layoutWith` — the paths of a layout
-/

namespace FlowchartLayout

/-- The factor by which a layout with the given scale scales positions. -/
def shrinkage (scale : Float32) : ℚ :=
  if scale < 1 then value scale else 1

/-- A scale below 1 is finite. -/
theorem isFinite_of_lt_one {scale : Float32} (h : AtLeast minScale scale) (hlt : scale < 1) :
    scale.isFinite = true := by
  have hone : extended 1 = ((1 : ℚ) : WithTop ℚ) := by
    rw [extended_of_isFinite (by rfl), value_one]
  have hmin := h.2
  rw [extended_of_isFinite (by rfl)] at hmin
  exact isFinite_of_extended_mem h.1 hmin
    (hone ▸ ((lt_iff_extended h.1 (by rfl)).1 hlt).le)

theorem shrinkage_mem {scale : Float32} (h : AtLeast minScale scale) :
    3 / 5 ≤ shrinkage scale ∧ shrinkage scale ≤ 1 := by
  unfold shrinkage
  split
  · next hlt =>
    have hfinite := isFinite_of_lt_one h hlt
    have hmin := h.value_le rfl hfinite
    have hmax := (lt_iff_value hfinite rfl).1 hlt
    rw [value_one] at hmax
    exact ⟨le_value_minScale.trans hmin, hmax.le⟩
  · norm_num

/-- A coordinate that does not end up too far out did not start too far out either. -/
theorem le_of_rescale {scale v : Float32} (hscale : AtLeast minScale scale)
    (hv : v.isFinite = true → 0 ≤ value v) (h : (rescale scale v).isFinite = true)
    (hsmall : value (rescale scale v) < 4096) :
    v.isFinite = true ∧ 0 ≤ value v ∧ value v ≤ 7000 := by
  obtain ⟨hmin, hmax⟩ := shrinkage_mem hscale
  by_cases hlt : scale < 1
  · rw [rescale, if_pos hlt] at h hsmall
    rw [shrinkage, if_pos hlt] at hmin hmax
    have hproduct := (finite_of_add h).2
    have hfinite := (finite_of_mul hproduct).1
    have hround := roundsTo_mul hproduct
    have hexact : 0 ≤ value v * value scale := mul_nonneg (hv hfinite) (by linarith)
    have hnonneg := hround.nonneg hexact
    have hnear := abs_le.1 ((roundsTo_add h).near
      (by rw [value_outerPadding]; linarith) (by linarith))
    rw [value_outerPadding] at hnear
    have hnear' := abs_le.1 (hround.near hexact (by linarith))
    exact ⟨hfinite, hv hfinite, by nlinarith [hv hfinite]⟩
  · rw [rescale, if_neg hlt] at h hsmall
    have hfinite := (finite_of_add h).1
    have hnear := abs_le.1 ((roundsTo_add h).near
      (by rw [value_outerPadding]; linarith [hv hfinite]) (by linarith))
    rw [value_outerPadding] at hnear
    exact ⟨hfinite, hv hfinite, by linarith⟩

theorem RoundsTo.near_exact {q v : ℚ} (h : RoundsTo q v) (hq : 0 ≤ q) (hle : q ≤ 8100) :
    |v - q| ≤ 1 / 4096 := by
  have hround := h.abs_sub_le_of_exact_lt (k := 13)
    (by rw [abs_of_nonneg hq]; norm_num; linarith) (by norm_num)
  norm_num at hround ⊢
  exact hround

theorem Approximates.near_exact {q : ℚ} {x : Float32} (h : Approximates q x) (hq : 0 ≤ q)
    (hle : q ≤ 8100) : x.isFinite = true ∧ |value x - q| ≤ 1 / 4096 := by
  have hfinite := h.isFinite (by rw [abs_of_nonneg hq]; linarith)
  exact ⟨hfinite, (h.roundsTo hfinite).near_exact hq hle⟩

/-- Scaling a coordinate and moving it by the padding is exact up to a small error. -/
theorem near_rescale {scale v : Float32} (hscale : AtLeast minScale scale)
    (hfinite : v.isFinite = true) (hv : 0 ≤ value v) (hle : value v ≤ 7001) :
    (rescale scale v).isFinite = true ∧
      |value (rescale scale v) - (20 + value v * shrinkage scale)| ≤ 1 / 2048 := by
  obtain ⟨hmin, hmax⟩ := shrinkage_mem hscale
  by_cases hlt : scale < 1
  · rw [rescale, if_pos hlt]
    rw [shrinkage, if_pos hlt] at hmin hmax ⊢
    have hscaled : 0 ≤ value v * value scale ∧ value v * value scale ≤ 7001 :=
      ⟨mul_nonneg hv (by linarith only [hmin]), (mul_le_of_le_one_right hv hmax).trans hle⟩
    have hproduct := approximates_mul hfinite (isFinite_of_lt_one hscale hlt)
    obtain ⟨hproduct_finite, hnear⟩ := hproduct.near_exact hscaled.1 (by linarith)
    have hnear := abs_le.1 hnear
    have hsum := approximates_add isFinite_outerPadding hproduct_finite
    rw [value_outerPadding] at hsum
    obtain ⟨hsum_finite, hnear_sum⟩ := hsum.near_exact (by linarith) (by linarith)
    have hnear_sum := abs_le.1 hnear_sum
    exact ⟨hsum_finite, abs_le.2 ⟨by linarith, by linarith⟩⟩
  · rw [rescale, if_neg hlt]
    rw [shrinkage, if_neg hlt, mul_one]
    have hsum := approximates_add hfinite isFinite_outerPadding
    rw [value_outerPadding] at hsum
    obtain ⟨hsum_finite, hnear_sum⟩ := hsum.near_exact (by linarith) (by linarith)
    have hnear_sum := abs_le.1 hnear_sum
    exact ⟨hsum_finite, abs_le.2 ⟨by linarith, by linarith⟩⟩

theorem abs_mul_le {d s ε : ℚ} (hd : |d| ≤ ε) (h0 : 0 ≤ s) (h1 : s ≤ 1) : |d * s| ≤ ε := by
  rw [abs_mul, abs_of_nonneg h0]
  exact (mul_le_of_le_one_right (abs_nonneg d) h1).trans hd

/-- The steps of the computation of a centre. -/
theorem roundsTo_centre {x size : Float32} (h : (x + size / 2).isFinite = true) :
    x.isFinite = true ∧ (size / 2).isFinite = true ∧ size.isFinite = true ∧
      RoundsTo (value size / 2) (value (size / 2)) ∧
      RoundsTo (value x + value (size / 2)) (value (x + size / 2)) := by
  obtain ⟨hx, hhalf⟩ := finite_of_add h
  have hround := roundsTo_div isFinite_two (by simp) hhalf
  rw [value_two] at hround
  exact ⟨hx, hhalf, finite_of_div isFinite_two hhalf, hround, roundsTo_add h⟩

theorem centre_nonneg {x size : Float32} (hx : x.isFinite = true → 0 ≤ value x)
    (hsize : size.isFinite = true → 0 ≤ value size) (h : (x + size / 2).isFinite = true) :
    0 ≤ value (size / 2) ∧ 0 ≤ value (x + size / 2) := by
  obtain ⟨hfx, -, hfsize, hhalf, hcentre⟩ := roundsTo_centre h
  have hhalf0 := hhalf.nonneg (by linarith [hsize hfsize])
  exact ⟨hhalf0, hcentre.nonneg (by linarith [hx hfx])⟩

/-- One coordinate of a centre. Scaled as a whole, it is off from where the scaled corner has its
centre by the part of half the size that scaling takes away. -/
theorem near_centre {scale x size : Float32} (hscale : AtLeast minScale scale)
    (hx : x.isFinite = true → 0 ≤ value x) (hsize : size.isFinite = true → 0 ≤ value size)
    (h : (rescale scale (x + size / 2)).isFinite = true)
    (hsmall : value (rescale scale (x + size / 2)) < 4096) :
    (rescale scale x + size / 2).isFinite = true ∧
      |value (rescale scale (x + size / 2)) -
        (value (rescale scale x + size / 2) - (1 - shrinkage scale) * value size / 2)| ≤
          1 / 100 := by
  obtain ⟨hfinite, hcentre0, hle⟩ :=
    le_of_rescale hscale (fun hfinite => (centre_nonneg hx hsize hfinite).2) h hsmall
  obtain ⟨hfx, hfhalf, hfsize, hhalf, hround⟩ := roundsTo_centre hfinite
  have hx0 := hx hfx
  have hsize0 := hsize hfsize
  have hhalf0 := (centre_nonneg hx hsize hfinite).1
  obtain ⟨hmin, hmax⟩ := shrinkage_mem hscale
  -- The centre before fitting, and half the size.
  have hexact : value x + value (size / 2) ≤ 7001 := by
    have := abs_le.1 (hround.near (by linarith) (by linarith))
    linarith
  have hnear := hround.near_exact (by linarith) (by linarith)
  have hsize_le : value size / 2 ≤ 7002 := by
    have := abs_le.1 (hhalf.near (by linarith) (by linarith))
    linarith
  have hnear_half := hhalf.near_exact (by linarith) (by linarith)
  -- The end of the path, the corner after fitting, and the centre after fitting.
  have hend := abs_le.1 (near_rescale hscale hfinite hcentre0 (by linarith)).2
  obtain ⟨hfcorner, hcorner⟩ := near_rescale hscale hfx hx0 (by linarith)
  have hcorner := abs_le.1 hcorner
  have hx_scaled : 0 ≤ value x * shrinkage scale ∧ value x * shrinkage scale ≤ value x :=
    ⟨mul_nonneg hx0 (by linarith only [hmin]), mul_le_of_le_one_right hx0 hmax⟩
  have hcentre := approximates_add hfcorner hfhalf
  obtain ⟨hcentre_finite, hnear_centre⟩ := hcentre.near_exact (by linarith) (by linarith)
  have hnear_centre := abs_le.1 hnear_centre
  -- Scaling makes the errors of the first two smaller.
  have herror := abs_le.1 (abs_mul_le hnear (by linarith) hmax)
  have herror_half := abs_le.1
    (abs_mul_le hnear_half (by linarith : 0 ≤ 1 - shrinkage scale) (by linarith))
  refine ⟨hcentre_finite, abs_le.2 ⟨?_, ?_⟩⟩ <;> linarith

/-! ## Paths -/

/-- The point is where a path ends at a node: away from the centre of the node, to the left and up,
by the part of half its size that scaling takes away. Coordinates from 4096 on are left open. -/
structure Point.Meets (scale : Float32) (p : Point) (n : Node) : Prop where
  x : p.x.isFinite = true → value p.x < 4096 → n.center.x.isFinite = true ∧
    |value p.x - (value n.center.x - (1 - shrinkage scale) * value n.width / 2)| ≤ 1 / 100
  y : p.y.isFinite = true → value p.y < 4096 → n.center.y.isFinite = true ∧
    |value p.y - (value n.center.y - (1 - shrinkage scale) * value n.height / 2)| ≤ 1 / 100

/-- The coordinates of the points are equal up to a hundredth. -/
def Point.Near (p q : Point) : Prop :=
  |value p.x - value q.x| ≤ 1 / 100 ∧ |value p.y - value q.y| ≤ 1 / 100

namespace Flowchart

variable {fc : Flowchart} {measure : Measurer} {width height : Float32}

theorem meets_of_mem_arranged {scale : Float32} (hscale : AtLeast minScale scale)
    (hspacing : fc.spacing = {}) {n : Node} (h : n ∈ (fc.arranged measure).nodes) :
    (n.center.rescaled scale).Meets scale (n.rescaled scale) := by
  obtain ⟨hsized, hx, hy⟩ := nonneg_of_mem_arranged hspacing h
  exact ⟨near_centre hscale hx fun hwidth => le_trans (by norm_num) (hsized.width.forty_le hwidth),
    near_centre hscale hy fun hheight =>
      le_trans (by norm_num) (hsized.height.twentyFour_le hheight)⟩

/-- Without repeated ids, a node is found by its id. -/
theorem findNode?_of_mem (hids : fc.nodeIds.Nodup) {n : Node} (h : n ∈ fc.nodes) {id : String}
    (hid : n.id = id) : fc.findNode? id = some n := by
  subst hid
  exact find?_of_nodup_map hids h

theorem ends_routed (fc : Flowchart) (e : Edge) :
    (e.routed fc).source = e.source ∧ (e.routed fc).target = e.target := by
  constructor
  · show (e.routed fc).bare.source = e.bare.source
    rw [Edge.bare_routed]
  · show (e.routed fc).bare.target = e.bare.target
    rw [Edge.bare_routed]

theorem nodeIds_of_content_eq {f g : Flowchart} (h : f.content = g.content) :
    f.nodeIds = g.nodeIds := by
  have hids (fc : Flowchart) : fc.nodeIds = fc.content.nodes.map (·.id) := by
    simp [nodeIds, content, Node.bare, Function.comp_def]
  rw [hids, hids, h]

/-- A layout that is kept was computed for some viewport, if it was computed at all. -/
theorem exists_layoutWith_eq_relaid
    (hkept : fc.isLaidOutFor width height = true → fc.Current measure) :
    ∃ width' height', fc.layoutWith measure width height = fc.relaid measure width' height' := by
  unfold layoutWith
  split
  · next hlaid =>
    have hcomputed : fc.metrics.computed = true := by
      simp only [isLaidOutFor, Bool.and_eq_true] at hlaid
      exact hlaid.1.1
    exact ⟨_, _, (hkept hlaid hcomputed).symm⟩
  · exact ⟨_, _, rfl⟩

/-- Paths run from centre to centre as they were before the flowchart was fitted: two points, each
of which is off the centre of its node in the layout by what scaling takes away. -/
theorem path_layoutWith (hids : fc.nodeIds.Nodup) (hspacing : fc.spacing = {})
    (hkept : fc.isLaidOutFor width height = true → fc.Current measure) {e : Edge}
    (he : e ∈ (fc.layoutWith measure width height).edges) {s t : Node}
    (hs : s ∈ (fc.layoutWith measure width height).nodes)
    (ht : t ∈ (fc.layoutWith measure width height).nodes)
    (hsource : s.id = e.source) (htarget : t.id = e.target) :
    ∃ p q, e.path = [p, q] ∧
      p.Meets (fc.layoutWith measure width height).metrics.scale s ∧
      q.Meets (fc.layoutWith measure width height).metrics.scale t := by
  obtain ⟨width', height', hrelaid⟩ := exists_layoutWith_eq_relaid hkept
  rw [hrelaid] at he hs ht ⊢
  have hscale : AtLeast minScale (fc.relaid measure width' height').metrics.scale := atLeast_scale
  rw [nodes_relaid] at hs ht
  rw [edges_relaid] at he
  obtain ⟨n, hn, rfl⟩ := List.mem_map.1 hs
  obtain ⟨m, hm, rfl⟩ := List.mem_map.1 ht
  obtain ⟨e', he', rfl⟩ := List.mem_map.1 he
  obtain ⟨e, -, rfl⟩ := List.mem_map.1 he'
  have hids' : (fc.arranged measure).nodeIds.Nodup := by
    rwa [nodeIds_of_content_eq content_arranged]
  obtain ⟨hends_source, hends_target⟩ := ends_routed (fc.arranged measure) e
  have hfind_source := findNode?_of_mem hids' hn (hsource.trans hends_source)
  have hfind_target := findNode?_of_mem hids' hm (htarget.trans hends_target)
  refine ⟨_, _, ?_, meets_of_mem_arranged hscale hspacing hn,
    meets_of_mem_arranged hscale hspacing hm⟩
  simp only [Edge.rescaled, Edge.routed, hfind_source, hfind_target, List.map_cons, List.map_nil]

/-- Three nodes below each other. -/
def tallChain : Flowchart :=
  { direction := .topToBottom
    nodes := [Node.implicit "A", Node.implicit "B", Node.implicit "C"]
    edges := [{ source := "A", target := "B", kind := .arrow },
      { source := "B", target := "C", kind := .arrow }] }

/-- The three nodes in a viewport that is too low for them. -/
def shrunkChain : Flowchart :=
  tallChain.layoutWith (ColumnMeasurer.measure {}) 800 200

theorem shrunkChain_eq : ∃ a b c e f,
    shrunkChain.nodes = [a, b, c] ∧ shrunkChain.edges = [e, f] ∧
      e.source = a.id ∧ e.target = b.id := by
  obtain ⟨hnodes, hedges, hsource, htarget⟩ :
      shrunkChain.nodes.length = 3 ∧ shrunkChain.edges.length = 2 ∧
        shrunkChain.edges[0]?.map (·.source) = shrunkChain.nodes[0]?.map (·.id) ∧
        shrunkChain.edges[0]?.map (·.target) = shrunkChain.nodes[1]?.map (·.id) := by
    decide +kernel
  obtain ⟨a, b, c, hnodes⟩ := List.length_eq_three.1 hnodes
  obtain ⟨e, f, hedges⟩ := List.length_eq_two.1 hedges
  rw [hnodes, hedges] at hsource htarget
  exact ⟨a, b, c, e, f, hnodes, hedges, Option.some.inj hsource, Option.some.inj htarget⟩

/-- The first path of the chain ends where its nodes would have their centres if they were
smaller. -/
theorem path_shrunkChain :
    tallChain.nodeIds.Nodup ∧ tallChain.spacing = {} ∧
      ∃ a b c e f, shrunkChain.nodes = [a, b, c] ∧ shrunkChain.edges = [e, f] ∧
        ∃ p q, e.path = [p, q] ∧ p.Meets shrunkChain.metrics.scale a ∧
          q.Meets shrunkChain.metrics.scale b := by
  have hids : tallChain.nodeIds.Nodup := by decide
  have hkept : tallChain.isLaidOutFor 800 200 = true →
      tallChain.Current (ColumnMeasurer.measure {}) := fun h => absurd h (by decide +kernel)
  obtain ⟨a, b, c, e, f, hnodes, hedges, hsource, htarget⟩ := shrunkChain_eq
  have ha : a ∈ shrunkChain.nodes := by simp [hnodes]
  have hb : b ∈ shrunkChain.nodes := by simp [hnodes]
  have he : e ∈ shrunkChain.edges := by simp [hedges]
  exact ⟨hids, rfl, a, b, c, e, f, hnodes, hedges,
    path_layoutWith hids rfl hkept he ha hb hsource.symm htarget.symm⟩

/-- The first path of the chain does not begin at the centre of its source, although all coordinates
are small. -/
theorem not_near_shrunkChain :
    tallChain.nodeIds.Nodup ∧ tallChain.spacing = {} ∧ tallChain.Stale ∧
      (∀ n ∈ shrunkChain.nodes, n.center.x < 4096 ∧ n.center.y < 4096) ∧
      ¬ ∀ e ∈ shrunkChain.edges, ∀ s ∈ shrunkChain.nodes, ∀ t ∈ shrunkChain.nodes,
        s.id = e.source → t.id = e.target →
          ∃ p q, e.path = [p, q] ∧ p.Near s.center ∧ q.Near t.center := by
  refine ⟨by decide, rfl, rfl, by decide +kernel, fun h => ?_⟩
  obtain ⟨a, b, c, e, f, hnodes, hedges, hsource, htarget⟩ := shrunkChain_eq
  obtain ⟨p, q, hpath, ⟨hnear, -⟩, -⟩ := h e (by simp [hedges]) a (by simp [hnodes]) b
    (by simp [hnodes]) hsource.symm htarget.symm
  let begins := Float32.ofBits 1108600367
  let centre := Float32.ofBits 1109445837
  obtain ⟨hbegins, hcentre⟩ :
      shrunkChain.edges.head?.map (·.path.map (·.x)) = some [begins, begins] ∧
        shrunkChain.nodes.head?.map (·.center.x) = some centre := by
    decide +kernel
  have hp : p.x = begins := by
    rw [hedges, List.head?_cons, Option.map_some, hpath] at hbegins
    exact (List.cons.inj (Option.some.inj hbegins)).1
  have ha : a.center.x = centre := by
    rw [hnodes, List.head?_cons, Option.map_some] at hcentre
    exact Option.some.inj hcentre
  have hvalue_begins := @value_of_unpack (Float32.ofBits 1108600367) 9692719 (-18) (by decide) rfl
  have hvalue_centre := @value_of_unpack (Float32.ofBits 1109445837) 10538189 (-18) (by decide) rfl
  rw [hp, ha, hvalue_begins, hvalue_centre] at hnear
  norm_num [abs_le] at hnear

end Flowchart

end FlowchartLayout
