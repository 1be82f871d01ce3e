import FlowchartLayout.Proofs.Layers.Overtaking
import Mathlib.Data.List.Chain

/-!
# Layers and longest paths

Away from cycles a node lies as deep as the longest path that leads to it. Such a node is never
placed to break a stall, so that all its predecessors are placed before it, in whatever order the
nodes come.

## Main definitions

- `IsWalkTo` — a list of positions, each linked to the next, that ends at a given one
- `IsLongest` — how many edges a longest path to a position has
- `AwayFromCycles` — a position that no cycle leads to

## Main statements

- `exists_isLongest_layer` — the layer of a node away from cycles counts the edges of a longest path
-/

namespace FlowchartLayout

section Walks

variable {r : Nat → Nat → Prop} {u v l : Nat} {p : List Nat}

/-- Each position is related to the next, and `v` is the last one. -/
def IsWalkTo (r : Nat → Nat → Prop) (v : Nat) (p : List Nat) : Prop :=
  p.IsChain r ∧ p.getLast? = some v

/-- Some path to `v`, which passes no position twice, has `l` edges, and no walk to `v` has more. -/
structure IsLongest (r : Nat → Nat → Prop) (v l : Nat) : Prop where
  attained : ∃ p, IsWalkTo r v p ∧ p.Nodup ∧ p.length = l + 1
  bound : ∀ p, IsWalkTo r v p → p.length ≤ l + 1

/-- No position on a cycle leads to `v`; in particular `v` is on no cycle. -/
def AwayFromCycles (r : Nat → Nat → Prop) (v : Nat) : Prop :=
  ∀ c, Relation.TransGen r c c → ¬ Relation.ReflTransGen r c v

theorem AwayFromCycles.of_rel (h : AwayFromCycles r v) (hr : r u v) : AwayFromCycles r u :=
  fun c hc hcu => h c hc (hcu.tail hr)

/-- Where positions only come after lower ranked ones, there are no cycles. -/
theorem awayFromCycles_of_rank {P : Nat → Prop} (rank : Nat → Nat)
    (hrank : ∀ i j, P j → r i j → P i ∧ rank i < rank j) (hv : P v) : AwayFromCycles r v := by
  have hback : ∀ c, Relation.ReflTransGen r c v → P c := by
    intro c hc
    induction hc using Relation.ReflTransGen.head_induction_on with
    | refl => exact hv
    | head hr _ ih => exact (hrank _ _ ih hr).1
  have hlt : ∀ a b, Relation.TransGen r a b → P b → rank a < rank b := by
    intro a b hab
    induction hab with
    | single hr => exact fun hb => (hrank _ _ hb hr).2
    | tail _ hr ih =>
      intro hb
      obtain ⟨hmid, hlast⟩ := hrank _ _ hb hr
      exact (ih hmid).trans hlast
  exact fun c hc hcv => Nat.lt_irrefl _ (hlt c c hc (hback c hcv))

theorem isWalkTo_singleton (r : Nat → Nat → Prop) (v : Nat) : IsWalkTo r v [v] :=
  ⟨List.isChain_singleton v, rfl⟩

theorem IsWalkTo.concat (h : IsWalkTo r u p) (hr : r u v) : IsWalkTo r v (p ++ [v]) := by
  refine ⟨List.isChain_append.2 ⟨h.1, List.isChain_singleton v, ?_⟩, List.getLast?_concat⟩
  intro x hx y hy
  rw [h.2] at hx
  cases hx
  cases hy
  exact hr

/-- A walk is a single position, or it comes from a walk to the position before the last. -/
theorem IsWalkTo.cases (h : IsWalkTo r v p) :
    p = [v] ∨ ∃ q u, p = q ++ [v] ∧ IsWalkTo r u q ∧ r u v := by
  obtain ⟨q, rfl⟩ := List.getLast?_eq_some_iff.1 h.2
  obtain ⟨hq, -, hlast⟩ := List.isChain_append.1 h.1
  cases hu : q.getLast? with
  | none =>
    rw [List.getLast?_eq_none_iff] at hu
    exact .inl (by rw [hu]; rfl)
  | some u => exact .inr ⟨q, u, rfl, ⟨hq, hu⟩, hlast u hu v rfl⟩

/-- Every position of a walk leads to its end. -/
theorem IsWalkTo.reaches (h : IsWalkTo r v p) {x : Nat} (hx : x ∈ p) :
    Relation.ReflTransGen r x v := by
  induction p using List.reverseRecOn generalizing v with
  | nil => cases hx
  | append_singleton q w ih =>
    have hw : w = v := by simpa using h.2
    subst hw
    rcases h.cases with heq | ⟨q', u, heq, hu, hr⟩
    · rw [heq] at hx
      rw [List.mem_singleton.1 hx]
    · obtain rfl := List.append_cancel_right heq
      rcases List.mem_append.1 hx with hx | hx
      · exact (ih hu hx).tail hr
      · rw [List.mem_singleton.1 hx]

/-- Off the cycles, a longest path is one edge longer than the longest one to a predecessor. -/
theorem IsLongest.of_predecessors (hv : AwayFromCycles r v)
    (habove : ∀ u, r u v → ∃ m < l, IsLongest r u m)
    (hnext : ∀ m, l = m + 1 → ∃ u, r u v ∧ IsLongest r u m) : IsLongest r v l where
  attained := by
    cases l with
    | zero => exact ⟨[v], isWalkTo_singleton r v, List.nodup_singleton v, rfl⟩
    | succ m =>
      obtain ⟨u, hr, hu⟩ := hnext m rfl
      obtain ⟨p, hp, hnodup, hlength⟩ := hu.attained
      -- a path that passed `v` before would lie on a cycle through `v`
      have hnew : v ∉ p := fun hmem =>
        hv v (Relation.TransGen.tail' (hp.reaches hmem) hr) Relation.ReflTransGen.refl
      refine ⟨p ++ [v], hp.concat hr, List.nodup_append.2 ⟨hnodup, List.nodup_singleton v, ?_⟩, ?_⟩
      · intro x hx y hy
        rw [List.mem_singleton.1 hy]
        exact fun hxv => hnew (hxv ▸ hx)
      · rw [List.length_append, hlength, List.length_singleton]
  bound := by
    intro p hp
    rcases hp.cases with rfl | ⟨q, u, rfl, hq, hr⟩
    · rw [List.length_singleton]
      omega
    · obtain ⟨m, hm, hu⟩ := habove u hr
      have hlength := hu.bound q hq
      rw [List.length_append, List.length_singleton]
      omega

end Walks

namespace Layering

variable {nodes : List Node} {edges : List Edge}

/-- Every layer given away from cycles is the length of a longest path. -/
def LongestLayers (nodes : List Node) (edges : List Edge) (ls : Layering) : Prop :=
  ∀ v l, AwayFromCycles (Linked nodes edges) v → ls.layer? v = some l →
    IsLongest (Linked nodes edges) v l

theorem longestLayers_roots (nodes : List Node) (edges : List Edge) :
    LongestLayers nodes edges (roots (predecessorTable nodes edges)) := by
  intro v l hv hl
  obtain ⟨hnil, rfl⟩ := of_layer?_roots hl
  refine IsLongest.of_predecessors hv (fun u hr => ?_) fun m hm => by cases hm
  rw [← mem_predecessorTable, hnil] at hr
  cases hr

/-- A position put below its predecessors, all of which are placed, gets the length of a longest
path. -/
theorem LongestLayers.place {ls : Layering} {v : Nat} (h : LongestLayers nodes edges ls)
    (hall : ∀ p ∈ (predecessorTable nodes edges).getD v [], ls.isPlaced p) :
    LongestLayers nodes edges (ls.place v (depth (predecessorTable nodes edges) ls v)) := by
  intro w l hw hl
  rw [layer?_place] at hl
  split at hl
  · next hvw =>
    obtain ⟨rfl, -⟩ := hvw
    cases hl
    refine IsLongest.of_predecessors hw (fun u hr => ?_) fun m hm => ?_
    · have hu := mem_predecessorTable.2 hr
      obtain ⟨m, hm⟩ := isPlaced_iff.1 (hall u hu)
      exact ⟨m, lt_depth hu hm, h u m (hw.of_rel hr) hm⟩
    · obtain ⟨u, hu, hlayer⟩ := exists_of_depth_eq_succ hm
      have hr := mem_predecessorTable.1 hu
      exact ⟨u, hr, h u m (hw.of_rel hr) hlayer⟩
  · exact h w l hw hl

/-- A position placed to break a stall is not away from cycles. -/
theorem LongestLayers.place_of_stalled {ls : Layering} {v l : Nat}
    (h : LongestLayers nodes edges ls) (hstalled : Stalled (predecessorTable nodes edges) ls)
    (hsize : ls.size = nodes.length) (hlt : v < nodes.length) (hnone : ls.layer? v = none) :
    LongestLayers nodes edges (ls.place v l) := by
  intro w m hw hm
  rw [layer?_place] at hm
  split at hm
  · next hvw =>
    obtain ⟨rfl, -⟩ := hvw
    obtain ⟨c, hc, hcv⟩ := hstalled.exists_cycle hsize hlt hnone
    exact absurd hcv (hw c hc)
  · exact h w m hw hm

theorem longestLayers_stage (nodes : List Node) (edges : List Edge) (k : Nat) :
    LongestLayers nodes edges (stage (predecessorTable nodes edges) k) := by
  refine stage_induction (longestLayers_roots nodes edges) (fun ls v h _ hall => h.place hall)
    (fun k v h hstalled hb => ?_) k
  obtain ⟨hlt, hnone⟩ := mem_unplaced.1 (mem_unplaced_of_breaker? hb)
  rw [size_predecessorTable] at hlt
  exact h.place_of_stalled hstalled ((size_stage ..).trans (size_predecessorTable ..)) hlt hnone

end Layering

/-- Away from cycles, wherever else there are some, the layer of a node is the number of edges of a
longest path to it. -/
theorem exists_isLongest_layer {nodes : List Node} {edges : List Edge} {v : Nat}
    (hv : v < nodes.length) (haway : AwayFromCycles (Linked nodes edges) v) :
    ∃ l, (assignLayers nodes edges)[v]? = some l ∧ IsLongest (Linked nodes edges) v l := by
  obtain ⟨k, hk⟩ := exists_assignLayers_eq_stage nodes edges
  obtain ⟨l, hl, hassigned⟩ := hk v hv
  exact ⟨l, hassigned, Layering.longestLayers_stage nodes edges k v l haway hl⟩

/-! ## A short cut above a cycle -/

/-- The nodes of a path, the last one first; `B` is there twice and stands for its last node. -/
def shortCutNodes : List Node :=
  ["D", "C", "B", "A", "X", "Y", "B"].map Node.implicit

/-- The path from `A` to `D`, with a short cut from `A` to `C`, leads to the cycle of `X` and
`Y`. -/
def shortCutEdges : List Edge :=
  [("C", "D"), ("A", "C"), ("B", "C"), ("A", "B"), ("D", "X"), ("X", "Y"), ("Y", "X")].map
    fun (source, target) => { source, target, kind := .arrow }

theorem awayFromCycles_shortCut : AwayFromCycles (Linked shortCutNodes shortCutEdges) 0 := by
  -- `A`, the last `B`, `C` and `D` are ranked as the path passes them
  have hrank : ∀ link ∈ links shortCutNodes shortCutEdges, link.2 ∈ [3, 6, 1, 0] →
      link.1 ∈ [3, 6, 1, 0] ∧ [3, 6, 1, 0].idxOf link.1 < [3, 6, 1, 0].idxOf link.2 := by
    decide +kernel
  exact awayFromCycles_of_rank (P := (· ∈ [3, 6, 1, 0])) ([3, 6, 1, 0].idxOf ·)
    (fun i j hj hlink => hrank (i, j) hlink hj) (by decide)

/-- `D` lies below `A`, `B` and `C`, on layer 3. -/
theorem isLongest_shortCut :
    0 < shortCutNodes.length ∧ AwayFromCycles (Linked shortCutNodes shortCutEdges) 0 ∧
      (assignLayers shortCutNodes shortCutEdges)[0]? = some 3 ∧
      IsLongest (Linked shortCutNodes shortCutEdges) 0 3 := by
  have hlayer : (assignLayers shortCutNodes shortCutEdges)[0]? = some 3 := by decide +kernel
  obtain ⟨l, hl, hlongest⟩ := exists_isLongest_layer (by decide) awayFromCycles_shortCut
  rw [hlayer] at hl
  cases hl
  exact ⟨by decide, awayFromCycles_shortCut, hlayer, hlongest⟩

end FlowchartLayout
