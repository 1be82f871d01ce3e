import FlowchartLayout.Proofs.Layers.Overtaking
import Mathlib.Data.Set.Basic

/-!
# Layers and connections

The layer of a node depends on which nodes are connected, and on nothing else about the edges:
neither on their order nor on how often two nodes are connected, nor on labels and kinds, nor on
loops, nor on edges of which an end is no node. Predecessors are looked at as a set, in passes as
well as in stalls, so that the runs for two lists of edges stay in step.

## Main definitions

- `Layering.SamePredecessors` — two tables with the same predecessors, in any order and number
- `connections` — the pairs of different nodes that edges connect, by their ids
- `Rewiring` — a change to the edges that leaves the connections alone

## Main statements

- `Layering.SamePredecessors.stage_eq` — after every round the layers given are the same
- `assignLayers_eq_of_connections_eq` — edges with the same connections lead to the same layers
-/

namespace FlowchartLayout

namespace Layering

variable {preds preds' : Array (List Nat)}

/-! ## Tables with the same predecessors -/

/-- Every position has the same predecessors in both tables, in any order and number. -/
structure SamePredecessors (preds preds' : Array (List Nat)) : Prop where
  size : preds.size = preds'.size
  mem : ∀ i p, p ∈ preds.getD i [] ↔ p ∈ preds'.getD i []

theorem below_le_of_subset {layers layers' : List Nat} (h : layers ⊆ layers') :
    below layers ≤ below layers' := by
  cases hb : below layers with
  | zero => exact Nat.zero_le _
  | succ l => exact lt_below (h (mem_of_below_eq_succ hb))

/-- What a pass does at a position: it is placed if it has no layer and all its predecessors do. -/
theorem settle_eq (preds : Array (List Nat)) (ls : Layering) (i : Nat) :
    ls.settle preds i =
      if ls.layer? i = none ∧ ∀ p ∈ preds.getD i [], ls.isPlaced p then
        ls.place i (depth preds ls i)
      else ls := by
  rcases settle_cases preds ls i with heq | ⟨hnone, hall, heq⟩
  · rw [heq]
    split
    · next h =>
      -- the pass would have placed it, unless there is no such position
      by_cases hi : i < ls.size
      · have hplaced := isPlaced_settle hi h.2
        rw [heq, isPlaced, h.1] at hplaced
        cases hplaced
      · refine ext_layer? (size_place ..).symm fun j => ?_
        rw [layer?_place, if_neg fun hij => hi hij.2]
    · rfl
  · rw [heq, if_pos ⟨hnone, hall⟩]

namespace SamePredecessors

theorem depth_eq (h : SamePredecessors preds preds') (ls : Layering) :
    depth preds ls = depth preds' ls := by
  funext i
  apply le_antisymm
  · exact below_le_of_subset (List.filterMap_subset _ fun p => (h.mem i p).1)
  · exact below_le_of_subset (List.filterMap_subset _ fun p => (h.mem i p).2)

theorem settle_eq (h : SamePredecessors preds preds') : settle preds = settle preds' := by
  funext ls i
  have hall : (∀ p ∈ preds.getD i [], ls.isPlaced p) ↔ ∀ p ∈ preds'.getD i [], ls.isPlaced p :=
    forall_congr' fun p => by rw [h.mem]
  rw [Layering.settle_eq, Layering.settle_eq, h.depth_eq]
  simp only [hall]

theorem breaker?_eq (h : SamePredecessors preds preds') (ls : Layering) :
    breaker? preds ls = breaker? preds' ls := by
  have hany : (fun i => (preds.getD i []).any ls.isPlaced) =
      fun i => (preds'.getD i []).any ls.isPlaced := by
    funext i
    rw [Bool.eq_iff_iff, List.any_eq_true, List.any_eq_true]
    exact exists_congr fun p => by rw [h.mem]
  have hunplaced : unplaced preds ls = unplaced preds' ls := by
    rw [unplaced, unplaced, h.size]
  rw [breaker?, breaker?, hany, hunplaced]

theorem advance_eq (h : SamePredecessors preds preds') (ls : Layering) :
    ls.advance preds = ls.advance preds' := by
  have hsweep : ls.sweep preds = ls.sweep preds' := by
    rw [sweep, sweep, h.settle_eq, h.size]
  have hforce : ls.force preds = ls.force preds' := by
    rw [force_eq, force_eq, h.breaker?_eq, h.depth_eq]
  rw [advance, advance, hsweep, hforce]

theorem roots_eq (h : SamePredecessors preds preds') : roots preds = roots preds' := by
  have hsize : (roots preds).size = (roots preds').size := by
    rw [roots, roots, Array.size_map, Array.size_map, h.size]
  refine ext_layer? hsize fun i => ?_
  by_cases hi : i < preds.size
  · have hempty : (preds.getD i []).isEmpty = (preds'.getD i []).isEmpty := by
      rw [Bool.eq_iff_iff, List.isEmpty_iff, List.isEmpty_iff, List.eq_nil_iff_forall_not_mem,
        List.eq_nil_iff_forall_not_mem]
      exact forall_congr' fun p => by rw [h.mem]
    rw [layer?_roots hi, layer?_roots (h.size ▸ hi), hempty]
  · rw [roots, roots, layer?, layer?, Array.getElem?_eq_none, Array.getElem?_eq_none]
    · rw [Array.size_map, ← h.size]
      exact Nat.le_of_not_lt hi
    · rw [Array.size_map]
      exact Nat.le_of_not_lt hi

/-- After every round the layers given are the same: both runs pass and stall together. -/
theorem stage_eq (h : SamePredecessors preds preds') (k : Nat) :
    stage preds k = stage preds' k := by
  induction k with
  | zero => exact h.roots_eq
  | succ k ih =>
    show (stage preds k).advance preds = (stage preds' k).advance preds'
    rw [ih, h.advance_eq]

end SamePredecessors

end Layering

/-! ## Connections -/

/-- The pairs of ids that edges connect. Both are ids of nodes, and they are not the same. -/
def connections (nodes : List Node) (edges : List Edge) : Set (String × String) :=
  {c | c.1 ≠ c.2 ∧ c.1 ∈ nodes.map (·.id) ∧ c.2 ∈ nodes.map (·.id) ∧
    ∃ e ∈ edges, e.source = c.1 ∧ e.target = c.2}

section Connections

variable {nodes : List Node} {edges edges' : List Edge}

/-- Positions are linked if their ids are connected; an id stands for the last node with it. -/
theorem linked_iff_exists_connection {i j : Nat} :
    Linked nodes edges i j ↔ ∃ c ∈ connections nodes edges,
      lastIndexOf? (nodes.map (·.id)) c.1 = some i ∧
      lastIndexOf? (nodes.map (·.id)) c.2 = some j := by
  have hmem {id : String} {k : Nat} (h : lastIndexOf? (nodes.map (·.id)) id = some k) :
      id ∈ nodes.map (·.id) :=
    List.mem_of_getElem? (lastIndexOf?_eq_some_iff.1 h).1
  rw [Linked, mem_links]
  constructor
  · rintro ⟨e, he, hs, ht, hne⟩
    refine ⟨(e.source, e.target), ⟨?_, hmem hs, hmem ht, e, he, rfl, rfl⟩, hs, ht⟩
    intro hsame
    rw [show e.source = e.target from hsame, ht] at hs
    exact hne (Option.some.inj hs).symm
  · rintro ⟨⟨s, t⟩, ⟨hne, -, -, e, he, rfl, rfl⟩, hs, ht⟩
    refine ⟨e, he, hs, ht, ?_⟩
    rintro rfl
    have hsource := (lastIndexOf?_eq_some_iff.1 hs).1
    have htarget := (lastIndexOf?_eq_some_iff.1 ht).1
    exact hne (Option.some.inj (hsource.symm.trans htarget))

theorem samePredecessors_of_connections_eq
    (h : connections nodes edges = connections nodes edges') :
    Layering.SamePredecessors (predecessorTable nodes edges) (predecessorTable nodes edges') where
  size := by rw [size_predecessorTable, size_predecessorTable]
  mem i p := by
    rw [mem_predecessorTable, mem_predecessorTable, linked_iff_exists_connection,
      linked_iff_exists_connection, h]

/-- A change to the edges that adds no connection and takes none away. -/
inductive Rewiring (nodes : List Node) : List Edge → List Edge → Prop where
  /-- The edges come in another order. -/
  | reorder {edges edges' : List Edge} (h : edges.Perm edges') : Rewiring nodes edges edges'
  /-- Each edge keeps its ends, and anything else about it may change. -/
  | restyle {edges edges' : List Edge}
      (h : edges.map (fun e => (e.source, e.target)) =
        edges'.map fun e => (e.source, e.target)) :
      Rewiring nodes edges edges'
  | duplicate {edges : List Edge} {e : Edge} (h : e ∈ edges) : Rewiring nodes edges (e :: edges)
  | loop {edges : List Edge} {e : Edge} (h : e.source = e.target) :
      Rewiring nodes edges (e :: edges)
  /-- One of the ends, such as a subgraph, is not a node. -/
  | dangle {edges : List Edge} {e : Edge}
      (h : e.source ∉ nodes.map (·.id) ∨ e.target ∉ nodes.map (·.id)) :
      Rewiring nodes edges (e :: edges)

/-- Connections depend on the ends of the edges only. -/
theorem mem_connections_iff {s t : String} :
    (s, t) ∈ connections nodes edges ↔ (s ≠ t ∧ s ∈ nodes.map (·.id) ∧ t ∈ nodes.map (·.id)) ∧
      (s, t) ∈ edges.map fun e => (e.source, e.target) := by
  simp only [connections, Set.mem_ofPred_eq, List.mem_map, Prod.mk.injEq, and_assoc]

theorem connections_cons_of_not {e : Edge}
    (h : e.source ≠ e.target → e.source ∈ nodes.map (·.id) → e.target ∉ nodes.map (·.id)) :
    connections nodes (e :: edges) = connections nodes edges := by
  ext ⟨s, t⟩
  rw [mem_connections_iff, mem_connections_iff, List.map_cons, List.mem_cons, and_or_left]
  refine or_iff_right ?_
  rintro ⟨⟨hne, hs, ht⟩, heq⟩
  cases heq
  exact h hne hs ht

theorem Rewiring.connections_eq (h : Rewiring nodes edges edges') :
    connections nodes edges = connections nodes edges' := by
  cases h with
  | reorder h =>
    ext ⟨s, t⟩
    rw [mem_connections_iff, mem_connections_iff, (h.map _).mem_iff]
  | restyle h =>
    ext ⟨s, t⟩
    rw [mem_connections_iff, mem_connections_iff, h]
  | duplicate h =>
    ext ⟨s, t⟩
    rw [mem_connections_iff, mem_connections_iff, List.map_cons, List.mem_cons]
    refine and_congr_right fun _ => (or_iff_right_of_imp ?_).symm
    intro heq
    rw [heq]
    exact List.mem_map.2 ⟨_, h, rfl⟩
  | loop h => exact (connections_cons_of_not fun hne => absurd h hne).symm
  | dangle h =>
    refine (connections_cons_of_not fun _ hs => ?_).symm
    exact h.resolve_left fun hnot => hnot hs

theorem connections_eq_of_eqvGen (h : Relation.EqvGen (Rewiring nodes) edges edges') :
    connections nodes edges = connections nodes edges' := by
  induction h with
  | rel _ _ h => exact h.connections_eq
  | refl => rfl
  | symm _ _ _ ih => exact ih.symm
  | trans _ _ _ _ _ ih ih' => exact ih.trans ih'

/-- Edges that connect nothing new can be added one by one. -/
theorem eqvGen_append (more : List Edge)
    (h : connections nodes more ⊆ connections nodes edges) :
    Relation.EqvGen (Rewiring nodes) edges (more ++ edges) := by
  induction more with
  | nil => exact .refl _
  | cons e more ih =>
    have hrest : connections nodes more ⊆ connections nodes (e :: more) := by
      rintro ⟨s, t⟩ hst
      rw [mem_connections_iff] at hst ⊢
      exact ⟨hst.1, List.mem_cons_of_mem _ hst.2⟩
    refine (ih (hrest.trans h)).trans _ _ _ ?_
    by_cases hloop : e.source = e.target
    · exact .rel _ _ (.loop hloop)
    by_cases hnodes : e.source ∈ nodes.map (·.id) ∧ e.target ∈ nodes.map (·.id)
    · have hold := h (mem_connections_iff.2 ⟨⟨hloop, hnodes⟩, List.mem_cons_self⟩)
      obtain ⟨-, -, -, e', he', hs, ht⟩ := hold
      -- an edge with the same ends is there, and a copy of it becomes the new one
      have hcopy : Rewiring nodes (e' :: (more ++ edges)) (e :: (more ++ edges)) := by
        refine .restyle ?_
        rw [List.map_cons, List.map_cons, hs, ht]
      exact (Relation.EqvGen.rel _ _ (.duplicate (List.mem_append_right more he'))).trans _ _ _
        (.rel _ _ hcopy)
    · exact .rel _ _ (.dangle (not_and_or.1 hnodes))

/-- The changes lead from some edges to all others with the same connections. -/
theorem eqvGen_of_connections_eq (h : connections nodes edges = connections nodes edges') :
    Relation.EqvGen (Rewiring nodes) edges edges' := by
  have hthere := eqvGen_append edges' h.ge
  have hback := eqvGen_append edges h.le
  have hswap : Rewiring nodes (edges' ++ edges) (edges ++ edges') :=
    .reorder List.perm_append_comm
  exact (hthere.trans _ _ _ (.rel _ _ hswap)).trans _ _ _ (hback.symm _ _)

/-- The layers depend on the connections only, whatever cycles there are. And edges have the same
connections just if one comes to the others by reordering, restyling and duplicating edges, by
adding loops and edges of which an end is no node, and by undoing such changes. -/
theorem assignLayers_eq_of_connections_eq (nodes : List Node) (edges edges' : List Edge) :
    (connections nodes edges = connections nodes edges' →
      assignLayers nodes edges = assignLayers nodes edges') ∧
    (Relation.EqvGen (Rewiring nodes) edges edges' ↔
      connections nodes edges = connections nodes edges') := by
  refine ⟨fun h => ?_, connections_eq_of_eqvGen, eqvGen_of_connections_eq⟩
  rw [assignLayers_eq_stage, assignLayers_eq_stage,
    (samePredecessors_of_connections_eq h).stage_eq]

end Connections

/-! ## A ring with a branch -/

def ringNodes : List Node :=
  ["A", "B", "C", "D"].map Node.implicit

def ringEdges : List Edge :=
  [("A", "B"), ("B", "C"), ("C", "A"), ("B", "D")].map fun (source, target) =>
    { source, target, kind := .arrow }

/-- The edges the other way round and dotted, one of them twice, with a loop and with an edge to a
subgraph. -/
def rewiredRing : List Edge :=
  [("D", "S"), ("C", "C"), ("A", "B"), ("B", "D"), ("C", "A"), ("B", "C"), ("A", "B")].map
    fun (source, target) => { source, target, kind := .dotted, label := some "again" }

theorem eqvGen_rewiredRing : Relation.EqvGen (Rewiring ringNodes) ringEdges rewiredRing := by
  let restyled := rewiredRing.drop 3
  have hreorder : Rewiring ringNodes ringEdges ringEdges.reverse :=
    .reorder (List.reverse_perm ringEdges).symm
  have hrestyle : Rewiring ringNodes ringEdges.reverse restyled := .restyle rfl
  have hduplicate : Rewiring ringNodes restyled (rewiredRing.drop 2) :=
    .duplicate (e := { source := "A", target := "B", kind := .dotted, label := some "again" })
      (by simp [restyled, rewiredRing])
  have hloop : Rewiring ringNodes (rewiredRing.drop 2) (rewiredRing.drop 1) := .loop rfl
  have hdangle : Rewiring ringNodes (rewiredRing.drop 1) rewiredRing :=
    .dangle (.inr (by decide))
  exact (((((Relation.EqvGen.rel _ _ hreorder).trans _ _ _ (.rel _ _ hrestyle)).trans _ _ _
    (.rel _ _ hduplicate)).trans _ _ _ (.rel _ _ hloop)).trans _ _ _ (.rel _ _ hdangle))

/-- The ring is entered at `A` in both cases, and the branch goes with `C`. -/
theorem assignLayers_rewiredRing :
    Relation.EqvGen (Rewiring ringNodes) ringEdges rewiredRing ∧
      connections ringNodes ringEdges = connections ringNodes rewiredRing ∧
      assignLayers ringNodes ringEdges = assignLayers ringNodes rewiredRing ∧
      assignLayers ringNodes rewiredRing = [0, 1, 2, 2] := by
  obtain ⟨hlayers, hchanges⟩ := assignLayers_eq_of_connections_eq ringNodes ringEdges rewiredRing
  have hconnections := hchanges.1 eqvGen_rewiredRing
  exact ⟨eqvGen_rewiredRing, hconnections, hlayers hconnections, by decide +kernel⟩

end FlowchartLayout
