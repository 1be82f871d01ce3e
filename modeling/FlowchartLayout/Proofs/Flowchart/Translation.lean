import FlowchartLayout.Proofs.Flowchart.Subtree
import Mathlib.Data.List.Forall2

/-!
# Moving a subgraph

To move a subgraph is to add the same distances, once, to everything that lies in it: the nodes of
the subgraph and of those below it, the edges between these nodes, and the boxes that are drawn.
What lies below is given by reachability, so neither cyclic parents nor repeated ids move anything
twice.

## Main definitions

- `ReplacedWhere` — one list is another one with some of its entries replaced
- `Flowchart.IsBelow` — a subgraph can be reached by going from parents to their subgraphs
- `Flowchart.IsMember`, `Flowchart.JoinsMembers` — the nodes of a subgraph and of those below it, and
  the edges between them
- `Flowchart.Translated` — the flowchart after a move

## Main statements

- `Flowchart.translateSubgraph_exact` — a known id moves what lies in the subgraph and nothing
  else; an unknown one moves nothing
-/

namespace FlowchartLayout

/-- The entries with a property are replaced by what `f` makes of them; all others stay, and
everything keeps its place. -/
def ReplacedWhere {α : Type} (p : α → Prop) (f : α → α) : List α → List α → Prop :=
  List.Forall₂ fun x y => (p x → y = f x) ∧ (¬p x → y = x)

/-- A test that decides the property replaces the right entries. -/
theorem replacedWhere_map_ite {α : Type} {p : α → Prop} {f : α → α} {test : α → Bool}
    (h : ∀ x, test x = true ↔ p x) (xs : List α) :
    ReplacedWhere p f xs (xs.map fun x => if test x then f x else x) := by
  rw [ReplacedWhere, List.forall₂_map_right_iff, List.forall₂_same]
  intro x _
  constructor
  · intro hp
    exact if_pos ((h x).2 hp)
  · intro hp
    exact if_neg fun ht => hp ((h x).1 ht)

theorem Subgraph.hasBounds_iff {s : Subgraph} :
    s.hasBounds = true ↔ 0 < s.width ∧ 0 < s.height := by
  simp only [hasBounds, Bool.and_eq_true, decide_eq_true_eq]

namespace Flowchart

variable {fc : Flowchart} {id : String}

/-- The subgraph `x` is `id` or can be reached from it by going from parents to their
subgraphs. -/
def IsBelow (fc : Flowchart) (id x : String) : Prop :=
  Relation.ReflTransGen fc.IsParent id x

/-- The node belongs to the subgraph `id` or to one below it. -/
def IsMember (fc : Flowchart) (id : String) (n : Node) : Prop :=
  ∃ owner, n.subgraph = some owner ∧ fc.IsBelow id owner

/-- Some node with the name `x` belongs to the subgraph `id` or to one below it. -/
def NamesMember (fc : Flowchart) (id x : String) : Prop :=
  ∃ n ∈ fc.nodes, fc.IsMember id n ∧ n.id = x

/-- Both ends of the edge are names of nodes in the subgraph `id` or below it. -/
def JoinsMembers (fc : Flowchart) (id : String) (e : Edge) : Prop :=
  fc.NamesMember id e.source ∧ fc.NamesMember id e.target

/-- The flowchart `moved` is `fc` after the subgraph `id` has been moved by `dx` and `dy`. Boxes
without extent are not drawn and do not move. -/
structure Translated (fc : Flowchart) (id : String) (dx dy : Float32) (moved : Flowchart) :
    Prop where
  nodes : ReplacedWhere (fc.IsMember id) (fun n => { n with x := n.x + dx, y := n.y + dy })
    fc.nodes moved.nodes
  edges : ReplacedWhere (fc.JoinsMembers id)
    (fun e => { e with
      path := e.path.map fun p => ⟨p.x + dx, p.y + dy⟩
      labelPosition := e.labelPosition.map fun p => ⟨p.x + dx, p.y + dy⟩ })
    fc.edges moved.edges
  subgraphs : ReplacedWhere (fun s => fc.IsBelow id s.id ∧ 0 < s.width ∧ 0 < s.height)
    (fun s => { s with x := s.x + dx, y := s.y + dy }) fc.subgraphs moved.subgraphs
  direction : moved.direction = fc.direction
  spacing : moved.spacing = fc.spacing
  metrics : moved.metrics = fc.metrics

/-! ## The tests for what lies in a subgraph -/

theorem isIn_subtree_iff {n : Node} : n.isIn (fc.subtree id) = true ↔ fc.IsMember id n := by
  simp only [Node.isIn_iff, mem_subtree_iff, IsMember, IsBelow]

theorem contains_moved_iff {x : String} :
    (((fc.nodes.filter (·.isIn (fc.subtree id))).map (·.id)).contains x) = true ↔
      fc.NamesMember id x := by
  rw [List.contains_iff_mem, List.mem_map]
  constructor
  · rintro ⟨n, hn, hx⟩
    obtain ⟨hmem, hin⟩ := List.mem_filter.1 hn
    exact ⟨n, hmem, isIn_subtree_iff.1 hin, hx⟩
  · rintro ⟨n, hmem, hheld, hx⟩
    exact ⟨n, List.mem_filter.2 ⟨hmem, isIn_subtree_iff.2 hheld⟩, hx⟩

/-- Whatever moves is moved by the shift of its kind, and that is one addition for each
coordinate. -/
theorem translated_of_translateSubgraph? {dx dy : Float32} {moved : Flowchart}
    (h : fc.translateSubgraph? id dx dy = some moved) : fc.Translated id dx dy moved := by
  unfold translateSubgraph? at h
  split at h
  · cases h
  · obtain rfl := Option.some.inj h
    refine ⟨?_, ?_, ?_, rfl, rfl, rfl⟩
    · exact replacedWhere_map_ite (fun _ => isIn_subtree_iff) fc.nodes
    · refine replacedWhere_map_ite (fun e => ?_) fc.edges
      rw [Bool.and_eq_true, contains_moved_iff, contains_moved_iff, JoinsMembers]
    · refine replacedWhere_map_ite (fun s => ?_) fc.subgraphs
      rw [Bool.and_eq_true, List.contains_iff_mem, mem_subtree_iff, Subgraph.hasBounds_iff, IsBelow]

/-- For any parents and any repeated ids: if no subgraph has the id, the answer is false and the
flowchart stays as it is. Otherwise the answer is true, and each node, edge and box that lies in
the subgraph or below it has been moved by one addition for each of its coordinates, while
everything else is as before. -/
theorem translateSubgraph_exact (fc : Flowchart) (id : String) (dx dy : Float32) :
    (id ∉ fc.subgraphIds → fc.translateSubgraph id dx dy = (false, fc)) ∧
      (id ∈ fc.subgraphIds →
        ∃ moved, fc.translateSubgraph id dx dy = (true, moved) ∧ fc.Translated id dx dy moved) := by
  have hnone : (fc.findSubgraph? id).isNone = true ↔ id ∉ fc.subgraphIds := by
    rw [Option.isNone_iff_eq_none, ← Option.not_isSome_iff_eq_none, findSubgraph?_isSome_iff]
  constructor
  · intro hunknown
    have hresult : fc.translateSubgraph? id dx dy = none := if_pos (hnone.2 hunknown)
    rw [translateSubgraph, hresult]
  · intro hknown
    obtain ⟨moved, hmoved⟩ : ∃ moved, fc.translateSubgraph? id dx dy = some moved :=
      ⟨_, if_neg fun h => hnone.1 h hknown⟩
    refine ⟨moved, ?_, translated_of_translateSubgraph? hmoved⟩
    rw [translateSubgraph, hmoved]

/-- A node of one of two subgraphs that lie in each other moves once, one outside does not. -/
example :
    let fc : Flowchart :=
      { direction := .topToBottom
        nodes := [("N", some "b"), ("M", none)].map
          fun (id, subgraph) => { Node.implicit id with subgraph }
        subgraphs := [("a", "b"), ("b", "a")].map
          fun (id, parent) => { id, title := id, parent := some parent } }
    (fc.translateSubgraph "a" 1 2).2.nodes.map (fun n => (n.id, n.x, n.y)) =
      [("N", 1, 2), ("M", 0, 0)] := by
  decide +kernel

end Flowchart

end FlowchartLayout
