import FlowchartLayout.Flowchart.Basic

/-!
# Nested subgraphs

Subgraphs name their parents. Parents may be unknown or form cycles, so a walk over the subgraphs
below one of them remembers where it has been.

## Main definitions

- `Flowchart.subtree` — the ids at and below an id, parents first
- `Flowchart.translateSubgraph?` — moves a subgraph with everything in it
- `Flowchart.translateSubgraph` — the same, with a flowchart and an answer for every id
-/

namespace FlowchartLayout

namespace Flowchart

/-- Adds to `seen` the id and the ids below it that are not there yet, to at most the given
depth. -/
def visitSubtree (fc : Flowchart) : Nat → List String → String → List String
  | 0, seen, _ => seen
  | depth + 1, seen, id =>
    if seen.contains id then seen
    else (fc.childSubgraphs id).foldl (fun seen s => fc.visitSubtree depth seen s.id) (seen ++ [id])

/-- The id itself and the ids of all subgraphs nested below it, each once and parents first. No
chain of new ids is longer than the list of subgraphs and the id itself. -/
def subtree (fc : Flowchart) (id : String) : List String :=
  fc.visitSubtree (fc.subgraphs.length + 1) [] id

end Flowchart

def Node.shift (n : Node) (dx dy : Float32) : Node :=
  { n with x := n.x + dx, y := n.y + dy }

/-- Moves the path and the label of an edge. -/
def Edge.shift (e : Edge) (dx dy : Float32) : Edge :=
  { e with
    path := e.path.map (·.shift dx dy)
    labelPosition := e.labelPosition.map (·.shift dx dy) }

def Subgraph.shift (s : Subgraph) (dx dy : Float32) : Subgraph :=
  { s with x := s.x + dx, y := s.y + dy }

/-- The node belongs directly to one of the subgraphs. -/
def Node.isIn (n : Node) (subgraphs : List String) : Bool :=
  match n.subgraph with
  | some id => subgraphs.contains id
  | none => false

/-- Moves the subgraph with an id, those below it, their nodes, and the edges between these nodes.
The state of the layout stays as it is. There is no result if no subgraph has the id. -/
def Flowchart.translateSubgraph? (fc : Flowchart) (id : String) (dx dy : Float32) :
    Option Flowchart :=
  if (fc.findSubgraph? id).isNone then none
  else
    let inside := fc.subtree id
    let moved := (fc.nodes.filter (·.isIn inside)).map (·.id)
    some { fc with
      nodes := fc.nodes.map fun n => if n.isIn inside then n.shift dx dy else n
      edges := fc.edges.map fun e =>
        if moved.contains e.source && moved.contains e.target then e.shift dx dy else e
      subgraphs := fc.subgraphs.map fun s =>
        if inside.contains s.id && s.hasBounds then s.shift dx dy else s }

/-- Moves the subgraph with an id, and tells whether there is one. -/
def Flowchart.translateSubgraph (fc : Flowchart) (id : String) (dx dy : Float32) :
    Bool × Flowchart :=
  match fc.translateSubgraph? id dx dy with
  | some moved => (true, moved)
  | none => (false, fc)

end FlowchartLayout
