import FlowchartLayout.Flowchart.Basic
import FlowchartLayout.Number.Binary32

/-!
# Bounds of subgraphs

The box of a subgraph holds its own nodes and the boxes of the subgraphs in it, with a padding on
all sides and a title bar on top. Subgraphs are bounded from the inside to the outside, starting
from those without a known parent; each of them is visited once.

## Main definitions

- `Box` — a rectangle given by its corners
- `Bounding` — the subgraphs with the boxes found so far
- `Flowchart.bounded` — the flowchart with its subgraphs bounded
-/

namespace FlowchartLayout

def titleBarHeight : Float32 := 30

structure Box where
  minX : Float32
  minY : Float32
  maxX : Float32
  maxY : Float32

namespace Box

def ofNode (n : Node) : Box :=
  ⟨n.x, n.y, n.x + n.width, n.y + n.height⟩

def ofSubgraph (s : Subgraph) : Box :=
  ⟨s.x, s.y, s.x + s.width, s.y + s.height⟩

/-- The smallest box around two boxes. -/
def union (a b : Box) : Box :=
  ⟨smaller a.minX b.minX, smaller a.minY b.minY, larger a.maxX b.maxX, larger a.maxY b.maxY⟩

/-- The box grown by one more, if there is one. -/
def union? (a b : Option Box) : Option Box :=
  match a, b with
  | some a, some b => some (a.union b)
  | some a, none => some a
  | none, b => b

end Box

/-- The subgraph around an inner box. -/
def Subgraph.around (padding : Float32) (inner : Box) (s : Subgraph) : Subgraph :=
  { s with
    x := inner.minX - padding
    y := inner.minY - padding - titleBarHeight
    width := inner.maxX - inner.minX + 2 * padding
    height := inner.maxY - inner.minY + 2 * padding + titleBarHeight }

/-- The subgraphs with the boxes found so far, and the ids already visited. -/
structure Bounding where
  subgraphs : List Subgraph
  visited : List String := []

namespace Bounding

/-- Bounds the first subgraph with the id, after those below it, to at most the given depth. The
box is the one of the subgraph, if there is a node below it and it was not visited before. -/
def visit (nodes : List Node) (padding : Float32) :
    Nat → Bounding → String → Bounding × Option Box
  | 0, b, _ => (b, none)
  | depth + 1, b, id =>
    if b.visited.contains id then (b, none)
    else
      let children := (b.subgraphs.filter (·.parent == some id)).map (·.id)
      let (b, inner) := children.foldl
        (fun (b, inner) child =>
          let (b, box) := visit nodes padding depth b child
          (b, Box.union? inner box))
        ({ b with visited := id :: b.visited }, none)
      let inner := (nodes.filter (·.subgraph == some id)).foldl
        (fun inner n => Box.union? inner (some (Box.ofNode n))) inner
      match inner, b.subgraphs.find? (·.id == id) with
      | some inner, some s =>
        let s := s.around padding inner
        ({ b with subgraphs := b.subgraphs.modify (b.subgraphs.findIdx (·.id == id)) fun _ => s },
          some (Box.ofSubgraph s))
      | _, _ => (b, none)

end Bounding

/-- The ids of the subgraphs that lie in no known subgraph. -/
def Flowchart.rootSubgraphs (fc : Flowchart) : List String :=
  (fc.subgraphs.filter fun s =>
    match s.parent with
    | some p => (fc.findSubgraph? p).isNone
    | none => true).map (·.id)

/-- The flowchart with bounds for all subgraphs that hold nodes. -/
def Flowchart.bounded (fc : Flowchart) : Flowchart :=
  let start : Bounding := { subgraphs := fc.subgraphs }
  let done := fc.rootSubgraphs.foldl
    (fun b id =>
      (b.visit fc.nodes fc.spacing.subgraphPadding (fc.subgraphs.length + 1) id).1) start
  { fc with subgraphs := done.subgraphs }

end FlowchartLayout
