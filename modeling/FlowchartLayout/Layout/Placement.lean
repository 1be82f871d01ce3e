import FlowchartLayout.Flowchart.Basic
import FlowchartLayout.Layout.Size

/-!
# Placement

Nodes sit on a uniform grid whose cell is as large as the largest node. The layer says where a node
is along its direction; across it, the nodes of one layer and one subgraph are centred as a group.

## Main definitions

- `Flowchart.effectiveDirection` — the direction that a node follows
- `Seat` — what decides the place of a node
- `Grid` — the cell and the extent of the grid
- `Flowchart.placed` — the flowchart with its nodes in place
-/

namespace FlowchartLayout

namespace Flowchart

/-- The first override on the chain of parents, of which at most `steps` are looked at. -/
def directionFrom (fc : Flowchart) : Nat → Option String → Direction
  | 0, _ => fc.direction
  | _ + 1, none => fc.direction
  | steps + 1, some id =>
    match fc.findSubgraph? id with
    | none => fc.direction
    | some s =>
      match s.direction with
      | some direction => direction
      | none => fc.directionFrom steps s.parent

/-- The nearest direction that a subgraph around the node sets, or else the direction of the
flowchart. Parents may form a cycle, which is left after as many steps as there are subgraphs. -/
def effectiveDirection (fc : Flowchart) (n : Node) : Direction :=
  fc.directionFrom (fc.subgraphs.length + 1) n.subgraph

end Flowchart

/-- What decides the place of a node: its layer, the direction it follows, and its subgraph. -/
structure Seat where
  layer : Nat
  direction : Direction
  subgraph : Option String

namespace Seat

/-- The nodes of one layer and one subgraph are placed as a group. -/
def sameGroup (s t : Seat) : Bool :=
  s.layer == t.layer && s.subgraph == t.subgraph

/-- The number of a seat across its direction, after the seats `before`. Seats that follow the
direction `flow` of the flowchart are counted over their whole layer, the others in their group. -/
def slot (flow : Direction) (before : List Seat) (s : Seat) : Nat :=
  if s.direction = flow then
    before.countP fun t => t.layer == s.layer && t.direction == flow
  else before.countP s.sameGroup

end Seat

/-- The cell size, the last layer, and the number of nodes on the widest layer. -/
structure Grid where
  cellWidth : Float32
  cellHeight : Float32
  lastLayer : Nat
  widest : Nat

/-- The grid for sized nodes on the given layers. -/
def Grid.of (nodes : List Node) (layers : List Nat) : Grid :=
  let lastLayer := layers.foldl max 0
  { cellWidth := nodes.foldl (fun w n => larger w n.width) minNodeWidth
    cellHeight := nodes.foldl (fun h n => larger h n.height) minNodeHeight
    lastLayer
    widest := ((List.range (lastLayer + 1)).map layers.count).foldl max 0 }

/-- The node at a seat of the grid, centred in its cell. `slot` is its number across the direction
and `groupSize` the number of nodes in its group. -/
def Grid.place (grid : Grid) (spacing : Spacing) (seat : Seat) (slot groupSize : Nat) (n : Node) :
    Node :=
  let horizontal := seat.direction.isHorizontal
  let across := if horizontal then grid.cellHeight else grid.cellWidth
  let along := if horizontal then grid.cellWidth else grid.cellHeight
  let rank := if seat.direction.isReversed then grid.lastLayer - seat.layer else seat.layer
  let start := (grid.widest - groupSize).toFloat32 * (across + spacing.node) / 2
  let primary := rank.toFloat32 * (along + spacing.rank)
  let secondary := start + slot.toFloat32 * (across + spacing.node)
  { n with
    x := (if horizontal then primary else secondary) + (grid.cellWidth - n.width) / 2
    y := (if horizontal then secondary else primary) + (grid.cellHeight - n.height) / 2 }

/-- Places nodes with their seats one after the other; `before` holds the seats already taken and
`all` the seats of the whole flowchart. -/
def Grid.placeAll (grid : Grid) (spacing : Spacing) (flow : Direction) (all : List Seat) :
    List Seat → List (Node × Seat) → List Node
  | _, [] => []
  | before, (n, seat) :: rest =>
    grid.place spacing seat (seat.slot flow before) (all.countP seat.sameGroup) n ::
      grid.placeAll spacing flow all (seat :: before) rest

/-- The seats of the nodes on the given layers. -/
def Flowchart.seats (fc : Flowchart) (layers : List Nat) : List Seat :=
  (fc.nodes.zip layers).map fun (n, layer) =>
    { layer, direction := fc.effectiveDirection n, subgraph := n.subgraph }

/-- The flowchart with its sized nodes placed on the given layers. -/
def Flowchart.placed (fc : Flowchart) (layers : List Nat) : Flowchart :=
  let seats := fc.seats layers
  let grid := Grid.of fc.nodes layers
  { fc with
    nodes := grid.placeAll fc.spacing fc.direction seats [] (fc.nodes.zip seats) }

end FlowchartLayout
