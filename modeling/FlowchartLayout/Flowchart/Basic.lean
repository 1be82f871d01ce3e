import FlowchartLayout.Color
import FlowchartLayout.Direction
import FlowchartLayout.EdgeKind
import FlowchartLayout.Shape

/-!
# Flowcharts

A flowchart owns its nodes, edges and subgraphs, each in the order in which they were added, and
remembers the sizes of its last layout.

## Main definitions

- `Point`, `Node`, `Edge`, `Subgraph` — the records
- `Spacing`, `Metrics` — what a layout is given and what it finds
- `Flowchart` — the whole, with additions, changes and look-ups

## Design notes

Ids are plain names. The model admits repeated ids and names that belong to nothing; a look-up
finds the first record with an id. Every change makes a computed layout stale, except that shifting
a subgraph leaves its state alone.
-/

namespace FlowchartLayout

/-! ## Records -/

structure Point where
  x : Float32
  y : Float32
  deriving BEq

/-- The point half way to another one. -/
def Point.midpoint (p q : Point) : Point :=
  ⟨(p.x + q.x) / 2, (p.y + q.y) / 2⟩

/-- Moves a point by `dx` and `dy`. -/
def Point.shift (p : Point) (dx dy : Float32) : Point :=
  ⟨p.x + dx, p.y + dy⟩

structure Node where
  id : String
  shape : Shape
  label : String
  x : Float32 := 0
  y : Float32 := 0
  width : Float32 := 0
  height : Float32 := 0
  fillColor : Color := .white
  strokeColor : Color := .black
  strokeWidth : Float32 := 1
  /-- The innermost subgraph that holds the node. -/
  subgraph : Option String := none
  deriving BEq

namespace Node

/-- The rectangle that a mere mention of an id stands for. -/
def implicit (id : String) : Node :=
  { id, shape := .rectangle, label := id }

def center (n : Node) : Point :=
  ⟨n.x + n.width / 2, n.y + n.height / 2⟩

end Node

structure Edge where
  source : String
  target : String
  label : Option String := none
  kind : EdgeKind
  startMarker : Marker := kind.startMarker
  endMarker : Marker := kind.endMarker
  /-- Empty before routing; the centres of both ends after it. -/
  path : List Point := []
  labelPosition : Option Point := none
  deriving BEq

/-- The edge has a path to be drawn along. -/
def Edge.isRouted (e : Edge) : Bool :=
  2 ≤ e.path.length

structure Subgraph where
  id : String
  title : String
  /-- Overrides the direction for the nodes of the subgraph. -/
  direction : Option Direction := none
  parent : Option String := none
  x : Float32 := 0
  y : Float32 := 0
  width : Float32 := 0
  height : Float32 := 0
  backgroundColor : Color := .lightGray
  borderColor : Color := .black
  deriving BEq

/-- A subgraph without bounds holds no node and is not drawn. -/
def Subgraph.hasBounds (s : Subgraph) : Bool :=
  0 < s.width && 0 < s.height

/-- The distances that a layout keeps, and the size of labels. -/
structure Spacing where
  node : Float32 := 20
  rank : Float32 := 40
  subgraphPadding : Float32 := 40
  fontSize : Float32 := 14
  deriving BEq

/-- The sizes recorded by the last layout. -/
structure Metrics where
  computed : Bool := false
  viewportWidth : Float32 := 0
  viewportHeight : Float32 := 0
  /-- Extent before scaling, with the outer padding. -/
  naturalWidth : Float32 := 0
  naturalHeight : Float32 := 0
  contentWidth : Float32 := 0
  contentHeight : Float32 := 0
  contentOffsetX : Float32 := 0
  contentOffsetY : Float32 := 0
  scale : Float32 := 0
  deriving BEq

structure Flowchart where
  direction : Direction
  spacing : Spacing := {}
  nodes : List Node := []
  edges : List Edge := []
  subgraphs : List Subgraph := []
  metrics : Metrics := {}
  deriving BEq

namespace Flowchart

/-- A flowchart without any records. -/
def empty (direction : Direction) : Flowchart :=
  { direction }

/-! ## Look-ups -/

def findNode? (fc : Flowchart) (id : String) : Option Node :=
  fc.nodes.find? (·.id == id)

def findNodeIndex? (fc : Flowchart) (id : String) : Option Nat :=
  fc.nodes.findIdx? (·.id == id)

def findSubgraph? (fc : Flowchart) (id : String) : Option Subgraph :=
  fc.subgraphs.find? (·.id == id)

def findSubgraphIndex? (fc : Flowchart) (id : String) : Option Nat :=
  fc.subgraphs.findIdx? (·.id == id)

/-- A node or a subgraph has the id. -/
def containsId (fc : Flowchart) (id : String) : Bool :=
  (fc.findNode? id).isSome || (fc.findSubgraph? id).isSome

/-- The subgraphs whose parent is `id`. -/
def childSubgraphs (fc : Flowchart) (id : String) : List Subgraph :=
  fc.subgraphs.filter fun s => s.parent == some id

/-! ## Changes -/

/-- The last layout no longer holds. -/
def invalidate (fc : Flowchart) : Flowchart :=
  { fc with metrics := { fc.metrics with computed := false } }

def setDirection (fc : Flowchart) (direction : Direction) : Flowchart :=
  { fc with direction }.invalidate

def setSpacing (fc : Flowchart) (spacing : Spacing) : Flowchart :=
  { fc with spacing }.invalidate

def addNode (fc : Flowchart) (n : Node) : Flowchart :=
  { fc with nodes := fc.nodes ++ [n] }.invalidate

def addEdge (fc : Flowchart) (e : Edge) : Flowchart :=
  { fc with edges := fc.edges ++ [e] }.invalidate

def addSubgraph (fc : Flowchart) (s : Subgraph) : Flowchart :=
  { fc with subgraphs := fc.subgraphs ++ [s] }.invalidate

/-- Changes the node at an index, if there is one. -/
def modifyNode (fc : Flowchart) (i : Nat) (f : Node → Node) : Flowchart :=
  { fc with nodes := fc.nodes.modify i f }.invalidate

def modifyEdge (fc : Flowchart) (i : Nat) (f : Edge → Edge) : Flowchart :=
  { fc with edges := fc.edges.modify i f }.invalidate

def modifySubgraph (fc : Flowchart) (i : Nat) (f : Subgraph → Subgraph) : Flowchart :=
  { fc with subgraphs := fc.subgraphs.modify i f }.invalidate

/-- Changes the first node with the id. An unknown id changes nothing, not even the state of the
layout. -/
def modifyNodeById (fc : Flowchart) (id : String) (f : Node → Node) : Flowchart :=
  match fc.findNodeIndex? id with
  | some i => fc.modifyNode i f
  | none => fc

end Flowchart

/-- Colours and stroke width to give to a node; none leaves the node's own. -/
structure NodeStyle where
  fill : Option Color := none
  stroke : Option Color := none
  strokeWidth : Option Float32 := none
  deriving BEq

def Node.withStyle (n : Node) (style : NodeStyle) : Node :=
  { n with
    fillColor := style.fill.getD n.fillColor
    strokeColor := style.stroke.getD n.strokeColor
    strokeWidth := style.strokeWidth.getD n.strokeWidth }

/-- Restyles the first node with the id. -/
def Flowchart.styleNode (fc : Flowchart) (id : String) (style : NodeStyle) : Flowchart :=
  fc.modifyNodeById id (·.withStyle style)

end FlowchartLayout
