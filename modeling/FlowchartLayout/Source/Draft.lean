import FlowchartLayout.Flowchart.Completion
import FlowchartLayout.Source.Header
import FlowchartLayout.Source.Statement

/-!
# Drafts

A flowchart is built from its source statement by statement.

## Main definitions

- `Draft` — a flowchart under construction
- `Draft.apply` — a draft after one more statement
- `Flowchart.ofSource?` — the flowchart of a source text

## Design notes

An id belongs to the first subgraph in which it is mentioned, and its first shape definition holds.
Ids of subgraphs never become nodes while the subgraph is known.
-/

namespace FlowchartLayout.Source

/-- A flowchart under construction: the indices of the open subgraphs, the innermost first; the ids
that have had a shape definition; and the number of subgraphs without id and title so far. -/
structure Draft where
  flowchart : Flowchart
  openSubgraphs : List Nat := []
  defined : List String := []
  anonymous : Nat := 0

namespace Draft

def start (direction : Direction) : Draft :=
  { flowchart := .empty direction }

/-- The id of the innermost open subgraph. -/
def scope (d : Draft) : Option String :=
  (d.openSubgraphs.head?.bind (d.flowchart.subgraphs[·]?)).map (·.id)

/-- Opens the subgraph with the id, and adds it first if it is new. -/
def openSubgraph (d : Draft) (id title : String) : Draft :=
  match d.flowchart.findSubgraphIndex? id with
  | some i => { d with openSubgraphs := i :: d.openSubgraphs }
  | none =>
    { d with
      flowchart := d.flowchart.addSubgraph { id, title, parent := d.scope }
      openSubgraphs := d.flowchart.subgraphs.length :: d.openSubgraphs }

/-- Opens the next subgraph without id and title, which is named by its number. -/
def openAnonymous (d : Draft) : Draft :=
  let n := d.anonymous + 1
  let id := "subgraph" ++ toString n
  openSubgraph { d with anonymous := n } id id

def closeSubgraph (d : Draft) : Draft :=
  { d with openSubgraphs := d.openSubgraphs.tail }

/-- Sets the direction of the innermost open subgraph, if there is one. -/
def setDirection (d : Draft) (direction : Direction) : Draft :=
  match d.openSubgraphs with
  | [] => d
  | i :: _ =>
    { d with flowchart := d.flowchart.modifySubgraph i ({ · with direction := some direction }) }

/-- Makes sure that there is a node with the id, unless it is the id of a subgraph. A node outside
of all subgraphs moves into the innermost open one. -/
def mention (d : Draft) (id : String) : Draft :=
  match d.flowchart.findNodeIndex? id with
  | some i =>
    if d.scope.isSome && (d.flowchart.nodes[i]?.any fun n => n.subgraph.isNone) then
      { d with flowchart := d.flowchart.modifyNode i ({ · with subgraph := d.scope }) }
    else d
  | none =>
    if (d.flowchart.findSubgraph? id).isSome then d
    else { d with flowchart := d.flowchart.addNode { Node.implicit id with subgraph := d.scope } }

/-- Mentions a node and gives it a shape and a label, if it has had none. An empty label is the
id. -/
def define (d : Draft) (id : String) (definition : NodeShape) : Draft :=
  let d := d.mention id
  match d.flowchart.findNodeIndex? id with
  | none => d
  | some i =>
    if d.defined.contains id then d
    else
      let label := if definition.label.isEmpty then id else definition.label
      { d with
        flowchart := d.flowchart.modifyNode i ({ · with shape := definition.shape, label })
        defined := id :: d.defined }

/-- Adds an edge to a mentioned node. -/
def connect (d : Draft) (link : Link) (source target : String) : Draft :=
  let d := d.mention target
  let edge : Edge :=
    { source, target, label := link.label, kind := link.kind
      startMarker := link.startMarker, endMarker := link.endMarker }
  { d with flowchart := d.flowchart.addEdge edge }

/-- Connects all sources to one target, and then defines the target if it has a definition. -/
def connectAll (d : Draft) (link : Link) (sources : List String) (target : Mention) : Draft :=
  let d := sources.foldl (fun d source => d.connect link source target.id) d
  match target.definition with
  | some definition => d.define target.id definition
  | none => d

/-- Follows the links that lead on from the sources. -/
def follow (d : Draft) (sources : List String) : List Hop → Draft
  | [] => d
  | hop :: hops =>
    let d := hop.targets.foldl (fun d target => d.connectAll hop.link sources target) d
    d.follow (hop.targets.map (·.id)) hops

/-- The draft after one more statement. -/
def apply (d : Draft) : Statement → Draft
  | .subgraph id title => d.openSubgraph id title
  | .anonymousSubgraph => d.openAnonymous
  | .endSubgraph => d.closeSubgraph
  | .direction direction => d.setDirection direction
  | .style id style => { d with flowchart := d.flowchart.styleNode id style }
  | .chain first hops =>
    let d :=
      match first.definition with
      | some definition => d.define first.id definition
      | none => d.mention first.id
    d.follow [first.id] hops
  | .blank => d

/-- The draft after one more line. -/
def readLine (d : Draft) (line : List Char) : Draft :=
  d.apply (.ofLine line)

/-- The flowchart when there are no more lines. -/
def finish (d : Draft) : Flowchart :=
  d.flowchart.complete

end Draft

end FlowchartLayout.Source

namespace FlowchartLayout

open Source in
/-- The flowchart of a source text; none if it has no header. Lines that cannot be read are left
out. -/
def Flowchart.ofSource? (source : String) : Option Flowchart :=
  (readHeader? source.toList).map fun (direction, body) =>
    ((contentLines body).foldl Draft.readLine (Draft.start direction)).finish

/-- The text is the source of a flowchart, as far as its first word tells. -/
def isFlowchartSource (source : String) : Bool :=
  Source.startsFlowchart source.toList

end FlowchartLayout
