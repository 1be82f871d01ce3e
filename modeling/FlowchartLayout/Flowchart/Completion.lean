import FlowchartLayout.Flowchart.Basic

/-!
# Completion

What is done once all records are there: of several nodes with one id the first stays, and every
end of an edge gets a node unless it names a node or a subgraph.

## Main definitions

- `uniqueById` — the first node of each id
- `Flowchart.missingIds` — the ends of edges that name nothing
- `Flowchart.complete` — the completed flowchart
-/

namespace FlowchartLayout

/-- The first node of each id that is not in `seen`. -/
def uniqueById (seen : List String) : List Node → List Node
  | [] => []
  | n :: ns =>
    if seen.contains n.id then uniqueById seen ns else n :: uniqueById (n.id :: seen) ns

namespace Flowchart

/-- The ends of edges that are the id of no record, each once, in order of appearance. -/
def missingIds (fc : Flowchart) : List String :=
  ((fc.edges.flatMap fun e => [e.source, e.target]).filter (!fc.containsId ·)).eraseDups

/-- Drops repeated nodes, adds an implicit node for each end of an edge that names nothing, and
makes the layout stale. -/
def complete (fc : Flowchart) : Flowchart :=
  let fc := { fc with nodes := uniqueById [] fc.nodes }
  { fc with nodes := fc.nodes ++ fc.missingIds.map Node.implicit }.invalidate

end Flowchart

end FlowchartLayout
