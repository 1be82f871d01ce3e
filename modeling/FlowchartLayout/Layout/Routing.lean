import FlowchartLayout.Flowchart.Basic

/-!
# Routing

An edge between two nodes runs straight from centre to centre, and its label sits half way.
-/

namespace FlowchartLayout

/-- The edge with its path, if both its ends are nodes. -/
def Edge.routed (fc : Flowchart) (e : Edge) : Edge :=
  match fc.findNode? e.source, fc.findNode? e.target with
  | some source, some target =>
    { e with
      path := [source.center, target.center]
      labelPosition := some (source.center.midpoint target.center) }
  | _, _ => e

/-- The flowchart with all edges between nodes routed. -/
def Flowchart.routed (fc : Flowchart) : Flowchart :=
  { fc with edges := fc.edges.map (·.routed fc) }

end FlowchartLayout
