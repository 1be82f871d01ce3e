import FlowchartLayout.Layout.Bounds
import FlowchartLayout.Layout.Fit
import FlowchartLayout.Layout.Layers
import FlowchartLayout.Layout.Placement
import FlowchartLayout.Layout.Routing

/-!
# Layout

A layout sizes the nodes, puts them on layers, places them, routes the edges, fits everything into
the viewport and bounds the subgraphs.

## Main definitions

- `Flowchart.cleared` — a flowchart without paths and bounds
- `Flowchart.relaid` — the layout, computed anew
- `Flowchart.layout` — the layout, computed unless it is there already
-/

namespace FlowchartLayout

/-- The width and height of the content of a flowchart without nodes. -/
def emptyContentSize : Float32 := 100

namespace Flowchart

/-- The flowchart without paths and without bounds. -/
def cleared (fc : Flowchart) : Flowchart :=
  { fc with
    edges := fc.edges.map fun e => { e with path := [], labelPosition := none }
    subgraphs := fc.subgraphs.map fun s => { s with x := 0, y := 0, width := 0, height := 0 } }

/-- The metrics of a flowchart without nodes. -/
def emptyMetrics (width height : Float32) : Metrics :=
  { computed := true
    viewportWidth := width
    viewportHeight := height
    naturalWidth := emptyContentSize + 2 * outerPadding
    naturalHeight := emptyContentSize + 2 * outerPadding
    contentWidth := emptyContentSize
    contentHeight := emptyContentSize
    scale := 1 }

/-- The flowchart with its nodes sized. -/
def sized (fc : Flowchart) (measure : Measurer) : Flowchart :=
  { fc with nodes := fc.nodes.map (·.sized measure fc.spacing.fontSize) }

/-- The flowchart laid out for a viewport of the given width and height, whatever layout it had. -/
def relaid (fc : Flowchart) (measure : Measurer) (width height : Float32) : Flowchart :=
  let fc := fc.cleared
  if fc.nodes.isEmpty then { fc with metrics := emptyMetrics width height }
  else
    let fc := fc.sized measure
    let fc := (fc.placed (assignLayers fc.nodes fc.edges)).routed
    let fc := (fc.fitted width height).bounded
    { fc with metrics := { fc.metrics with computed := true } }

/-- The layout of the flowchart was computed for the viewport and still holds. -/
def isLaidOutFor (fc : Flowchart) (width height : Float32) : Bool :=
  fc.metrics.computed && fc.metrics.viewportWidth == width && fc.metrics.viewportHeight == height

/-- The flowchart laid out for a viewport. A layout that still holds is kept. -/
def layoutWith (fc : Flowchart) (measure : Measurer) (width height : Float32) : Flowchart :=
  if fc.isLaidOutFor width height then fc else fc.relaid measure width height

/-- The flowchart laid out for a viewport, with labels measured by columns. -/
def layout (fc : Flowchart) (width height : Float32) : Flowchart :=
  fc.layoutWith (ColumnMeasurer.measure {}) width height

end Flowchart

end FlowchartLayout
