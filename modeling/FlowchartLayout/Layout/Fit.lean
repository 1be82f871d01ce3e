import FlowchartLayout.Flowchart.Basic
import FlowchartLayout.Number.Binary32

/-!
# Fitting the viewport

Positions, but not sizes, are scaled down so that the flowchart fits the viewport, and everything
is moved away from the origin by the outer padding.

## Main definitions

- `Flowchart.reach` — the corner up to which nodes and paths reach
- `axisScale`, `fitScale` — the scale that fits one axis or both
- `Flowchart.fitted` — the fitted flowchart, with the sizes that were found
-/

namespace FlowchartLayout

def outerPadding : Float32 := 20

/-- Flowcharts are not scaled down further than this. -/
def minScale : Float32 := 0.6

/-- The largest coordinates of nodes and paths, and not less than zero. -/
def Flowchart.reach (fc : Flowchart) : Point :=
  let ofNodes := fc.nodes.foldl
    (fun (p : Point) n => ⟨larger p.x (n.x + n.width), larger p.y (n.y + n.height)⟩) ⟨0, 0⟩
  (fc.edges.flatMap (·.path)).foldl (fun p q => ⟨larger p.x q.x, larger p.y q.y⟩) ofNodes

/-- The scale at which a natural extent fits the available one, if it has to be scaled at all. -/
def axisScale (available natural : Float32) : Float32 :=
  if 0 < available && available < natural && 2 * outerPadding < natural then
    (available - 2 * outerPadding) / (natural - 2 * outerPadding)
  else 1

/-- The scale that fits both axes, within its bounds. -/
def fitScale (width height naturalWidth naturalHeight : Float32) : Float32 :=
  larger (smaller (axisScale width naturalWidth) (axisScale height naturalHeight)) minScale

/-- Where a coordinate goes. -/
def rescale (scale v : Float32) : Float32 :=
  if scale < 1 then outerPadding + v * scale else v + outerPadding

def Point.rescaled (scale : Float32) (p : Point) : Point :=
  ⟨rescale scale p.x, rescale scale p.y⟩

/-- The flowchart fitted into a viewport of the given width and height. -/
def Flowchart.fitted (fc : Flowchart) (width height : Float32) : Flowchart :=
  let reach := fc.reach
  let naturalWidth := reach.x + 2 * outerPadding
  let naturalHeight := reach.y + 2 * outerPadding
  let scale := fitScale width height naturalWidth naturalHeight
  { fc with
    nodes := fc.nodes.map fun n => { n with x := rescale scale n.x, y := rescale scale n.y }
    edges := fc.edges.map fun e => { e with
      path := e.path.map (·.rescaled scale)
      labelPosition := e.labelPosition.map (·.rescaled scale) }
    metrics := {
      computed := false
      viewportWidth := width
      viewportHeight := height
      naturalWidth
      naturalHeight
      contentWidth := naturalWidth - 2 * outerPadding
      contentHeight := naturalHeight - 2 * outerPadding
      contentOffsetX := 0
      contentOffsetY := 0
      scale } }

end FlowchartLayout
