import FlowchartLayout.Flowchart.Basic
import FlowchartLayout.Number.Binary32
import FlowchartLayout.Text.Lines

/-!
# Sizes of nodes

A node is as large as its label, measured at the font size, with some room around it.

## Main definitions

- `Extent`, `Measurer` — how texts are measured
- `ColumnMeasurer` — the estimate used where there are no real font metrics
- `Node.sized` — a node with the size that its label needs
-/

namespace FlowchartLayout

structure Extent where
  width : Float32
  height : Float32

/-- Measures a text at a font size. -/
abbrev Measurer := String → Float32 → Extent

/-- Estimates an extent from the columns and lines of a text. -/
structure ColumnMeasurer where
  charWidthFactor : Float32 := 0.6
  lineHeightFactor : Float32 := 1.2

def ColumnMeasurer.measure (m : ColumnMeasurer) : Measurer := fun text fontSize =>
  { width := (multilineWidth text.toList).toFloat32 * fontSize * m.charWidthFactor
    height := (lineCount text.toList).toFloat32 * fontSize * m.lineHeightFactor }

/-! ## Constants -/

def minNodeWidth : Float32 := 40

def minNodeHeight : Float32 := 24

def labelPaddingX : Float32 := 32

def labelPaddingY : Float32 := 20

/-- The width that an empty label is taken to have. -/
def emptyLabelWidth : Float32 := 50

def lineHeightFactor : Float32 := 1.2

/-! ## Nodes -/

/-- Diamonds, circles and hexagons lose room to their outlines and need more padding. -/
def Shape.paddingFactor : Shape → Float32
  | .diamond => 2
  | .circle | .hexagon => 1.5
  | _ => 1

/-- The extent of the label of a node. -/
def Node.labelExtent (n : Node) (measure : Measurer) (fontSize : Float32) : Extent :=
  if n.label.isEmpty then ⟨emptyLabelWidth, fontSize * lineHeightFactor⟩
  else measure n.label fontSize

/-- The node with the size that its label needs, and not less than the smallest size. -/
def Node.sized (measure : Measurer) (fontSize : Float32) (n : Node) : Node :=
  let label := n.labelExtent measure fontSize
  let width := larger (label.width + labelPaddingX * n.shape.paddingFactor) minNodeWidth
  let height := larger (label.height + labelPaddingY * n.shape.paddingFactor) minNodeHeight
  if n.shape.isSquare then
    { n with width := larger width height, height := larger width height }
  else { n with width, height }

end FlowchartLayout
