import FlowchartLayout.Document.Record
import FlowchartLayout.Flowchart.Basic
import FlowchartLayout.Json.Printer

/-!
# Documents of flowcharts

A document is the JSON text of a flowchart, with its layout.

## Main definitions

- `Node.record`, `Edge.record`, `Subgraph.record`, … — the fields of the records, in order
- `Flowchart.document` — the document of a flowchart
- `Flowchart.ofDocument` — the flowchart of a document, or what is wrong with it
-/

namespace FlowchartLayout

open Codec

/-- A field that a document must have. -/
def Field.required {α : Type} (name : String) (codec : Codec α) : Field α where
  name
  codec

/-- A field that is none in an object without it. -/
def Field.optional {α : Type} (name : String) (codec : Codec α) : Field (Option α) where
  name
  codec := codec.option
  ifUnnamed := some none

/-- A field that has a default where it is left out. -/
def Field.defaulted {α : Type} (name : String) (codec : Codec α) (default : α) : Field α where
  name
  codec
  ifUnnamed := some default
  ifUnlisted := some default

def Point.record : Record Point where
  name := "Point"
  types := [Float32, Float32]
  fields := .cons (.required "x" single) <| .cons (.required "y" single) .nil
  toRow p := (p.x, p.y, ())
  ofRow := fun (x, y, ()) => ⟨x, y⟩

def Node.record : Record Node where
  name := "Node"
  types := [String, Shape, String, Float32, Float32, Float32, Float32, Color, Color, Float32,
    Option String]
  fields :=
    .cons (.required "id" text) <|
    .cons (.required "shape" named) <|
    .cons (.required "label" text) <|
    .cons (.required "x" single) <|
    .cons (.required "y" single) <|
    .cons (.required "width" single) <|
    .cons (.required "height" single) <|
    .cons (.required "fill_color" color) <|
    .cons (.required "stroke_color" color) <|
    .cons (.required "stroke_width" single) <|
    .cons (.optional "subgraph" text) .nil
  toRow n := (n.id, n.shape, n.label, n.x, n.y, n.width, n.height, n.fillColor, n.strokeColor,
    n.strokeWidth, n.subgraph, ())
  ofRow := fun (id, shape, label, x, y, width, height, fillColor, strokeColor, strokeWidth,
      subgraph, ()) =>
    { id, shape, label, x, y, width, height, fillColor, strokeColor, strokeWidth, subgraph }

def Edge.record : Record Edge where
  name := "Edge"
  types := [String, String, Option String, EdgeKind, Marker, Marker, List Point, Option Point]
  fields :=
    .cons (.required "from" text) <|
    .cons (.required "to" text) <|
    .cons (.optional "label" text) <|
    .cons (.required "edge_type" named) <|
    .cons (.required "start_marker" named) <|
    .cons (.required "end_marker" named) <|
    .cons (.required "path" Point.record.codec.list) <|
    .cons (.optional "label_position" Point.record.codec) .nil
  toRow e := (e.source, e.target, e.label, e.kind, e.startMarker, e.endMarker, e.path,
    e.labelPosition, ())
  ofRow := fun (source, target, label, kind, startMarker, endMarker, path, labelPosition, ()) =>
    { source, target, label, kind, startMarker, endMarker, path, labelPosition }

def Subgraph.record : Record Subgraph where
  name := "Subgraph"
  types := [String, String, Option Direction, Option String, Float32, Float32, Float32, Float32,
    Color, Color]
  fields :=
    .cons (.required "id" text) <|
    .cons (.required "title" text) <|
    .cons (.optional "direction" named) <|
    .cons (.optional "parent" text) <|
    .cons (.required "x" single) <|
    .cons (.required "y" single) <|
    .cons (.required "width" single) <|
    .cons (.required "height" single) <|
    .cons (.required "background_color" color) <|
    .cons (.required "border_color" color) .nil
  toRow s := (s.id, s.title, s.direction, s.parent, s.x, s.y, s.width, s.height,
    s.backgroundColor, s.borderColor, ())
  ofRow := fun (id, title, direction, parent, x, y, width, height, backgroundColor, borderColor,
      ()) =>
    { id, title, direction, parent, x, y, width, height, backgroundColor, borderColor }

def Spacing.record : Record Spacing where
  name := "LayoutConfig"
  types := [Float32, Float32, Float32, Float32]
  fields :=
    .cons (.required "node_spacing" single) <|
    .cons (.required "rank_spacing" single) <|
    .cons (.required "subgraph_padding" single) <|
    .cons (.required "font_size" single) .nil
  toRow s := (s.node, s.rank, s.subgraphPadding, s.fontSize, ())
  ofRow := fun (node, rank, subgraphPadding, fontSize, ()) =>
    { node, rank, subgraphPadding, fontSize }

def Metrics.record : Record Metrics where
  name := "LayoutMetrics"
  types := [Bool, Float32, Float32, Float32, Float32, Float32, Float32, Float32, Float32, Float32]
  fields :=
    .cons (.required "computed" flag) <|
    .cons (.required "viewport_width" single) <|
    .cons (.required "viewport_height" single) <|
    .cons (.required "natural_width" single) <|
    .cons (.required "natural_height" single) <|
    .cons (.required "content_width" single) <|
    .cons (.required "content_height" single) <|
    .cons (.required "content_offset_x" single) <|
    .cons (.required "content_offset_y" single) <|
    .cons (.required "scale" single) .nil
  toRow m := (m.computed, m.viewportWidth, m.viewportHeight, m.naturalWidth, m.naturalHeight,
    m.contentWidth, m.contentHeight, m.contentOffsetX, m.contentOffsetY, m.scale, ())
  ofRow := fun (computed, viewportWidth, viewportHeight, naturalWidth, naturalHeight,
      contentWidth, contentHeight, contentOffsetX, contentOffsetY, scale, ()) =>
    { computed, viewportWidth, viewportHeight, naturalWidth, naturalHeight, contentWidth,
      contentHeight, contentOffsetX, contentOffsetY, scale }

namespace Flowchart

def record : Record Flowchart where
  name := "Flowchart"
  types := [Direction, Spacing, List Node, List Edge, List Subgraph, Metrics]
  fields :=
    .cons (.required "direction" named) <|
    .cons (.defaulted "config" Spacing.record.codec {}) <|
    .cons (.required "nodes" Node.record.codec.list) <|
    .cons (.required "edges" Edge.record.codec.list) <|
    .cons (.required "subgraphs" Subgraph.record.codec.list) <|
    .cons (.defaulted "metrics" Metrics.record.codec {}) .nil
  toRow fc := (fc.direction, fc.spacing, fc.nodes, fc.edges, fc.subgraphs, fc.metrics, ())
  ofRow := fun (direction, spacing, nodes, edges, subgraphs, metrics, ()) =>
    { direction, spacing, nodes, edges, subgraphs, metrics }

/-- The document of a flowchart. -/
def document (style : Json.Style) (fc : Flowchart) : String :=
  (record.codec.encode fc).write style

/-- The flowchart of a document. Only blanks may follow its object. -/
def ofDocument (text : String) : Except Problem Flowchart :=
  let (j, followed) := Json.ofText text.toList
  match record.codec.decode j with
  | .error p => .error p
  | .ok fc => if followed then .error .trailingCharacters else .ok fc

end Flowchart

end FlowchartLayout
