import FlowchartLayout.Color
import FlowchartLayout.CommandLine
import FlowchartLayout.Direction
import FlowchartLayout.Document.Codec
import FlowchartLayout.Document.Record
import FlowchartLayout.EdgeKind
import FlowchartLayout.Error
import FlowchartLayout.Flowchart.Basic
import FlowchartLayout.Flowchart.Completion
import FlowchartLayout.Flowchart.Document
import FlowchartLayout.Flowchart.Subtree
import FlowchartLayout.Json.Printer
import FlowchartLayout.Json.Problem
import FlowchartLayout.Json.Token
import FlowchartLayout.Json.Value
import FlowchartLayout.Layout.Bounds
import FlowchartLayout.Layout.Compute
import FlowchartLayout.Layout.Fit
import FlowchartLayout.Layout.Layers
import FlowchartLayout.Layout.Placement
import FlowchartLayout.Layout.Routing
import FlowchartLayout.Layout.Size
import FlowchartLayout.Layout.Source
import FlowchartLayout.Main
import FlowchartLayout.Named
import FlowchartLayout.Number.Binary32
import FlowchartLayout.Number.Numeral
import FlowchartLayout.Number.Reading
import FlowchartLayout.Number.Shortest
import FlowchartLayout.Shape
import FlowchartLayout.Source.Draft
import FlowchartLayout.Source.Header
import FlowchartLayout.Source.Label
import FlowchartLayout.Source.Lines
import FlowchartLayout.Source.Link
import FlowchartLayout.Source.NodeShape
import FlowchartLayout.Source.Statement
import FlowchartLayout.Text.Blank
import FlowchartLayout.Text.CharSet
import FlowchartLayout.Text.EncodedMarkup
import FlowchartLayout.Text.GraphemeExtend
import FlowchartLayout.Text.Lines
import FlowchartLayout.Text.Lowercase
import FlowchartLayout.Text.Markup
import FlowchartLayout.Text.Quoted
import FlowchartLayout.Text.Start
import FlowchartLayout.Text.Width
import FlowchartLayout.Text.WidthTable
import FlowchartLayout.Text.Word
import FlowchartLayout.Proofs.Document.Variations
import FlowchartLayout.Proofs.Flowchart.Completion
import FlowchartLayout.Proofs.Flowchart.Translation
import FlowchartLayout.Proofs.Layers.Connections
import FlowchartLayout.Proofs.Layers.LongestPath
import FlowchartLayout.Proofs.Layers.Occupied
import FlowchartLayout.Proofs.Layers.Overtaking
import FlowchartLayout.Proofs.Layout.Boxes
import FlowchartLayout.Proofs.Layout.Cache
import FlowchartLayout.Proofs.Layout.Endpoints
import FlowchartLayout.Proofs.Layout.Extents
import FlowchartLayout.Proofs.Layout.Inheritance
import FlowchartLayout.Proofs.Layout.Overlap
import FlowchartLayout.Proofs.Layout.Routing
import FlowchartLayout.Proofs.Layout.Slots
import FlowchartLayout.Proofs.Layout.Viewport
import FlowchartLayout.Proofs.Source.Anonymous
import FlowchartLayout.Proofs.Source.Chains
import FlowchartLayout.Proofs.Source.FirstWord
import FlowchartLayout.Proofs.Source.Header
import FlowchartLayout.Proofs.Source.Ids
import FlowchartLayout.Proofs.Source.Linewise
import FlowchartLayout.Proofs.Source.LongestMatch
import FlowchartLayout.Proofs.Source.Permanence
import FlowchartLayout.Proofs.Source.Progress
import FlowchartLayout.Proofs.Source.Shapes
import FlowchartLayout.Proofs.Source.Widths
import FlowchartLayout.Proofs.Text.EncodedMarkup
