import FlowchartLayout.Flowchart.Document
import FlowchartLayout.Proofs.Document.Faithful

/-!
# Documents are read back

The document of a flowchart reads as that flowchart, compact or indented, as far as its numbers read
back one by one; a number that is not finite anywhere in it makes the document unreadable.

## Main definitions

- `Flowchart.numbers` — all numbers in a flowchart

## Main statements

- `Flowchart.faithful` — the codec of flowcharts is faithful
- `Flowchart.ofDocument_document` — the document of a flowchart is read back, or refused
-/

namespace FlowchartLayout

open Codec

/-! ## The numbers of the records -/

def Point.numbers (p : Point) : List Float32 :=
  [p.x, p.y]

def Node.numbers (n : Node) : List Float32 :=
  [n.x, n.y, n.width, n.height, n.strokeWidth]

def Edge.numbers (e : Edge) : List Float32 :=
  e.path.flatMap Point.numbers ++ e.labelPosition.toList.flatMap Point.numbers

def Subgraph.numbers (s : Subgraph) : List Float32 :=
  [s.x, s.y, s.width, s.height]

def Spacing.numbers (s : Spacing) : List Float32 :=
  [s.node, s.rank, s.subgraphPadding, s.fontSize]

def Metrics.numbers (m : Metrics) : List Float32 :=
  [m.viewportWidth, m.viewportHeight, m.naturalWidth, m.naturalHeight, m.contentWidth,
    m.contentHeight, m.contentOffsetX, m.contentOffsetY, m.scale]

/-- All numbers in a flowchart. -/
def Flowchart.numbers (fc : Flowchart) : List Float32 :=
  fc.spacing.numbers ++ (fc.nodes.flatMap Node.numbers ++ (fc.edges.flatMap Edge.numbers ++
    (fc.subgraphs.flatMap Subgraph.numbers ++ fc.metrics.numbers)))

/-! ## The codecs of the records -/

theorem Direction.faithful : (named : Codec Direction).Faithful fun _ => [] :=
  faithful_named fun a => by cases a <;> rfl

theorem Shape.faithful : (named : Codec Shape).Faithful fun _ => [] :=
  faithful_named fun a => by cases a <;> rfl

theorem EdgeKind.faithful : (named : Codec EdgeKind).Faithful fun _ => [] :=
  faithful_named fun a => by cases a <;> rfl

theorem Marker.faithful : (named : Codec Marker).Faithful fun _ => [] :=
  faithful_named fun a => by cases a <;> rfl

theorem faithful_text_option : text.option.Faithful fun _ => [] :=
  faithful_text.option_of_no_numbers (by rintro a ⟨⟩)

theorem faithful_direction_option : (named : Codec Direction).option.Faithful fun _ => [] :=
  Direction.faithful.option_of_no_numbers (by rintro a ⟨⟩)

theorem Point.faithful : Point.record.codec.Faithful Point.numbers :=
  Record.faithful (.cons faithful_single (.cons faithful_single .nil (by decide)) (by decide))
    (fun _ => rfl) fun _ => rfl

theorem Node.faithful : Node.record.codec.Faithful Node.numbers :=
  Record.faithful
    (.cons faithful_text (.cons Shape.faithful (.cons faithful_text
      (.cons faithful_single (.cons faithful_single (.cons faithful_single (.cons faithful_single
        (.cons faithful_color (.cons faithful_color (.cons faithful_single
          (.cons faithful_text_option .nil (by decide)) (by decide)) (by decide)) (by decide))
        (by decide)) (by decide)) (by decide)) (by decide)) (by decide)) (by decide)) (by decide))
    (fun _ => rfl) fun _ => rfl

theorem Edge.faithful : Edge.record.codec.Faithful Edge.numbers :=
  Record.faithful
    (.cons faithful_text (.cons faithful_text (.cons faithful_text_option
      (.cons EdgeKind.faithful (.cons Marker.faithful (.cons Marker.faithful
        (.cons Point.faithful.list
          (.cons (Point.faithful.option (Record.encode_ne_null _)) .nil (by decide)) (by decide))
        (by decide)) (by decide)) (by decide)) (by decide)) (by decide)) (by decide))
    (fun _ => rfl) fun e => by
      change e.path.flatMap Point.numbers ++
        (e.labelPosition.toList.flatMap Point.numbers ++ []) = _
      rw [List.append_nil]
      rfl

theorem Subgraph.faithful : Subgraph.record.codec.Faithful Subgraph.numbers :=
  Record.faithful
    (.cons faithful_text (.cons faithful_text (.cons faithful_direction_option
      (.cons faithful_text_option (.cons faithful_single (.cons faithful_single
        (.cons faithful_single (.cons faithful_single (.cons faithful_color
          (.cons faithful_color .nil (by decide)) (by decide)) (by decide)) (by decide))
        (by decide)) (by decide)) (by decide)) (by decide)) (by decide)) (by decide))
    (fun _ => rfl) fun _ => rfl

theorem Spacing.faithful : Spacing.record.codec.Faithful Spacing.numbers :=
  Record.faithful
    (.cons faithful_single (.cons faithful_single (.cons faithful_single
      (.cons faithful_single .nil (by decide)) (by decide)) (by decide)) (by decide))
    (fun _ => rfl) fun _ => rfl

theorem Metrics.faithful : Metrics.record.codec.Faithful Metrics.numbers :=
  Record.faithful
    (.cons faithful_flag (.cons faithful_single (.cons faithful_single (.cons faithful_single
      (.cons faithful_single (.cons faithful_single (.cons faithful_single (.cons faithful_single
        (.cons faithful_single (.cons faithful_single .nil (by decide)) (by decide)) (by decide))
        (by decide)) (by decide)) (by decide)) (by decide)) (by decide)) (by decide)) (by decide))
    (fun _ => rfl) fun _ => rfl

namespace Flowchart

theorem faithful : record.codec.Faithful numbers :=
  Record.faithful
    (.cons Direction.faithful (.cons Spacing.faithful (.cons Node.faithful.list
      (.cons Edge.faithful.list (.cons Subgraph.faithful.list
        (.cons Metrics.faithful .nil (by decide)) (by decide)) (by decide)) (by decide))
      (by decide)) (by decide))
    (fun _ => rfl) fun fc => by
      change fc.spacing.numbers ++ (fc.nodes.flatMap Node.numbers ++
        (fc.edges.flatMap Edge.numbers ++ (fc.subgraphs.flatMap Subgraph.numbers ++
          (fc.metrics.numbers ++ [])))) = _
      rw [List.append_nil]
      rfl

/-! ## Documents -/

/-- A document is the text of a whole value, so reading it comes down to decoding that value. -/
theorem ofDocument_document_eq {style : Json.Style} (hstyle : style.IsBlank) (fc : Flowchart) :
    ofDocument (fc.document style) = record.codec.decode (record.codec.encode fc) := by
  rw [ofDocument, document, Json.ofText_write hstyle (faithful.whole fc)]
  simp only
  cases record.codec.decode (record.codec.encode fc) with
  | error p => rfl
  | ok fc' => rfl

/-- Suppose that the finite numbers in a flowchart read back one by one. If all its numbers are
finite, then its document reads as the flowchart, be it compact or indented; and if one of them is
not, then neither document can be read. -/
theorem ofDocument_document {fc : Flowchart}
    (h : ∀ x ∈ fc.numbers, x.isFinite = true → ReadsBack x) {style : Json.Style}
    (hstyle : style = .compact ∨ style = .indented) :
    ((∀ x ∈ fc.numbers, x.isFinite = true) → ofDocument (fc.document style) = .ok fc) ∧
      ((∃ x ∈ fc.numbers, x.isFinite = false) →
        ∃ p, ofDocument (fc.document style) = .error p) := by
  have hblank : style.IsBlank := by
    rcases hstyle with rfl | rfl
    · exact Json.isBlank_compact
    · exact Json.isBlank_indented
  rw [ofDocument_document_eq hblank]
  constructor
  · intro hfinite
    exact faithful.decode_encode fc fun x hx => h x hx (hfinite x hx)
  · exact faithful.exists_problem fc

/-- A flowchart with numbers of all sizes, a negative zero among them, and with quotes, backslashes,
control characters and characters beyond sixteen bits in its texts. -/
def escapedPair : Flowchart :=
  { direction := .rightToLeft
    nodes := [
      { id := "A\"\\", shape := .hexagon, label := "a\nb\t\x00\x1f\x7f", x := -0.0, y := 0.1,
        width := 1e30, height := 1e-30, strokeWidth := 16777217, subgraph := some "" },
      Node.implicit "日本😀"]
    edges := [
      { source := "A\"\\", target := "日本😀", label := some "/", kind := .dotted,
        path := [⟨-1.5, 3.25⟩, ⟨0.3333333, 7⟩], labelPosition := some ⟨100000, 0.000001⟩ },
      { source := "B", target := "C", kind := .plain, endMarker := .cross }]
    subgraphs := [{ id := "", title := "\r", direction := some .topToBottom, parent := some "S" }]
    metrics := { computed := true, scale := 0.6 } }

/-- The same flowchart with a coordinate that is not a number, far inside an edge. -/
def brokenPair : Flowchart :=
  { escapedPair with
    edges := [{ source := "A", target := "B", kind := .arrow, path := [⟨1, 2⟩, ⟨3, 0 / 0⟩] }] }

/-- The first flowchart is recovered from its indented document, the second one is refused. -/
theorem ofDocument_document_escapedPair :
    ofDocument (escapedPair.document .indented) = .ok escapedPair ∧
      ∃ p, ofDocument (brokenPair.document .compact) = .error p :=
  ⟨(ofDocument_document (by decide +kernel) (.inr rfl)).1 (by decide +kernel),
    (ofDocument_document (by decide +kernel) (.inl rfl)).2 (by decide +kernel)⟩

end Flowchart

end FlowchartLayout
