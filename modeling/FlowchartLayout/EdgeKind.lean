import FlowchartLayout.Named

/-!
# Kinds of edges

## Main definitions

- `EdgeKind` — how an edge is drawn
- `Marker` — what is drawn at an end of an edge
- `EdgeKind.startMarker`, `EdgeKind.endMarker` — the markers that a kind has by itself
-/

namespace FlowchartLayout

inductive EdgeKind where
  | arrow
  | plain
  | bidirectional
  | dotted
  | thick
  deriving DecidableEq, Inhabited

inductive Marker where
  | bare
  | arrow
  | circle
  | cross
  deriving DecidableEq, Inhabited

def EdgeKind.name : EdgeKind → String
  | arrow => "arrow"
  | plain => "open"
  | bidirectional => "bidirectional"
  | dotted => "dotted"
  | thick => "thick"

instance : Named EdgeKind where
  values := [.arrow, .plain, .bidirectional, .dotted, .thick]
  name := EdgeKind.name

def Marker.name : Marker → String
  | bare => "none"
  | arrow => "arrow"
  | circle => "circle"
  | cross => "cross"

instance : Named Marker where
  values := [.bare, .arrow, .circle, .cross]
  name := Marker.name

/-- Only a bidirectional edge has a marker where it starts. -/
def EdgeKind.startMarker : EdgeKind → Marker
  | bidirectional => .arrow
  | _ => .bare

/-- All edges but the plain ones end in an arrow. -/
def EdgeKind.endMarker : EdgeKind → Marker
  | plain => .bare
  | _ => .arrow

end FlowchartLayout
