import FlowchartLayout.Error
import FlowchartLayout.Layout.Compute
import FlowchartLayout.Source.Draft

/-!
# Layout of source texts
-/

namespace FlowchartLayout

/-- The flowchart of a source text, laid out for a viewport. -/
def layoutSource (source : String) (width height : Float32) (spacing : Spacing := {}) :
    Except Error Flowchart :=
  match Flowchart.ofSource? source with
  | some fc => .ok ((fc.setSpacing spacing).layout width height)
  | none => .error (.ofSource source)

end FlowchartLayout
