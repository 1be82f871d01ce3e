import FlowchartLayout.Named

/-!
# Shapes of nodes
-/

namespace FlowchartLayout

/-- The outline of a node. -/
inductive Shape where
  | rectangle
  | rounded
  | stadium
  | diamond
  | circle
  | hexagon
  | parallelogram
  | cylinder
  | subroutine
  | asymmetric
  | trapezoid
  deriving DecidableEq, Inhabited

namespace Shape

def name : Shape → String
  | rectangle => "rectangle"
  | rounded => "rounded"
  | stadium => "stadium"
  | diamond => "diamond"
  | circle => "circle"
  | hexagon => "hexagon"
  | parallelogram => "parallelogram"
  | cylinder => "cylinder"
  | subroutine => "subroutine"
  | asymmetric => "asymmetric"
  | trapezoid => "trapezoid"

instance : Named Shape where
  values := [rectangle, rounded, stadium, diamond, circle, hexagon, parallelogram, cylinder,
    subroutine, asymmetric, trapezoid]
  name := name

/-- The box of the shape is as wide as it is high. -/
def isSquare : Shape → Bool
  | circle | diamond => true
  | _ => false

end Shape

end FlowchartLayout
