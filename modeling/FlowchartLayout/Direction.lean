import FlowchartLayout.Named

/-!
# Directions

The direction in which the layers of a flowchart follow each other.

## Main definitions

- `Direction` — the four directions
- `Direction.ofKeyword?` — the direction that a source text means by a keyword
- `Direction.isHorizontal`, `Direction.isReversed` — the axis and the sense of a direction
-/

namespace FlowchartLayout

inductive Direction where
  | topToBottom
  | leftToRight
  | bottomToTop
  | rightToLeft
  deriving DecidableEq, Inhabited

namespace Direction

def name : Direction → String
  | topToBottom => "TB"
  | leftToRight => "LR"
  | bottomToTop => "BT"
  | rightToLeft => "RL"

instance : Named Direction where
  values := [topToBottom, leftToRight, bottomToTop, rightToLeft]
  name := name

/-- A keyword of a source text, in any case. `TD` means the same as `TB`. -/
def ofKeyword? (keyword : List Char) : Option Direction :=
  match keyword.map Char.toUpper with
  | ['T', 'B'] | ['T', 'D'] => some topToBottom
  | ['L', 'R'] => some leftToRight
  | ['B', 'T'] => some bottomToTop
  | ['R', 'L'] => some rightToLeft
  | _ => none

/-- Layers follow each other along the x axis. -/
def isHorizontal : Direction → Bool
  | leftToRight | rightToLeft => true
  | topToBottom | bottomToTop => false

/-- The first layer has the largest coordinate. -/
def isReversed : Direction → Bool
  | bottomToTop | rightToLeft => true
  | topToBottom | leftToRight => false

end Direction

end FlowchartLayout
