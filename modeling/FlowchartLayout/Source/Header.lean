import FlowchartLayout.Direction
import FlowchartLayout.Source.Lines
import FlowchartLayout.Text.Word

/-!
# The header line

A flowchart source begins, after blanks and comments, with the word `flowchart` or `graph`, which a
direction may follow. Anything else on the line is ignored, but a carriage return within it is not
admitted.

## Main definitions

- `isHeaderWord` — the two words that start a header
- `startsFlowchart` — a source text has a header word where one is expected
- `readHeader?` — the direction that the header gives, and what follows the header line
-/

namespace FlowchartLayout.Source

/-- The word `flowchart` or `graph`, in any case. -/
def isHeaderWord (w : List Char) : Bool :=
  let small := String.ofList (w.map Char.toLower)
  small == "flowchart" || small == "graph"

/-- The source text has a header word after its blank and comment lines. -/
def startsFlowchart (s : List Char) : Bool :=
  isHeaderWord (word (skipTrivia s))

/-- What follows the rest of a line. A line ends at a line feed, before which a carriage return may
stand; any other carriage return is refused. -/
def restOfHeader? (s : List Char) : Option (List Char) :=
  match s.dropWhile fun c => c != '\r' && c != '\n' with
  | '\r' :: '\n' :: s => some ('\n' :: s)
  | '\r' :: _ => none
  | s => some s

/-- Reads the header. Its direction is from top to bottom unless it gives another one. -/
def readHeader? (s : List Char) : Option (Direction × List Char) :=
  let s := skipTrivia s
  if isHeaderWord (word s) then
    let s := skipInlineBlanks (afterWord s)
    match Direction.ofKeyword? (word s) with
    | some direction => (restOfHeader? (afterWord s)).map (direction, ·)
    | none => (restOfHeader? s).map (.topToBottom, ·)
  else none

end FlowchartLayout.Source
