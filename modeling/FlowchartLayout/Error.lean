import FlowchartLayout.Json.Problem
import FlowchartLayout.Source.Lines
import FlowchartLayout.Text.Lines

/-!
# Errors

## Main definitions

- `Error`, `Error.message` — what can be wrong with an input, and its wording
- `Source.firstWord?` — the word that shows why a text is no source of a flowchart
-/

namespace FlowchartLayout

/-- What is wrong with an input. -/
inductive Error where
  /-- A source text that does not start like a flowchart, with its first word, if it has one. -/
  | notAFlowchart (firstWord : Option String)
  | badDocument (problem : Problem)
  deriving DecidableEq

/-- The first word outside blank lines and comment lines. -/
def Source.firstWord? (s : List Char) : Option (List Char) :=
  let line? := ((splitOn '\n' s).map trim).find? fun line => !line.isEmpty && !isComment line
  line?.map fun line => line.takeWhile fun c => !isBlank c

namespace Error

/-- The error of a text that is no source of a flowchart. -/
def ofSource (source : String) : Error :=
  .notAFlowchart ((Source.firstWord? source.toList).map String.ofList)

def message : Error → String
  | notAFlowchart firstWord => "unknown diagram type: " ++ firstWord.getD "(empty)"
  | badDocument problem => "invalid flowchart document: " ++ problem.message

end Error

end FlowchartLayout
