import FlowchartLayout.Text.Width

/-!
# Texts of several lines

## Main definitions

- `splitOn` — the pieces of a text between separators
- `lineCount`, `multilineWidth` — the rows and columns that a text fills
-/

namespace FlowchartLayout

/-- The pieces of a text between the occurrences of `sep`; there is always at least one piece. -/
def splitOn (sep : Char) : List Char → List (List Char)
  | [] => [[]]
  | c :: s =>
    if c = sep then [] :: splitOn sep s
    else
      match splitOn sep s with
      | piece :: pieces => (c :: piece) :: pieces
      | [] => [[c]]

theorem splitOn_ne_nil (sep : Char) (s : List Char) : splitOn sep s ≠ [] := by
  cases s with
  | nil => simp [splitOn]
  | cons c s =>
    unfold splitOn
    split
    · simp
    · split <;> simp

/-- The number of lines of a text; the empty text is one line. -/
def lineCount (s : List Char) : Nat :=
  (splitOn '\n' s).length

/-- The columns of the widest line. -/
def multilineWidth (s : List Char) : Nat :=
  ((splitOn '\n' s).map displayWidth).foldl max 0

end FlowchartLayout
