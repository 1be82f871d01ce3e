import FlowchartLayout.Text.Blank

/-!
# Lines of a source text

A source text is read line by line. Blank lines, indentation and comment lines, which start with
two percent signs, mean nothing.

## Main definitions

- `firstLine`, `afterLine` — the first line of a text, and what follows it
- `skipTrivia` — what follows the blanks and comment lines at the start of a text
- `contentLines` — the lines that mean something
-/

namespace FlowchartLayout.Source

/-- A line without the carriage return that may end it. -/
def dropCarriageReturn (line : List Char) : List Char :=
  if line.getLast? = some '\r' then line.dropLast else line

/-- The text up to the first line feed, without a carriage return before it. -/
def firstLine (s : List Char) : List Char :=
  dropCarriageReturn (s.takeWhile (· != '\n'))

/-- The text after the first line feed. -/
def afterLine (s : List Char) : List Char :=
  (s.dropWhile (· != '\n')).tail

theorem length_afterLine_lt {s : List Char} (h : s ≠ []) : (afterLine s).length < s.length := by
  have hpos := List.length_pos_iff.2 h
  have hle := length_dropWhile_le (· != '\n') s
  simp only [afterLine, List.length_tail]
  omega

def isComment (s : List Char) : Bool :=
  ['%', '%'].isPrefixOf s

/-- The text from the first character that is neither blank nor in a comment line. -/
def skipTrivia (s : List Char) : List Char :=
  if isComment (trimStart s) then skipTrivia (afterLine (trimStart s)) else trimStart s
termination_by s.length
decreasing_by
  have hne : trimStart s ≠ [] := by
    intro h
    simp_all [isComment]
  exact Nat.lt_of_lt_of_le (length_afterLine_lt hne) (length_trimStart_le s)

theorem length_skipTrivia_le (s : List Char) : (skipTrivia s).length ≤ s.length := by
  fun_induction skipTrivia s with
  | case1 s h ih =>
    have hne : trimStart s ≠ [] := by
      intro hnil
      simp [isComment, hnil] at h
    exact Nat.le_trans ih
      (Nat.le_trans (Nat.le_of_lt (length_afterLine_lt hne)) (length_trimStart_le s))
  | case2 s h => exact length_trimStart_le s

/-- The lines with content, in order, each from its first character that is not blank. -/
def contentLines (s : List Char) : List (List Char) :=
  if skipTrivia s = [] then []
  else firstLine (skipTrivia s) :: contentLines (afterLine (skipTrivia s))
termination_by s.length
decreasing_by
  rename_i h
  exact Nat.lt_of_lt_of_le (length_afterLine_lt h) (length_skipTrivia_le s)

end FlowchartLayout.Source
