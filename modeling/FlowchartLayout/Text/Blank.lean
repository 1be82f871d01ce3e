import FlowchartLayout.Text.CharSet

/-!
# Blanks

White space in the sense of Unicode's `White_Space`, which is what is trimmed from lines and
labels, and the two inline blanks that may separate the parts of one line.

## Main definitions

- `isBlank`, `isInlineBlank` — the two classes
- `trimStart`, `trimEnd`, `trim` — removal of blanks at the ends of a text
- `skipInlineBlanks` — what follows the spaces and tabs at the start of a text
-/

namespace FlowchartLayout

/-- The characters with the property `White_Space`. -/
def blanks : CharSet where
  ranges :=
    [(0x9, 0xD), (0x20, 0x20), (0x85, 0x85), (0xA0, 0xA0), (0x1680, 0x1680), (0x2000, 0x200A),
     (0x2028, 0x2029), (0x202F, 0x202F), (0x205F, 0x205F), (0x3000, 0x3000)]

def isBlank (c : Char) : Bool :=
  blanks.contains c

/-- Space and tab. -/
def isInlineBlank (c : Char) : Bool :=
  c == ' ' || c == '\t'

def trimStart (s : List Char) : List Char :=
  s.dropWhile isBlank

def trimEnd (s : List Char) : List Char :=
  (s.reverse.dropWhile isBlank).reverse

def trim (s : List Char) : List Char :=
  trimEnd (trimStart s)

def skipInlineBlanks (s : List Char) : List Char :=
  s.dropWhile isInlineBlank

theorem length_dropWhile_le {α : Type} (p : α → Bool) (s : List α) :
    (s.dropWhile p).length ≤ s.length :=
  (List.dropWhile_sublist p).length_le

theorem length_trimStart_le (s : List Char) : (trimStart s).length ≤ s.length :=
  length_dropWhile_le isBlank s

theorem length_skipInlineBlanks_le (s : List Char) : (skipInlineBlanks s).length ≤ s.length :=
  length_dropWhile_le isInlineBlank s

end FlowchartLayout
