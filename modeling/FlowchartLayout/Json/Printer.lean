import FlowchartLayout.Json.Value

/-!
# Writing JSON values

## Main definitions

- `Json.quote` — a string literal
- `Json.Style` — what stands between tokens: nothing, or line ends and an indentation
- `Json.write` — the text of a value

## Design notes

Values that were built, and not read, are whole. A place where a value is broken is written as
`null`, and an array or object without its bracket gets one.
-/

namespace FlowchartLayout.Json

/-! ## Strings -/

/-- A character within a string literal. Quotes, backslashes and control characters are escaped. -/
def escape (c : Char) : List Char :=
  if c == '"' then ['\\', '"']
  else if c == '\\' then ['\\', '\\']
  else if c == '\x08' then ['\\', 'b']
  else if c == '\t' then ['\\', 't']
  else if c == '\n' then ['\\', 'n']
  else if c == '\x0c' then ['\\', 'f']
  else if c == '\r' then ['\\', 'r']
  else if c < ' ' then
    ['\\', 'u', '0', '0', Nat.digitChar (c.toNat / 16), Nat.digitChar (c.toNat % 16)]
  else [c]

/-- The string literal of some characters. -/
def quote (s : List Char) : List Char :=
  '"' :: s.flatMap escape ++ ['"']

/-! ## Values -/

/-- How the tokens of a value are set apart. -/
structure Style where
  /-- What stands before an item, and before a closing bracket, at a depth of nesting. -/
  newLine : Nat → List Char
  afterColon : List Char

/-- Nothing between tokens. -/
def Style.compact : Style :=
  ⟨fun _ => [], []⟩

/-- Each item on a line of its own, indented by two spaces per level. -/
def Style.indented : Style :=
  ⟨fun depth => '\n' :: List.replicate (2 * depth) ' ', [' ']⟩

mutual

/-- The text of a value at a depth of nesting. -/
def writeAt (style : Style) (depth : Nat) : Json → List Char
  | null | broken _ => "null".toList
  | bool b => (if b then "true" else "false").toList
  | number n => n.text
  | string l => quote (l.toOption.getD "").toList
  | array [] _ => ['[', ']']
  | array (item :: items) _ =>
    '[' :: style.newLine (depth + 1) ++ writeAt style (depth + 1) item ++
      writeItems style (depth + 1) items ++ style.newLine depth ++ [']']
  | object [] _ => ['\x7b', '\x7d']
  | object (member :: members) _ =>
    '\x7b' :: style.newLine (depth + 1) ++ writeMember style (depth + 1) member ++
      writeMembers style (depth + 1) members ++ style.newLine depth ++ ['\x7d']

/-- Further items, each after a comma. -/
def writeItems (style : Style) (depth : Nat) : List Json → List Char
  | [] => []
  | item :: items =>
    ',' :: style.newLine depth ++ writeAt style depth item ++ writeItems style depth items

/-- A key and its value. -/
def writeMember (style : Style) (depth : Nat) : Literal × Json → List Char
  | (key, value) =>
    quote (key.toOption.getD "").toList ++ ':' :: style.afterColon ++ writeAt style depth value

/-- Further members, each after a comma. -/
def writeMembers (style : Style) (depth : Nat) : List (Literal × Json) → List Char
  | [] => []
  | member :: members =>
    ',' :: style.newLine depth ++ writeMember style depth member ++
      writeMembers style depth members

end

/-- The text of a value. -/
def write (style : Style) (j : Json) : String :=
  String.ofList (writeAt style 0 j)

end FlowchartLayout.Json
