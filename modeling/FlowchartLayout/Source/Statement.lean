import FlowchartLayout.Flowchart.Basic
import FlowchartLayout.Number.Reading
import FlowchartLayout.Source.Link
import FlowchartLayout.Text.Lines
import FlowchartLayout.Text.Lowercase

/-!
# Statements

What a line of a source text says. The first word of a line decides how the rest of it is read; a
line that cannot be read says nothing.

## Main definitions

- `Mention` — a node id, with the shape definition that may follow it
- `Hop` — a link operator with the nodes that it leads to
- `Statement` — what a line says
- `Statement.ofLine` — the reading of a line
-/

namespace FlowchartLayout.Source

structure Mention where
  id : String
  definition : Option NodeShape := none
  deriving DecidableEq

structure Hop where
  link : Link
  targets : List Mention
  deriving DecidableEq

inductive Statement where
  /-- A subgraph begins, or goes on. -/
  | subgraph (id title : String)
  /-- A subgraph without id and title begins. -/
  | anonymousSubgraph
  /-- The innermost open subgraph ends. -/
  | endSubgraph
  /-- The direction of the innermost open subgraph. -/
  | direction (d : Direction)
  /-- A node is restyled. -/
  | style (id : String) (style : NodeStyle)
  /-- A node, and the links that lead on from it. -/
  | chain (first : Mention) (hops : List Hop)
  /-- Nothing. -/
  | blank

/-! ## Nodes and links -/

/-- The shape definition at the start of a text, if there is one, and what follows it and the inline
blanks after it. -/
def readDefinition (s : List Char) : Option NodeShape × List Char :=
  match readShape? s with
  | some (definition, rest) => (some definition, skipInlineBlanks rest)
  | none => (none, s)

theorem length_readDefinition_le (s : List Char) : (readDefinition s).2.length ≤ s.length := by
  unfold readDefinition
  split
  · next h =>
    have := length_readShape?_le h
    exact Nat.le_trans (length_skipInlineBlanks_le _) (by omega)
  · exact Nat.le_refl _

/-- The shape definition behind the word at the start of a text, and what follows both. -/
def readAfterWord (s : List Char) : Option NodeShape × List Char :=
  readDefinition (skipInlineBlanks (afterWord s))

theorem length_readAfterWord_lt {s : List Char} (h : word s ≠ []) :
    (readAfterWord s).2.length < s.length := by
  have h₁ := length_readDefinition_le (skipInlineBlanks (afterWord s))
  have h₂ := length_skipInlineBlanks_le (afterWord s)
  have h₃ := length_word_add_afterWord s
  have h₄ := List.length_pos_iff.2 h
  simp only [readAfterWord]
  omega

/-- Nodes with ampersands between them, and what follows them. After the last ampersand the node may
be missing. -/
def readTargets (s : List Char) : List Mention × List Char :=
  let first := skipInlineBlanks s
  if _h : word first = [] then ([], first)
  else
    let target : Mention := ⟨String.ofList (word first), (readAfterWord first).1⟩
    match _hr : (readAfterWord first).2 with
    | '&' :: rest =>
      let others := readTargets rest
      (target :: others.1, others.2)
    | rest => ([target], rest)
termination_by s.length
decreasing_by
  have h₁ := length_readAfterWord_lt _h
  have h₂ := length_skipInlineBlanks_le s
  rw [_hr, List.length_cons] at h₁
  exact Nat.lt_of_lt_of_le (Nat.lt_of_succ_lt h₁) h₂

theorem length_readTargets_le (s : List Char) : (readTargets s).2.length ≤ s.length := by
  fun_induction readTargets s with
  | case1 s first h => exact length_skipInlineBlanks_le s
  | case2 s first h target rest hr others ih =>
    have h₁ := length_readAfterWord_lt h
    rw [hr, List.length_cons] at h₁
    exact Nat.le_trans ih
      (Nat.le_trans (Nat.le_of_lt (Nat.lt_of_succ_lt h₁)) (length_skipInlineBlanks_le s))
  | case3 s first h target _ =>
    exact Nat.le_trans (Nat.le_of_lt (length_readAfterWord_lt h)) (length_skipInlineBlanks_le s)

/-- The link operator at the start of a text, with the label between bars that may follow it. The
latter replaces a label inside the operator, even if it is empty. -/
def readLinkWithLabel? (s : List Char) : Option (Link × List Char) :=
  (readLink? s).map fun (link, rest) =>
    let rest := skipInlineBlanks rest
    match readPipeLabel? rest with
    | some (label, rest) => ({ link with label }, rest)
    | none => (link, rest)

theorem length_readLinkWithLabel?_le {s rest : List Char} {link : Link}
    (h : readLinkWithLabel? s = some (link, rest)) : rest.length + 2 ≤ s.length := by
  simp only [readLinkWithLabel?, Option.map_eq_some_iff, Prod.exists] at h
  obtain ⟨l, r, hl, h⟩ := h
  have h₁ := length_readLink?_le hl
  have h₂ := length_skipInlineBlanks_le r
  split at h
  · next hp =>
    have h₃ := length_readPipeLabel?_le hp
    simp only [Prod.mk.injEq] at h
    rw [← h.2]
    omega
  · simp only [Prod.mk.injEq] at h
    rw [← h.2]
    omega

/-- The links that lead on from a node, each to the nodes from which the next one starts. They end
with the first one that has no target. -/
def readHops (s : List Char) : List Hop :=
  match _hl : readLinkWithLabel? (skipInlineBlanks s) with
  | none => []
  | some (link, rest) =>
    let targets := readTargets rest
    if targets.1.isEmpty then [] else ⟨link, targets.1⟩ :: readHops targets.2
termination_by s.length
decreasing_by
  have h₁ := length_skipInlineBlanks_le s
  have h₂ := length_readLinkWithLabel?_le _hl
  exact Nat.lt_of_le_of_lt (length_readTargets_le rest) (by omega)

/-- The statement of a line that begins with a node id. -/
def readChain (id : List Char) (s : List Char) : Statement :=
  let s := skipInlineBlanks s
  let id := String.ofList id
  if startsShape s then
    match readShape? s with
    | some (definition, rest) => .chain { id, definition } (readHops rest)
    | none => .blank
  else if startsLink s then .chain { id } (readHops s)
  else
    match s with
    | [] | ';' :: _ | '&' :: _ => .chain { id } []
    | _ => .blank

/-! ## Subgraphs -/

/-- The id made of a title: spaces become underscores, and letters small. -/
def slug (title : String) : String :=
  String.ofList (lowercase (title.toList.map fun c => if c = ' ' then '_' else c))

/-- The title in brackets or quotes at the start of a text, if there is one, and what follows it. -/
def readTitle (s : List Char) : Option String × List Char :=
  match s with
  | '[' :: inside =>
    let (title, rest) := readLabel (some '[') ']' inside
    (some title, dropStart [']'] rest)
  | s =>
    match readQuoted? s with
    | some (title, rest) => (some title, rest)
    | none => (none, s)

/-- The heading of a subgraph: an id, a title in brackets or quotes, or both. Other words after an
id are its title; an id is its own title, and a title gives an id. -/
def readHeading (s : List Char) : Statement :=
  let s := skipInlineBlanks s
  let id := word s
  let (title, rest) := readTitle (skipInlineBlanks (afterWord s))
  match id, title with
  | [], none => .anonymousSubgraph
  | [], some title => .subgraph (slug title) title
  | id, some title => .subgraph (String.ofList id) title
  | id, none =>
    let trailing := trim rest
    .subgraph (String.ofList id) (String.ofList (if trailing.isEmpty then id else trailing))

/-! ## Styles -/

/-- A colour in a style line; one that cannot be read is gray. -/
def styleColor (value : List Char) : Color :=
  (Color.ofHex? value).getD .gray

/-- A width in a style line: the digits and points that it begins with. A width that cannot be read
is 2. -/
def styleWidth (value : List Char) : Float32 :=
  (readDigits? (value.takeWhile fun c => c.isDigit || c == '.')).getD 2

/-- A style with one more property, which has a colon between its key and its value. Unknown keys
change nothing. -/
def addProperty (style : NodeStyle) (property : List Char) : NodeStyle :=
  match property.dropWhile (· != ':') with
  | [] => style
  | _ :: value =>
    let value := trim value
    let key := (trim (property.takeWhile (· != ':'))).map Char.toLower
    if key = "fill".toList then { style with fill := some (styleColor value) }
    else if key = "stroke".toList then { style with stroke := some (styleColor value) }
    else if key = "stroke-width".toList then { style with strokeWidth := some (styleWidth value) }
    else style

/-- The style that a list of properties with commas between them gives. The last one counts. -/
def readStyle (s : List Char) : NodeStyle :=
  (splitOn ',' s).foldl addProperty {}

/-! ## Lines -/

/-- What a line says whose first word is `first`. -/
def Statement.ofWord (first rest : List Char) : Statement :=
  let blanksSkipped := skipInlineBlanks rest
  match String.ofList (first.map Char.toLower) with
  | "subgraph" => readHeading rest
  | "end" => .endSubgraph
  | "style" =>
    let id := word blanksSkipped
    if id.isEmpty then .blank
    else .style (String.ofList id) (readStyle (afterWord blanksSkipped))
  | "classdef" | "class" | "linkstyle" | "click" => .blank
  | "direction" =>
    match Direction.ofKeyword? (word blanksSkipped) with
    | some d => .direction d
    | none => readChain first rest
  | _ => readChain first rest

/-- What a line says. -/
def Statement.ofLine (line : List Char) : Statement :=
  let first := word line
  if first.isEmpty then .blank else .ofWord first (afterWord line)

end FlowchartLayout.Source
