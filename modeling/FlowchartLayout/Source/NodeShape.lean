import FlowchartLayout.Shape
import FlowchartLayout.Source.Label
import FlowchartLayout.Text.Start

/-!
# Shape definitions

A node is given a shape and a label by brackets behind its id: the kind of brackets is the shape,
and the label stands between them. The closing bracket may be missing.

## Main definitions

- `NodeShape` — a shape with a label
- `Bracket` — the brackets of a shape
- `readShape?` — the shape definition at the start of a text
-/

namespace FlowchartLayout.Source

structure NodeShape where
  shape : Shape
  label : String
  deriving DecidableEq

/-- How a shape is written: what opens and closes its label, and the character that opens an inner
bracket, if inner brackets are counted. The label ends at the `stop` with which the closer
begins. -/
structure Bracket where
  shape : Shape
  opener : List Char
  nest : Option Char
  stop : Char
  closer : List Char

/-- The shape definition in the given brackets. -/
def Bracket.read? (b : Bracket) (s : List Char) : Option (NodeShape × List Char) :=
  (afterStart? b.opener s).map fun s =>
    let (label, rest) := readLabel b.nest b.stop s
    (⟨b.shape, label⟩, dropStart b.closer rest)

/-- A parallelogram or a trapezoid: the label stands between a slash and a slash or a backslash,
inside square brackets. -/
def readSlanted? (s : List Char) : Option (NodeShape × List Char) :=
  match afterStart? ['[', '/'] s with
  | none => none
  | some s =>
    let label := cleanLabel (s.takeWhile fun c => c != '/' && c != '\\')
    match s.dropWhile fun c => c != '/' && c != '\\' with
    | '/' :: rest => some (⟨.parallelogram, label⟩, dropStart [']'] rest)
    | '\\' :: rest => some (⟨.trapezoid, label⟩, dropStart [']'] rest)
    | _ => none

/-- The brackets that are tried before those of slanted shapes. -/
def doubleSquareBrackets : List Bracket :=
  [⟨.subroutine, ['[', '['], some '[', ']', [']', ']']⟩,
   ⟨.cylinder, ['[', '('], some '(', ')', [')', ']']⟩]

/-- The brackets that are tried after those of slanted shapes; longer openers come first. -/
def otherBrackets : List Bracket :=
  [⟨.rectangle, ['['], some '[', ']', [']']⟩,
   ⟨.circle, ['(', '('], some '(', ')', [')', ')']⟩,
   ⟨.stadium, ['(', '['], some '[', ']', [']', ')']⟩,
   ⟨.rounded, ['('], some '(', ')', [')']⟩,
   ⟨.hexagon, ['{', '{'], some '{', '}', ['}', '}']⟩,
   ⟨.diamond, ['{'], some '{', '}', ['}']⟩,
   ⟨.asymmetric, ['>'], none, ']', [']']⟩]

/-- The shape definition at the start of a text, and what follows it. -/
def readShape? (s : List Char) : Option (NodeShape × List Char) :=
  doubleSquareBrackets.findSome? (·.read? s) <|> readSlanted? s <|>
    otherBrackets.findSome? (·.read? s)

/-- A shape definition starts with an opening bracket. -/
def startsShape : List Char → Bool
  | c :: _ => c == '[' || c == '(' || c == '{' || c == '>'
  | [] => false

/-! ## Reading consumes text -/

theorem Bracket.length_read?_le {b : Bracket} {s rest : List Char} {n : NodeShape}
    (h : b.read? s = some (n, rest)) : rest.length + b.opener.length ≤ s.length := by
  simp only [Bracket.read?, Option.map_eq_some_iff, Prod.mk.injEq] at h
  obtain ⟨s', hs', -, rfl⟩ := h
  have h₁ := length_of_afterStart? hs'
  have h₂ := length_readLabel_le b.nest b.stop s'
  have h₃ := length_dropStart_le b.closer (readLabel b.nest b.stop s').2
  omega

theorem length_readSlanted?_le {s rest : List Char} {n : NodeShape}
    (h : readSlanted? s = some (n, rest)) : rest.length + 1 ≤ s.length := by
  unfold readSlanted? at h
  split at h
  · simp at h
  · next s' hs' =>
    have h₁ := length_of_afterStart? hs'
    have h₂ := length_dropWhile_le (fun c => c != '/' && c != '\\') s'
    simp only [List.length_cons, List.length_nil] at h₁
    split at h
    · next r hr =>
      simp only [Option.some.injEq, Prod.mk.injEq] at h
      have h₃ := length_dropStart_le [']'] r
      rw [hr, List.length_cons] at h₂
      rw [← h.2]
      omega
    · next r hr =>
      simp only [Option.some.injEq, Prod.mk.injEq] at h
      have h₃ := length_dropStart_le [']'] r
      rw [hr, List.length_cons] at h₂
      rw [← h.2]
      omega
    · simp at h

theorem length_readShape?_le {s rest : List Char} {n : NodeShape}
    (h : readShape? s = some (n, rest)) : rest.length + 1 ≤ s.length := by
  have key {bs : List Bracket} (hbs : ∀ b ∈ bs, 1 ≤ b.opener.length)
      (h : bs.findSome? (·.read? s) = some (n, rest)) : rest.length + 1 ≤ s.length := by
    obtain ⟨b, hb, hr⟩ := List.exists_of_findSome?_eq_some h
    have h₁ := hbs b hb
    have h₂ := Bracket.length_read?_le hr
    omega
  simp only [readShape?, Option.orElse_eq_orElse, Option.orElse_eq_or, Option.or_eq_some_iff] at h
  rcases h with h | ⟨-, h | ⟨-, h⟩⟩
  · exact key (by decide) h
  · exact length_readSlanted?_le h
  · exact key (by decide) h

end FlowchartLayout.Source
