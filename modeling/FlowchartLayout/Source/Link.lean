import FlowchartLayout.EdgeKind
import FlowchartLayout.Source.NodeShape
import FlowchartLayout.Text.Word

/-!
# Links

A link operator between nodes says how an edge is drawn. Operators may be of any length; of two
readings the one listed first applies.

## Main definitions

- `Link` — what an operator says, with its label
- `Operator` — an operator as a row of pieces, some of which may be repeated
- `readLink?` — the link operator at the start of a text
- `readPipeLabel?` — a label between bars, which may follow an operator
- `startsLink` — the characters with which operators start
-/

namespace FlowchartLayout.Source

structure Link where
  kind : EdgeKind
  startMarker : Marker := kind.startMarker
  endMarker : Marker := kind.endMarker
  label : Option String := none
  deriving DecidableEq

/-! ## Operators -/

/-- A piece of an operator: fixed characters, or a run of at least `least` times one character. -/
inductive Piece where
  | fixed (cs : List Char)
  | run (least : Nat) (c : Char)

namespace Piece

/-- What follows the piece at the start of a text. All of a run belongs to the piece. -/
def after? (s : List Char) : Piece → Option (List Char)
  | fixed cs => afterStart? cs s
  | run least c =>
    if least ≤ (s.takeWhile (· == c)).length then some (s.dropWhile (· == c)) else none

/-- The number of characters that the piece has at least. -/
def length : Piece → Nat
  | fixed cs => cs.length
  | run least _ => least

/-- The number of characters that a row of pieces has at least. -/
def rowLength : List Piece → Nat
  | [] => 0
  | p :: ps => p.length + rowLength ps

end Piece

/-- An operator, and the link that it stands for. -/
structure Operator where
  pieces : List Piece
  link : Link

/-- The operator at the start of a text, and what follows it. -/
def Operator.read? (o : Operator) (s : List Char) : Option (Link × List Char) :=
  (o.pieces.foldlM Piece.after? s).map (o.link, ·)

/-- The operator `<-->`. -/
def bidirectionalOperator : Operator :=
  ⟨[.fixed ['<'], .run 2 '-', .fixed ['>']], { kind := .bidirectional }⟩

/-- The operator `-.->`. -/
def dottedOperator : Operator :=
  ⟨[.fixed ['-'], .run 1 '.', .fixed ['-', '>']], { kind := .dotted }⟩

/-- The operator `-.-`. -/
def dottedLineOperator : Operator :=
  ⟨[.fixed ['-'], .run 1 '.', .fixed ['-']], { kind := .dotted, endMarker := .bare }⟩

/-- The operator `==>`. -/
def thickOperator : Operator :=
  ⟨[.run 2 '=', .fixed ['>']], { kind := .thick }⟩

/-- The operator `===`. -/
def thickLineOperator : Operator :=
  ⟨[.run 3 '='], { kind := .thick, endMarker := .bare }⟩

/-- The operator `-->`. -/
def arrowOperator : Operator :=
  ⟨[.run 2 '-', .fixed ['>']], { kind := .arrow }⟩

/-- The operator `--o`. -/
def circledOperator : Operator :=
  ⟨[.run 2 '-', .fixed ['o']], { kind := .arrow, endMarker := .circle }⟩

/-- The operator `--x`. -/
def crossedOperator : Operator :=
  ⟨[.run 2 '-', .fixed ['x']], { kind := .arrow, endMarker := .cross }⟩

/-- The operator `---`. -/
def plainOperator : Operator :=
  ⟨[.run 3 '-'], { kind := .plain }⟩

/-- The operators that are tried first. -/
def commonOperators : List Operator :=
  [bidirectionalOperator, dottedOperator, dottedLineOperator, thickOperator, thickLineOperator,
    arrowOperator]

/-- The operators with a letter for a tip. -/
def tippedOperators : List Operator :=
  [circledOperator, crossedOperator]

/-- An operator with a tip, unless its letter begins a longer word. -/
def readTipped? (s : List Char) : Option (Link × List Char) :=
  (tippedOperators.findSome? (·.read? s)).filter fun r => (word r.2).isEmpty

/-- A text up to the first two dashes in it, and the rest from them on. -/
def untilDashes? : List Char → Option (List Char × List Char)
  | [] => none
  | c :: s =>
    if ['-', '-'].isPrefixOf (c :: s) then some ([], c :: s)
    else (untilDashes? s).map fun r => (c :: r.1, r.2)

/-- The dashes, arrow or not, that end a link with a label inside it. -/
def readLabelEnd? (s : List Char) : Option (Link × List Char) :=
  arrowOperator.read? s <|> plainOperator.read? s

/-- A label as an option: an empty one is none. -/
def nonEmptyLabel (s : List Char) : Option String :=
  if s.isEmpty then none else some (String.ofList s)

/-- `-- label -->` or `-- label ---`. The label does not start like an operator. -/
def readLabelled? (s : List Char) : Option (Link × List Char) :=
  match afterStart? ['-', '-'] s with
  | none => none
  | some s =>
    let s := skipInlineBlanks s
    if s.head?.any fun c => c == '-' || c == '=' || c == '.' then none
    else
      match untilDashes? s with
      | none => none
      | some (label, s) =>
        (readLabelEnd? s).map fun r => ({ r.1 with label := nonEmptyLabel (trim label) }, r.2)

/-- The link operator at the start of a text, and what follows it. -/
def readLink? (s : List Char) : Option (Link × List Char) :=
  commonOperators.findSome? (·.read? s) <|> readTipped? s <|> plainOperator.read? s <|>
    readLabelled? s

/-! ## Labels between bars -/

/-- A text without the quotes around it, if it has both. -/
def unquoted (s : List Char) : List Char :=
  match s with
  | '"' :: inside => if inside.getLast? = some '"' then inside.dropLast else s
  | _ => s

/-- A label between bars, and what follows it. -/
def readPipeLabel? : List Char → Option (Option String × List Char)
  | '|' :: s =>
    match s.dropWhile (· != '|') with
    | _ :: rest => some (nonEmptyLabel (unquoted (trim (s.takeWhile (· != '|')))), rest)
    | [] => none
  | _ => none

def startsLink : List Char → Bool
  | c :: _ => c == '-' || c == '=' || c == '<'
  | [] => false

/-! ## Reading consumes text -/

theorem Piece.length_of_after? {p : Piece} {s rest : List Char} (h : p.after? s = some rest) :
    rest.length + p.length ≤ s.length := by
  cases p with
  | fixed cs => exact Nat.le_of_eq (length_of_afterStart? h)
  | run least c =>
    simp only [Piece.after?] at h
    split at h
    · next hle =>
      have hsum := congrArg List.length (List.takeWhile_append_dropWhile (p := (· == c)) (l := s))
      simp only [Option.some.injEq] at h
      rw [List.length_append, h] at hsum
      simp only [Piece.length]
      omega
    · simp at h

theorem length_of_foldlM_after? {ps : List Piece} {s rest : List Char}
    (h : ps.foldlM Piece.after? s = some rest) :
    rest.length + Piece.rowLength ps ≤ s.length := by
  induction ps generalizing s with
  | nil =>
    simp only [List.foldlM_nil, Option.pure_def, Option.some.injEq] at h
    simp [Piece.rowLength, h]
  | cons p ps ih =>
    simp only [List.foldlM_cons, Option.bind_eq_bind, Option.bind_eq_some_iff] at h
    obtain ⟨s', hs', hrest⟩ := h
    have h₁ := Piece.length_of_after? hs'
    have h₂ := ih hrest
    simp only [Piece.rowLength]
    omega

theorem Operator.length_read?_le {o : Operator} {s rest : List Char} {l : Link}
    (h : o.read? s = some (l, rest)) :
    rest.length + Piece.rowLength o.pieces ≤ s.length := by
  simp only [Operator.read?, Option.map_eq_some_iff, Prod.mk.injEq] at h
  obtain ⟨r, hr, -, rfl⟩ := h
  exact length_of_foldlM_after? hr

theorem length_findSome?_read?_le {os : List Operator} {s rest : List Char} {l : Link}
    (hos : ∀ o ∈ os, 2 ≤ Piece.rowLength o.pieces)
    (h : os.findSome? (·.read? s) = some (l, rest)) : rest.length + 2 ≤ s.length := by
  obtain ⟨o, ho, hr⟩ := List.exists_of_findSome?_eq_some h
  have h₁ := hos o ho
  have h₂ := Operator.length_read?_le hr
  omega

theorem length_untilDashes?_le {s before rest : List Char}
    (h : untilDashes? s = some (before, rest)) : rest.length ≤ s.length := by
  induction s generalizing before with
  | nil => simp [untilDashes?] at h
  | cons c s ih =>
    unfold untilDashes? at h
    split at h
    · simp only [Option.some.injEq, Prod.mk.injEq] at h
      exact Nat.le_of_eq (congrArg List.length h.2.symm)
    · simp only [Option.map_eq_some_iff, Prod.mk.injEq] at h
      obtain ⟨⟨b, r⟩, hr, -, rfl⟩ := h
      exact Nat.le_succ_of_le (ih hr)

theorem length_readLabelled?_le {s rest : List Char} {l : Link}
    (h : readLabelled? s = some (l, rest)) : rest.length + 2 ≤ s.length := by
  unfold readLabelled? at h
  split at h
  · simp at h
  · next s₁ h₁ =>
    have hp := length_of_afterStart? h₁
    have hb := length_skipInlineBlanks_le s₁
    simp only [List.length_cons, List.length_nil] at hp
    simp only at h
    split at h
    · simp at h
    · split at h
      · simp at h
      · next label s₂ h₂ =>
        have hd := length_untilDashes?_le h₂
        simp only [Option.map_eq_some_iff, Prod.mk.injEq] at h
        obtain ⟨⟨link, s₃⟩, h₃, -, rfl⟩ := h
        have he : s₃.length ≤ s₂.length := by
          simp only [readLabelEnd?, Option.orElse_eq_orElse, Option.orElse_eq_or,
            Option.or_eq_some_iff] at h₃
          rcases h₃ with h₄ | ⟨-, h₄⟩
          · have := Operator.length_read?_le h₄
            omega
          · have := Operator.length_read?_le h₄
            omega
        simp only
        omega

theorem length_readLink?_le {s rest : List Char} {l : Link}
    (h : readLink? s = some (l, rest)) : rest.length + 2 ≤ s.length := by
  simp only [readLink?, Option.orElse_eq_orElse, Option.orElse_eq_or, Option.or_eq_some_iff] at h
  rcases h with h | ⟨-, h | ⟨-, h | ⟨-, h⟩⟩⟩
  · exact length_findSome?_read?_le (by decide) h
  · exact length_findSome?_read?_le (by decide) (Option.filter_eq_some_iff.1 h).1
  · have := Operator.length_read?_le h
    simp only [plainOperator, Piece.rowLength, Piece.length] at this
    omega
  · exact length_readLabelled?_le h

theorem length_readPipeLabel?_le {s rest : List Char} {label : Option String}
    (h : readPipeLabel? s = some (label, rest)) : rest.length ≤ s.length := by
  unfold readPipeLabel? at h
  split at h
  · next s =>
    split at h
    · next c r hr =>
      simp only [Option.some.injEq, Prod.mk.injEq] at h
      have := length_dropWhile_le (· != '|') s
      rw [hr, List.length_cons] at this
      rw [← h.2, List.length_cons]
      omega
    · simp at h
  · simp at h

end FlowchartLayout.Source
