import FlowchartLayout.Proofs.Source.Effects

/-!
# Ids of nodes and subgraphs

Every id of a flowchart comes from a line: that of a subgraph from a line that opens it, and that of
a node from a line that mentions it while it is not the id of a subgraph. An id that is mentioned
first and then opened as a subgraph belongs to both a node and a subgraph.

## Main definitions

- `Draft.opened?` — the id of the subgraph that a statement opens
- `Draft.Opens`, `Draft.Introduces` — some line opens a subgraph, or makes an id that of a node

## Main statements

- `Draft.mem_subgraphIds_readLines`, `Draft.mem_nodeIds_readLines` — where ids come from
- `mem_ids_ofSource?` — the ids of a source text, and those that belong to both
- `not_disjoint_ids_lateSource` — there are such
-/

namespace FlowchartLayout.Source

namespace Draft

variable {d : Draft} {x : String}

/-- The id of the subgraph that a statement opens. -/
def opened? (d : Draft) : Statement → Option String
  | .subgraph id _ => some id
  | .anonymousSubgraph => some ("subgraph" ++ toString (d.anonymous + 1))
  | _ => none

/-! ## Statements -/

theorem mem_subgraphIds_openSubgraph {id title : String} :
    x ∈ (d.openSubgraph id title).flowchart.subgraphIds ↔
      x ∈ d.flowchart.subgraphIds ∨ id = x := by
  unfold openSubgraph
  split
  · next i hi =>
    have hmem : id ∈ d.flowchart.subgraphIds := by
      by_contra hnot
      rw [Flowchart.findSubgraphIndex?_eq_none_iff.2 hnot] at hi
      cases hi
    simp only [iff_self_or]
    rintro rfl
    exact hmem
  · rw [Flowchart.subgraphIds_addSubgraph, List.mem_append, List.mem_singleton, eq_comm (a := x)]

theorem mem_subgraphIds_apply {s : Statement} (hs : s.HasTargets) :
    x ∈ (d.apply s).flowchart.subgraphIds ↔
      x ∈ d.flowchart.subgraphIds ∨ d.opened? s = some x := by
  have hsame (heq : (d.apply s).flowchart.subgraphIds = d.flowchart.subgraphIds)
      (hnone : d.opened? s = none) :
      x ∈ (d.apply s).flowchart.subgraphIds ↔
        x ∈ d.flowchart.subgraphIds ∨ d.opened? s = some x := by
    rw [heq, hnone, or_iff_left (Option.some_ne_none x).symm]
  cases s with
  | subgraph id title =>
    rw [opened?, Option.some_inj]
    exact mem_subgraphIds_openSubgraph
  | anonymousSubgraph =>
    rw [opened?, Option.some_inj]
    exact mem_subgraphIds_openSubgraph
  | chain first hops =>
    refine hsame ?_ rfl
    rw [Flowchart.subgraphIds, subgraphs_apply_chain d hs, Flowchart.subgraphIds]
  | style id style =>
    refine hsame ?_ rfl
    show (d.flowchart.styleNode id style).subgraphIds = _
    rw [Flowchart.subgraphIds, Flowchart.subgraphs_styleNode, Flowchart.subgraphIds]
  | direction direction => exact hsame (subgraphIds_setDirection d direction) rfl
  | endSubgraph => exact hsame rfl rfl
  | blank => exact hsame rfl rfl

theorem mem_nodeIds_introductions (h : d.WellFormed) (ms : List Mention) :
    x ∈ (ms.foldl introduce d).flowchart.nodeIds ↔
      x ∈ d.flowchart.nodeIds ∨ (∃ m ∈ ms, m.id = x) ∧ x ∉ d.flowchart.subgraphIds := by
  induction ms generalizing d with
  | nil => simp only [List.foldl_nil, List.not_mem_nil, false_and, exists_false, or_false]
  | cons m ms ih =>
    have hsubgraphs : (d.introduce m).flowchart.subgraphIds = d.flowchart.subgraphIds :=
      congrArg (List.map Subgraph.id) (subgraphs_introduce d m)
    rw [List.foldl_cons, ih (h.introduce m), nodeIds_introduce,
      mem_nodeIds_mention h.flowchart.nodup_nodeIds, hsubgraphs, List.exists_mem_cons_iff,
      or_and_right, or_assoc]

theorem mem_nodeIds_apply (h : d.WellFormed) {s : Statement} (hs : s.HasTargets) :
    x ∈ (d.apply s).flowchart.nodeIds ↔
      x ∈ d.flowchart.nodeIds ∨ s.Mentions x ∧ x ∉ d.flowchart.subgraphIds := by
  have hsame (heq : (d.apply s).flowchart.nodeIds = d.flowchart.nodeIds)
      (hnone : s.mentions = []) :
      x ∈ (d.apply s).flowchart.nodeIds ↔
        x ∈ d.flowchart.nodeIds ∨ s.Mentions x ∧ x ∉ d.flowchart.subgraphIds := by
    simp only [heq, Statement.Mentions, hnone, List.not_mem_nil, false_and, exists_false, or_false]
  cases s with
  | chain first hops =>
    rw [Flowchart.nodeIds, nodes_apply_chain d hs]
    exact mem_nodeIds_introductions h _
  | subgraph id title =>
    exact hsame (congrArg (List.map Node.id) (nodes_openSubgraph d id title)) rfl
  | anonymousSubgraph =>
    exact hsame (congrArg (List.map Node.id) (nodes_openSubgraph _ _ _)) rfl
  | style id style =>
    exact hsame (Flowchart.nodeIds_styleNode d.flowchart id style) rfl
  | direction direction =>
    exact hsame (congrArg (List.map Node.id) (nodes_setDirection d direction)) rfl
  | endSubgraph => exact hsame rfl rfl
  | blank => exact hsame rfl rfl

/-! ## Lines -/

/-- Some line opens a subgraph with the id. -/
def Opens (d : Draft) (lines : List (List Char)) (id : String) : Prop :=
  ∃ before line after, lines = before ++ line :: after ∧
    (before.foldl Draft.readLine d).opened? (.ofLine line) = some id

/-- Some line mentions the id while no subgraph has it. -/
def Introduces (d : Draft) (lines : List (List Char)) (id : String) : Prop :=
  ∃ before line after, lines = before ++ line :: after ∧ (Statement.ofLine line).Mentions id ∧
    id ∉ (before.foldl Draft.readLine d).flowchart.subgraphIds

/-- A property of some line of a list is one of its first line or of some line of the others. -/
theorem exists_line_cons_iff {p : Draft → List Char → Prop} {line : List Char}
    {lines : List (List Char)} :
    (∃ before line' after, line :: lines = before ++ line' :: after ∧
      p (before.foldl Draft.readLine d) line') ↔
      p d line ∨ ∃ before line' after, lines = before ++ line' :: after ∧
        p (before.foldl Draft.readLine (d.readLine line)) line' := by
  constructor
  · rintro ⟨before, line', after, heq, h⟩
    cases before with
    | nil =>
      obtain ⟨rfl, -⟩ := List.cons.inj heq
      exact .inl h
    | cons first before =>
      obtain ⟨rfl, rfl⟩ := List.cons.inj heq
      exact .inr ⟨before, line', after, rfl, h⟩
  · rintro (h | ⟨before, line', after, rfl, h⟩)
    · exact ⟨[], line, lines, rfl, h⟩
    · exact ⟨line :: before, line', after, rfl, h⟩

theorem opens_cons_iff {line : List Char} {lines : List (List Char)} :
    d.Opens (line :: lines) x ↔
      d.opened? (.ofLine line) = some x ∨ (d.readLine line).Opens lines x :=
  exists_line_cons_iff (p := fun d line => d.opened? (.ofLine line) = some x)

theorem introduces_cons_iff {line : List Char} {lines : List (List Char)} :
    d.Introduces (line :: lines) x ↔
      (Statement.ofLine line).Mentions x ∧ x ∉ d.flowchart.subgraphIds ∨
        (d.readLine line).Introduces lines x :=
  exists_line_cons_iff
    (p := fun d line => (Statement.ofLine line).Mentions x ∧ x ∉ d.flowchart.subgraphIds)

theorem not_opens_nil : ¬ d.Opens [] x := by
  rintro ⟨before, line, after, heq, -⟩
  exact List.append_ne_nil_of_right_ne_nil before (List.cons_ne_nil line after) heq.symm

theorem not_introduces_nil : ¬ d.Introduces [] x := by
  rintro ⟨before, line, after, heq, -⟩
  exact List.append_ne_nil_of_right_ne_nil before (List.cons_ne_nil line after) heq.symm

/-- The ids of subgraphs are those that lines open. -/
theorem mem_subgraphIds_readLines (lines : List (List Char)) :
    x ∈ (lines.foldl Draft.readLine d).flowchart.subgraphIds ↔
      x ∈ d.flowchart.subgraphIds ∨ d.Opens lines x := by
  induction lines generalizing d with
  | nil => exact (or_iff_left not_opens_nil).symm
  | cons line lines ih =>
    rw [List.foldl_cons, ih, readLine, mem_subgraphIds_apply (hasTargets_ofLine line), or_assoc,
      opens_cons_iff]
    rfl

/-- The ids of nodes are those that lines mention before they are opened. -/
theorem mem_nodeIds_readLines (h : d.WellFormed) (lines : List (List Char)) :
    x ∈ (lines.foldl Draft.readLine d).flowchart.nodeIds ↔
      x ∈ d.flowchart.nodeIds ∨ d.Introduces lines x := by
  induction lines generalizing d with
  | nil => exact (or_iff_left not_introduces_nil).symm
  | cons line lines ih =>
    rw [List.foldl_cons, ih (h.readLine line), readLine,
      mem_nodeIds_apply h (hasTargets_ofLine line), or_assoc, introduces_cons_iff]
    rfl

theorem opens_append_iff {before after : List (List Char)} :
    d.Opens (before ++ after) x ↔
      d.Opens before x ∨ (before.foldl Draft.readLine d).Opens after x := by
  induction before generalizing d with
  | nil => exact (or_iff_right not_opens_nil).symm
  | cons line before ih => rw [List.cons_append, opens_cons_iff, ih, ← or_assoc, ← opens_cons_iff,
      List.foldl_cons]

/-- A statement that mentions an id opens no subgraph. -/
theorem opened?_eq_none_of_mentions {s : Statement} (h : s.Mentions x) : d.opened? s = none := by
  obtain ⟨m, hm, -⟩ := h
  cases s with
  | chain first hops => rfl
  | _ => cases hm

/-- An id of a node and of a subgraph was mentioned first, and opened later. -/
theorem introduces_and_opens_iff {direction : Direction} {lines : List (List Char)} :
    (start direction).Introduces lines x ∧ (start direction).Opens lines x ↔
      ∃ before line after, lines = before ++ line :: after ∧
        (Statement.ofLine line).Mentions x ∧ ¬ (start direction).Opens before x ∧
        ((before ++ [line]).foldl Draft.readLine (start direction)).Opens after x := by
  have hopens (before : List (List Char)) :
      x ∈ (before.foldl Draft.readLine (start direction)).flowchart.subgraphIds ↔
        (start direction).Opens before x := by
    rw [mem_subgraphIds_readLines, or_iff_right]
    exact List.not_mem_nil
  constructor
  · rintro ⟨⟨before, line, after, rfl, hmentions, hnew⟩, hlater⟩
    refine ⟨before, line, after, rfl, hmentions, fun h => hnew ((hopens before).2 h), ?_⟩
    -- neither the lines before nor the line itself open it
    rw [opens_append_iff, opens_cons_iff, opened?_eq_none_of_mentions hmentions] at hlater
    rw [List.foldl_append]
    rcases hlater with hbefore | hline | hafter
    · exact absurd ((hopens before).2 hbefore) hnew
    · cases hline
    · exact hafter
  · rintro ⟨before, line, after, rfl, hmentions, hnew, hlater⟩
    refine ⟨⟨before, line, after, rfl, hmentions, fun h => hnew ((hopens before).1 h)⟩, ?_⟩
    rw [opens_append_iff, opens_cons_iff]
    rw [List.foldl_append] at hlater
    exact .inr (.inr hlater)

end Draft

/-! ## Source texts -/

/-- Where the ids of a flowchart come from. Those of subgraphs are opened by lines; those of nodes
are mentioned by a line before any line opens them. So an id belongs to a node and to a subgraph
just if it is mentioned first and opened later. -/
theorem mem_ids_ofSource? {source : String} {direction : Direction} {body : List Char}
    (hsource : readHeader? source.toList = some (direction, body)) :
    ∃ fc, Flowchart.ofSource? source = some fc ∧
      (∀ x, x ∈ fc.subgraphIds ↔ (Draft.start direction).Opens (contentLines body) x) ∧
      (∀ x, x ∈ fc.nodeIds ↔ (Draft.start direction).Introduces (contentLines body) x) ∧
      ∀ x, x ∈ fc.nodeIds ∧ x ∈ fc.subgraphIds ↔
        ∃ before line after, contentLines body = before ++ line :: after ∧
          (Statement.ofLine line).Mentions x ∧ ¬ (Draft.start direction).Opens before x ∧
          ((before ++ [line]).foldl Draft.readLine (Draft.start direction)).Opens after x := by
  have hstart := Draft.wellFormed_start direction
  have hsubgraphs (x : String) : x ∈ ((contentLines body).foldl Draft.readLine
      (Draft.start direction)).flowchart.subgraphIds ↔
        (Draft.start direction).Opens (contentLines body) x := by
    rw [Draft.mem_subgraphIds_readLines, or_iff_right]
    exact List.not_mem_nil
  have hnodes (x : String) : x ∈ ((contentLines body).foldl Draft.readLine
      (Draft.start direction)).flowchart.nodeIds ↔
        (Draft.start direction).Introduces (contentLines body) x := by
    rw [Draft.mem_nodeIds_readLines hstart, or_iff_right]
    exact List.not_mem_nil
  refine ⟨_, ofSource?_eq_readLines hsource, hsubgraphs, hnodes, fun x => ?_⟩
  rw [hnodes, hsubgraphs]
  exact Draft.introduces_and_opens_iff

/-! ## A subgraph that is mentioned before it is opened, and after -/

def earlySource : String :=
  "flowchart TB\nsubgraph s\nA\nend\nB --> s"

def lateSource : String :=
  "flowchart TB\nB --> s\nsubgraph s\nA\nend"

/-- An edge to a known subgraph makes no node. -/
theorem ids_earlySource :
    (readHeader? earlySource.toList).isSome = true ∧
      ∃ fc, Flowchart.ofSource? earlySource = some fc ∧ "s" ∈ fc.subgraphIds ∧
        "s" ∉ fc.nodeIds := by
  have hsource : readHeader? earlySource.toList =
      some (.topToBottom, "\nsubgraph s\nA\nend\nB --> s".toList) := by
    decide +kernel
  obtain ⟨fc, hfc, hsubgraphs, hnodes, -⟩ := mem_ids_ofSource? hsource
  have hlines : contentLines "\nsubgraph s\nA\nend\nB --> s".toList =
      ["subgraph s".toList, "A".toList, "end".toList, "B --> s".toList] := by
    decide +kernel
  rw [hlines] at hsubgraphs hnodes
  refine ⟨by rw [hsource]; rfl, fc, hfc, (hsubgraphs "s").2 ?_, fun h => ?_⟩
  · exact ⟨[], _, _, rfl, by decide +kernel⟩
  · -- the only line that mentions it comes when it is open
    have hlate := (hnodes "s").1 h
    simp only [Draft.introduces_cons_iff, Draft.not_introduces_nil, or_false] at hlate
    revert hlate
    decide +kernel

/-- An edge to a subgraph that comes later leaves a node with the id of the subgraph. -/
theorem not_disjoint_ids_lateSource :
    ¬ ∀ source fc, Flowchart.ofSource? source = some fc →
      ∀ x ∈ fc.nodeIds, x ∉ fc.subgraphIds := by
  intro h
  have hids : (Flowchart.ofSource? lateSource).map (fun fc => (fc.nodeIds, fc.subgraphIds)) =
      some (["B", "s", "A"], ["s"]) := by
    decide +kernel
  obtain ⟨fc, hfc, hids⟩ := Option.map_eq_some_iff.1 hids
  obtain ⟨hnodes, hsubgraphs⟩ := Prod.mk.inj hids
  refine h lateSource fc hfc "s" ?_ ?_
  · simp [hnodes]
  · simp [hsubgraphs]

end FlowchartLayout.Source
