import FlowchartLayout.Proofs.Document.RoundTrip
import FlowchartLayout.Proofs.Source.DraftInvariant

/-!
# Source texts place nothing

No line of a source text sets a coordinate, a size or a distance: what is read has no layout yet.
Of the numbers in it only the stroke widths of the nodes are free.

## Main definitions

- `Flowchart.Unplaced` — all numbers but the stroke widths are the initial ones

## Main statements

- `Flowchart.Unplaced.mem_numbers_iff` — the numbers in such a flowchart
- `Draft.unplaced_readLines` — lines keep drafts unplaced
-/

namespace FlowchartLayout

namespace Flowchart

variable {fc : Flowchart}

/-- Spacing and metrics are the initial ones, nodes and subgraphs have neither a place nor a size,
and edges have no path. -/
structure Unplaced (fc : Flowchart) : Prop where
  spacing : fc.spacing = {}
  nodes : ∀ n ∈ fc.nodes, n.numbers = [0, 0, 0, 0, n.strokeWidth]
  edges : ∀ e ∈ fc.edges, e.numbers = []
  subgraphs : ∀ s ∈ fc.subgraphs, s.numbers = [0, 0, 0, 0]
  metrics : fc.metrics = {}

/-! ## The numbers that are left -/

/-- The initial coordinates and distances. -/
def initialNumbers : List Float32 :=
  [0, 20, 40, 14]

theorem Unplaced.mem_numbers_iff (h : fc.Unplaced) {x : Float32} :
    x ∈ fc.numbers ↔ x ∈ initialNumbers ∨ ∃ n ∈ fc.nodes, n.strokeWidth = x := by
  have hspacing : x ∈ fc.spacing.numbers ↔ x = 20 ∨ x = 40 ∨ x = 14 := by
    rw [h.spacing]
    show x ∈ [20, 40, 40, 14] ↔ _
    simp
  have hmetrics : x ∈ fc.metrics.numbers ↔ x = 0 := by
    rw [h.metrics]
    show x ∈ [0, 0, 0, 0, 0, 0, 0, 0, 0] ↔ _
    simp
  have hnodes : x ∈ fc.nodes.flatMap Node.numbers ↔
      ∃ n ∈ fc.nodes, x = 0 ∨ n.strokeWidth = x := by
    rw [List.mem_flatMap]
    refine exists_congr fun n => and_congr_right fun hn => ?_
    rw [h.nodes n hn]
    simp [eq_comm]
  have hedges : x ∉ fc.edges.flatMap Edge.numbers := by
    rw [List.mem_flatMap]
    rintro ⟨e, he, hx⟩
    rw [h.edges e he] at hx
    cases hx
  have hsubgraphs (hx : x ∈ fc.subgraphs.flatMap Subgraph.numbers) : x = 0 := by
    obtain ⟨s, hs, hx⟩ := List.mem_flatMap.1 hx
    rw [h.subgraphs s hs] at hx
    simpa using hx
  rw [numbers, List.mem_append, List.mem_append, List.mem_append, List.mem_append, hspacing,
    hmetrics, hnodes, or_iff_right hedges]
  have hinitial : x ∈ initialNumbers ↔ x = 0 ∨ x = 20 ∨ x = 40 ∨ x = 14 := by
    simp only [initialNumbers, List.mem_cons, List.not_mem_nil, or_false]
  rw [hinitial]
  constructor
  · rintro (hx | ⟨n, hn, hx | hx⟩ | hx | hx)
    · exact .inl (.inr hx)
    · exact .inl (.inl hx)
    · exact .inr ⟨n, hn, hx⟩
    · exact .inl (.inl (hsubgraphs hx))
    · exact .inl (.inl hx)
  · rintro ((hx | hx) | ⟨n, hn, hx⟩)
    · exact .inr (.inr (.inr hx))
    · exact .inl hx
    · exact .inr (.inl ⟨n, hn, .inr hx⟩)

/-! ## Changes -/

theorem unplaced_empty (direction : Direction) : (empty direction).Unplaced where
  spacing := rfl
  nodes := by
    intro n hn
    cases hn
  edges := by
    intro e he
    cases he
  subgraphs := by
    intro s hs
    cases hs
  metrics := rfl

namespace Unplaced

theorem invalidate (h : fc.Unplaced) : fc.invalidate.Unplaced where
  spacing := h.spacing
  nodes := h.nodes
  edges := h.edges
  subgraphs := h.subgraphs
  metrics := by
    rw [Flowchart.invalidate, h.metrics]

theorem addNode (h : fc.Unplaced) {n : Node} (hn : n.numbers = [0, 0, 0, 0, n.strokeWidth]) :
    (fc.addNode n).Unplaced :=
  invalidate { h with nodes := List.forall_mem_append.2 ⟨h.nodes, List.forall_mem_singleton.2 hn⟩ }

theorem addEdge (h : fc.Unplaced) {e : Edge} (he : e.numbers = []) : (fc.addEdge e).Unplaced :=
  invalidate { h with edges := List.forall_mem_append.2 ⟨h.edges, List.forall_mem_singleton.2 he⟩ }

theorem addSubgraph (h : fc.Unplaced) {s : Subgraph} (hs : s.numbers = [0, 0, 0, 0]) :
    (fc.addSubgraph s).Unplaced :=
  invalidate { h with
    subgraphs := List.forall_mem_append.2 ⟨h.subgraphs, List.forall_mem_singleton.2 hs⟩ }

/-- A change of a node may set its stroke width. -/
theorem modifyNode (h : fc.Unplaced) (i : Nat) {f : Node → Node}
    (hf : ∀ n, n.numbers = [0, 0, 0, 0, n.strokeWidth] →
      (f n).numbers = [0, 0, 0, 0, (f n).strokeWidth]) : (fc.modifyNode i f).Unplaced := by
  refine invalidate { h with nodes := fun n' hn' => ?_ }
  rcases mem_or_exists_of_mem_modify hn' with hn' | ⟨n, hn, rfl⟩
  · exact h.nodes n' hn'
  · exact hf n (h.nodes n hn)

theorem modifySubgraph (h : fc.Unplaced) (i : Nat) {f : Subgraph → Subgraph}
    (hf : ∀ s, (f s).numbers = s.numbers) : (fc.modifySubgraph i f).Unplaced := by
  refine invalidate { h with subgraphs := fun s' hs' => ?_ }
  rcases mem_or_exists_of_mem_modify hs' with hs' | ⟨s, hs, rfl⟩
  · exact h.subgraphs s' hs'
  · rw [hf]
    exact h.subgraphs s hs

theorem styleNode (h : fc.Unplaced) (id : String) (style : NodeStyle) :
    (fc.styleNode id style).Unplaced := by
  unfold Flowchart.styleNode modifyNodeById
  split
  · refine h.modifyNode _ fun n hn => ?_
    simp only [Node.numbers, List.cons.injEq, and_true] at hn ⊢
    exact hn
  · exact h

end Unplaced

end Flowchart

namespace Source.Draft

variable {d : Draft}

theorem unplaced_mention (h : d.flowchart.Unplaced) (id : String) :
    (d.mention id).flowchart.Unplaced := by
  rcases mention_cases d id with ⟨i, heq, -⟩ | ⟨heq, -⟩ | ⟨heq, -⟩
  · rw [heq]
    exact h.modifyNode i fun n hn => hn
  · rwa [heq]
  · rw [heq]
    exact h.addNode rfl

theorem unplaced_define (h : d.flowchart.Unplaced) (id : String) (definition : NodeShape) :
    (d.define id definition).flowchart.Unplaced := by
  have hmention := unplaced_mention h id
  rcases define_cases d id definition with heq | ⟨i, label, heq⟩
  · rwa [heq]
  · rw [heq]
    exact hmention.modifyNode i fun n hn => hn

theorem unplaced_connectSources (h : d.flowchart.Unplaced) (link : Link) (sources : List String)
    (target : String) : (d.connectSources link sources target).flowchart.Unplaced :=
  List.foldlRecOn (motive := fun d : Draft => d.flowchart.Unplaced) sources _ h
    fun _ h _ _ => (unplaced_mention h target).addEdge rfl

theorem unplaced_connectAll (h : d.flowchart.Unplaced) (link : Link) (sources : List String)
    (target : Mention) : (d.connectAll link sources target).flowchart.Unplaced := by
  have hconnected := unplaced_connectSources h link sources target.id
  rcases connectAll_cases d link sources target with heq | ⟨definition, heq⟩
  · rwa [heq]
  · rw [heq]
    exact unplaced_define hconnected target.id definition

theorem unplaced_follow (h : d.flowchart.Unplaced) (sources : List String) (hops : List Hop) :
    (d.follow sources hops).flowchart.Unplaced := by
  induction hops generalizing d sources with
  | nil => exact h
  | cons hop hops ih =>
    refine ih ?_ _
    exact List.foldlRecOn (motive := fun d : Draft => d.flowchart.Unplaced) hop.targets _ h
      fun _ h target _ => unplaced_connectAll h hop.link sources target

theorem unplaced_openSubgraph (h : d.flowchart.Unplaced) (id title : String) :
    (d.openSubgraph id title).flowchart.Unplaced := by
  unfold openSubgraph
  split
  · exact h
  · exact h.addSubgraph rfl

theorem unplaced_setDirection (h : d.flowchart.Unplaced) (direction : Direction) :
    (d.setDirection direction).flowchart.Unplaced := by
  unfold setDirection
  split
  · exact h
  · next i _ _ =>
    refine h.modifySubgraph i ?_
    exact fun _ => rfl

theorem unplaced_apply (h : d.flowchart.Unplaced) (s : Statement) :
    (d.apply s).flowchart.Unplaced := by
  cases s with
  | subgraph id title => exact unplaced_openSubgraph h id title
  | anonymousSubgraph =>
    exact unplaced_openSubgraph (d := { d with anonymous := d.anonymous + 1 }) h _ _
  | endSubgraph => exact h
  | direction direction => exact unplaced_setDirection h direction
  | style id style => exact h.styleNode id style
  | blank => exact h
  | chain first hops =>
    cases hdef : first.definition with
    | some definition =>
      simp only [apply, hdef]
      exact unplaced_follow (unplaced_define h first.id definition) _ hops
    | none =>
      simp only [apply, hdef]
      exact unplaced_follow (unplaced_mention h first.id) _ hops

theorem unplaced_readLines (direction : Direction) (lines : List (List Char)) :
    (lines.foldl Draft.readLine (start direction)).flowchart.Unplaced :=
  List.foldlRecOn (motive := fun d : Draft => d.flowchart.Unplaced) lines _
    (Flowchart.unplaced_empty direction) fun _ h line _ => unplaced_apply h (.ofLine line)

end Source.Draft

end FlowchartLayout
