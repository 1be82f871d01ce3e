import FlowchartLayout.Proofs.Layout.Content
import FlowchartLayout.Source.Draft

/-!
# Layouts that are kept

A flowchart remembers whether its layout still holds. Whatever was done to it, a layout that is
said to hold is the one that would be computed anew for the same viewport.

## Main definitions

- `Action` — what can be done to a flowchart, with any records and any changes
- `Flowchart.Current` — a layout that is said to hold is the one that would be computed anew

## Main statements

- `Flowchart.current_run` — no sequence of actions leaves a stale layout that is said to hold
- `Flowchart.layoutWith_invalidate_run` — a layout that holds is recovered after it is dropped
- `Flowchart.layoutWith_eq_of_content_eq` — flowcharts with one content get one layout, and keep the
  content
-/

namespace FlowchartLayout

/-- What can be done to a flowchart. Changes of records are arbitrary functions; shifting a
subgraph, which moves a layout and leaves it in force, is not among them. -/
inductive Action where
  | addNode (n : Node)
  | addEdge (e : Edge)
  | addSubgraph (s : Subgraph)
  | setDirection (direction : Direction)
  | setSpacing (spacing : Spacing)
  | modifyNode (i : Nat) (f : Node → Node)
  | modifyEdge (i : Nat) (f : Edge → Edge)
  | modifySubgraph (i : Nat) (f : Subgraph → Subgraph)
  | modifyNodeById (id : String) (f : Node → Node)
  | styleNode (id : String) (style : NodeStyle)
  | complete
  | invalidate
  | layout (width height : Float32)

/-- The flowchart after an action; `measure` measures the labels of every layout. -/
def Action.apply (measure : Measurer) (fc : Flowchart) : Action → Flowchart
  | addNode n => fc.addNode n
  | addEdge e => fc.addEdge e
  | addSubgraph s => fc.addSubgraph s
  | setDirection direction => fc.setDirection direction
  | setSpacing spacing => fc.setSpacing spacing
  | modifyNode i f => fc.modifyNode i f
  | modifyEdge i f => fc.modifyEdge i f
  | modifySubgraph i f => fc.modifySubgraph i f
  | modifyNodeById id f => fc.modifyNodeById id f
  | styleNode id style => fc.styleNode id style
  | complete => fc.complete
  | invalidate => fc.invalidate
  | layout width height => fc.layoutWith measure width height

namespace Flowchart

variable {measure : Measurer} {fc : Flowchart}

/-- The flowchart after a sequence of actions. -/
def run (measure : Measurer) (fc : Flowchart) (actions : List Action) : Flowchart :=
  actions.foldl (Action.apply measure) fc

/-- A layout that is said to hold is the one that would be computed anew for its viewport. -/
def Current (measure : Measurer) (fc : Flowchart) : Prop :=
  fc.metrics.computed = true →
    fc.relaid measure fc.metrics.viewportWidth fc.metrics.viewportHeight = fc

/-- The layout is not said to hold. -/
def Stale (fc : Flowchart) : Prop :=
  fc.metrics.computed = false

theorem Stale.current (h : fc.Stale) : fc.Current measure := by
  intro hcomputed
  rw [h] at hcomputed
  cases hcomputed

theorem stale_invalidate (fc : Flowchart) : fc.invalidate.Stale := rfl

/-- A layout records its viewport, and that it holds. -/
theorem metrics_relaid (fc : Flowchart) (measure : Measurer) (width height : Float32) :
    (fc.relaid measure width height).metrics.computed = true ∧
      (fc.relaid measure width height).metrics.viewportWidth = width ∧
      (fc.relaid measure width height).metrics.viewportHeight = height := by
  unfold relaid
  simp only
  split
  · exact ⟨rfl, rfl, rfl⟩
  · exact ⟨rfl, rfl, rfl⟩

/-- A layout is said to hold after it was asked for, be it kept or computed. -/
theorem computed_layoutWith (fc : Flowchart) (measure : Measurer) (width height : Float32) :
    (fc.layoutWith measure width height).metrics.computed = true := by
  unfold layoutWith
  split
  · next hkept =>
    simp only [isLaidOutFor, Bool.and_eq_true] at hkept
    exact hkept.1.1
  · exact (metrics_relaid fc measure width height).1

/-- A layout that does not hold is computed anew, whatever the viewport. -/
theorem Stale.layoutWith (h : fc.Stale) (width height : Float32) :
    fc.layoutWith measure width height = fc.relaid measure width height := by
  have hnot : fc.isLaidOutFor width height = false := by
    rw [isLaidOutFor, h, Bool.false_and, Bool.false_and]
  rw [Flowchart.layoutWith, hnot]
  rfl

/-- A dropped layout is computed anew, whatever the viewport. -/
theorem layoutWith_invalidate (fc : Flowchart) (measure : Measurer) (width height : Float32) :
    fc.invalidate.layoutWith measure width height =
      fc.invalidate.relaid measure width height :=
  (stale_invalidate fc).layoutWith width height

/-- A layout just computed is the one that would be computed anew. -/
theorem current_relaid (fc : Flowchart) (measure : Measurer) (width height : Float32) :
    (fc.relaid measure width height).Current measure := by
  intro _
  obtain ⟨-, hwidth, hheight⟩ := metrics_relaid fc measure width height
  rw [hwidth, hheight, relaid_relaid]

theorem Current.modifyNodeById (h : fc.Current measure) (id : String) (f : Node → Node) :
    (fc.modifyNodeById id f).Current measure := by
  unfold Flowchart.modifyNodeById
  split
  · exact (stale_invalidate _).current
  · exact h

theorem Current.layoutWith (h : fc.Current measure) (width height : Float32) :
    (fc.layoutWith measure width height).Current measure := by
  unfold Flowchart.layoutWith
  split
  · exact h
  · exact current_relaid fc measure width height

/-- Every action drops a layout that it makes wrong. -/
theorem Current.apply (h : fc.Current measure) (action : Action) :
    (action.apply measure fc).Current measure := by
  cases action with
  | addNode | addEdge | addSubgraph | setDirection | setSpacing | modifyNode | modifyEdge
  | modifySubgraph | complete | invalidate => exact (stale_invalidate _).current
  | modifyNodeById id f => exact h.modifyNodeById id f
  | styleNode id style => exact h.modifyNodeById id _
  | layout width height => exact h.layoutWith width height

theorem current_run (h : fc.Current measure) (actions : List Action) :
    (fc.run measure actions).Current measure :=
  List.foldlRecOn actions _ h fun _ h action _ => h.apply action

theorem stale_of_ofSource? {source : String} (h : ofSource? source = some fc) : fc.Stale := by
  obtain ⟨_, -, rfl⟩ := Option.map_eq_some_iff.1 h
  exact stale_invalidate _

/-- Start from an empty flowchart or from the flowchart of a source text, and do anything: if the
layout is then said to hold, dropping it and computing it for the recorded viewport gives back the
same flowchart. -/
theorem layoutWith_invalidate_run {start : Flowchart}
    (hstart : (∃ direction, start = .empty direction) ∨ ∃ source, ofSource? source = some start)
    (actions : List Action) (hcomputed : (start.run measure actions).metrics.computed = true) :
    (start.run measure actions).invalidate.layoutWith measure
        (start.run measure actions).metrics.viewportWidth
        (start.run measure actions).metrics.viewportHeight =
      start.run measure actions := by
  have hstale : start.Stale := by
    rcases hstart with ⟨direction, rfl⟩ | ⟨source, hsource⟩
    · rfl
    · exact stale_of_ofSource? hsource
  have hcurrent := current_run hstale.current actions hcomputed
  -- with the flag cleared the layout is computed from the content, which the flag is no part of
  rw [layoutWith_invalidate, ← relaid_content]
  show (start.run measure actions).content.relaid measure _ _ = _
  rw [relaid_content]
  exact hcurrent

/-- A pair of linked nodes, laid out, restyled and laid out again. -/
def restyledPair : List Action :=
  [.addNode (Node.implicit "A"), .addNode (Node.implicit "B"),
    .addEdge { source := "A", target := "B", kind := .arrow }, .layout 800 600,
    .styleNode "A" { fill := some .black }, .layout 640 480]

/-- The flowchart of the pair. -/
def restyledPairFlowchart : Flowchart :=
  Flowchart.run (ColumnMeasurer.measure {}) (.empty .leftToRight) restyledPair

theorem computed_restyledPair : restyledPairFlowchart.metrics.computed = true :=
  computed_layoutWith _ _ 640 480

/-- The second layout of the pair is recovered after it is dropped. -/
theorem layoutWith_invalidate_restyledPair :
    restyledPairFlowchart.metrics.computed = true ∧
      restyledPairFlowchart.invalidate.layoutWith (ColumnMeasurer.measure {})
          restyledPairFlowchart.metrics.viewportWidth
          restyledPairFlowchart.metrics.viewportHeight =
        restyledPairFlowchart :=
  ⟨computed_restyledPair,
    layoutWith_invalidate_run (.inl ⟨.leftToRight, rfl⟩) restyledPair computed_restyledPair⟩

/-! ## Leftover geometry -/

/-- Flowcharts that do not claim to be laid out and that have the same content, whatever geometry
and metrics are left in them, become one flowchart by a layout, and its content is theirs. -/
theorem layoutWith_eq_of_content_eq {f g : Flowchart} (hcontent : f.content = g.content)
    (hf : f.Stale) (hg : g.Stale) (measure : Measurer) (width height : Float32) :
    f.layoutWith measure width height = g.layoutWith measure width height ∧
      (f.layoutWith measure width height).content = f.content := by
  rw [hf.layoutWith, hg.layoutWith]
  constructor
  · calc f.relaid measure width height
      _ = f.content.relaid measure width height := (relaid_content f measure width height).symm
      _ = g.content.relaid measure width height := by rw [hcontent]
      _ = g.relaid measure width height := relaid_content g measure width height
  · exact content_relaid f measure width height

/-- A pair in a subgraph, linked to that subgraph too, which was never laid out. -/
def freshGroup : Flowchart :=
  { direction := .leftToRight
    nodes := [{ Node.implicit "A" with subgraph := some "S" }, Node.implicit "B"]
    edges := [{ source := "A", target := "B", kind := .arrow },
      { source := "B", target := "S", kind := .dotted }]
    subgraphs := [{ id := "S", title := "S" }, { id := "T", title := "T", parent := some "S" }] }

/-- The same pair with geometry everywhere: on nodes, on an edge that cannot be routed, on an empty
subgraph, and in the metrics. -/
def movedGroup : Flowchart :=
  { freshGroup with
    nodes := freshGroup.nodes.map fun n => { n with x := 7, y := -3, width := 1, height := 900 }
    edges := freshGroup.edges.map fun e =>
      { e with path := [⟨1, 2⟩, ⟨3, 4⟩, ⟨5, 6⟩], labelPosition := some ⟨8, 9⟩ }
    subgraphs := freshGroup.subgraphs.map fun s => { s with x := 4, width := 60, height := 2 }
    metrics := { naturalWidth := 12, scale := 3 } }

theorem layoutWith_eq_movedGroup :
    movedGroup.content = freshGroup.content ∧ movedGroup.Stale ∧ freshGroup.Stale ∧
      movedGroup.layoutWith (ColumnMeasurer.measure {}) 640 480 =
        freshGroup.layoutWith (ColumnMeasurer.measure {}) 640 480 ∧
      (movedGroup.layoutWith (ColumnMeasurer.measure {}) 640 480).content = movedGroup.content :=
  ⟨rfl, rfl, rfl, layoutWith_eq_of_content_eq (f := movedGroup) (g := freshGroup) rfl rfl rfl
    (ColumnMeasurer.measure {}) 640 480⟩

end Flowchart

end FlowchartLayout
