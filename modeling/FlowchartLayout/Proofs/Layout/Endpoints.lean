import FlowchartLayout.Proofs.Layout.Routing
import FlowchartLayout.Proofs.Source.DraftInvariant

/-!
# Edges with and without paths

A layout drops all paths first, and then gives one to every edge between two nodes. So old paths
never show, and what decides is whether the ends of an edge are ids of nodes. In the flowchart of a
source text every end belongs to a node or a subgraph.

## Main definitions

- `Edge.IsRoutedAmong` — an edge has a path just if both its ends are among the ids

## Main statements

- `Edge.isRoutedAmong_routed` — routing an edge that has no path
- `Flowchart.isRoutedAmong_of_mem_relaid` — the edges of a layout
- `Flowchart.routed_layoutWith` — which edges are routed, and which are not after reading a source
-/

namespace FlowchartLayout

/-- With both ends among the ids, the edge has a path of two points and a place for its label;
otherwise it has neither. -/
structure Edge.IsRoutedAmong (ids : List String) (e : Edge) : Prop where
  routed : e.source ∈ ids ∧ e.target ∈ ids → e.path.length = 2 ∧ e.labelPosition.isSome = true
  unrouted : ¬ (e.source ∈ ids ∧ e.target ∈ ids) → e.path = [] ∧ e.labelPosition = none

namespace Edge.IsRoutedAmong

variable {ids : List String} {e : Edge}

theorem isRouted_eq_false_iff (h : e.IsRoutedAmong ids) :
    e.isRouted = false ↔ ¬ (e.source ∈ ids ∧ e.target ∈ ids) := by
  by_cases hends : e.source ∈ ids ∧ e.target ∈ ids
  · simp [isRouted, (h.routed hends).1, hends]
  · simp [isRouted, (h.unrouted hends).1, hends]

/-- Moving a path keeps its points. -/
theorem rescaled (h : e.IsRoutedAmong ids) (scale : Float32) :
    (e.rescaled scale).IsRoutedAmong ids where
  routed := fun hends => by
    obtain ⟨hpath, hlabel⟩ := h.routed hends
    exact ⟨by rw [Edge.rescaled, List.length_map, hpath],
      by rw [Edge.rescaled, Option.isSome_map, hlabel]⟩
  unrouted := fun hends => by
    obtain ⟨hpath, hlabel⟩ := h.unrouted hends
    exact ⟨by rw [Edge.rescaled, hpath]; rfl, by rw [Edge.rescaled, hlabel]; rfl⟩

end Edge.IsRoutedAmong

/-- An edge without a path gets one if both its ends are found. -/
theorem Edge.isRoutedAmong_routed (fc : Flowchart) (e : Edge) :
    (e.bare.routed fc).IsRoutedAmong fc.nodeIds := by
  have hends : (fc.findNode? e.source).isSome = true ∧ (fc.findNode? e.target).isSome = true ↔
      e.source ∈ fc.nodeIds ∧ e.target ∈ fc.nodeIds := by
    rw [Flowchart.findNode?_isSome_iff, Flowchart.findNode?_isSome_iff]
  unfold Edge.routed
  simp only [Edge.bare]
  split
  · next hsource htarget =>
    rw [hsource, htarget] at hends
    exact ⟨fun _ => ⟨rfl, rfl⟩, fun hnot => absurd (hends.1 ⟨rfl, rfl⟩) hnot⟩
  · next hnone =>
    refine ⟨fun hboth => ?_, fun _ => ⟨rfl, rfl⟩⟩
    obtain ⟨hsource, htarget⟩ := hends.2 hboth
    obtain ⟨s, hs⟩ := Option.isSome_iff_exists.1 hsource
    obtain ⟨t, ht⟩ := Option.isSome_iff_exists.1 htarget
    exact absurd ht (hnone s t hs)

namespace Flowchart

variable {fc : Flowchart} {measure : Measurer} {width height : Float32}

/-- The edges of a layout are routed as its nodes allow, whatever paths there were. -/
theorem isRoutedAmong_of_mem_relaid {e : Edge} (h : e ∈ (fc.relaid measure width height).edges) :
    e.IsRoutedAmong fc.nodeIds := by
  rw [edges_relaid] at h
  obtain ⟨e', he', rfl⟩ := List.mem_map.1 h
  obtain ⟨e'', he'', rfl⟩ := List.mem_map.1 he'
  obtain ⟨e₀, -, rfl⟩ := List.mem_map.1 he''
  have hrouted := Edge.isRoutedAmong_routed (fc.arranged measure) e₀
  rw [nodeIds_of_content_eq content_arranged] at hrouted
  exact hrouted.rescaled _

/-- The ends of an edge of a layout are those of an edge of the flowchart. -/
theorem exists_mem_ends_eq {f : Flowchart} (hcontent : f.content = fc.content) {e : Edge}
    (h : e ∈ f.edges) : ∃ e' ∈ fc.edges, e'.source = e.source ∧ e'.target = e.target := by
  have hedges : f.edges.map Edge.bare = fc.edges.map Edge.bare :=
    congrArg Flowchart.edges hcontent
  have hmem : e.bare ∈ fc.edges.map Edge.bare := by
    rw [← hedges]
    exact List.mem_map_of_mem h
  obtain ⟨e', he', hbare⟩ := List.mem_map.1 hmem
  have hsource : e'.bare.source = e.bare.source := by rw [hbare]
  have htarget : e'.bare.target = e.bare.target := by rw [hbare]
  exact ⟨e', he', hsource, htarget⟩

/-- Without dangling ends, an edge lacks a node just if one end is the id of a subgraph only. -/
theorem WellFormed.not_ends_mem_iff (h : fc.WellFormed) {e : Edge} (he : e ∈ fc.edges) :
    ¬ (e.source ∈ fc.nodeIds ∧ e.target ∈ fc.nodeIds) ↔
      ∃ id, (id = e.source ∨ id = e.target) ∧ id ∈ fc.subgraphIds ∧ id ∉ fc.nodeIds := by
  obtain ⟨hsource, htarget⟩ := h.ends_known e he
  rw [containsId_iff] at hsource htarget
  constructor
  · intro hnot
    by_cases hs : e.source ∈ fc.nodeIds
    · have ht : e.target ∉ fc.nodeIds := fun ht => hnot ⟨hs, ht⟩
      exact ⟨_, .inr rfl, htarget.resolve_left ht, ht⟩
    · exact ⟨_, .inl rfl, hsource.resolve_left hs, hs⟩
  · rintro ⟨id, rfl | rfl, -, hid⟩ ⟨hs, ht⟩
    · exact hid hs
    · exact hid ht

/-- A layout that is computed keeps all edges, in their order, and routes those between two nodes
and no others, with paths of two points. In the flowchart of a source text the others are those with
an end that is the id of a subgraph and of no node. -/
theorem routed_layoutWith (h : fc.isLaidOutFor width height = false) (measure : Measurer) :
    (fc.layoutWith measure width height).edges.map Edge.bare = fc.edges.map Edge.bare ∧
      (∀ e ∈ (fc.layoutWith measure width height).edges, e.IsRoutedAmong fc.nodeIds) ∧
      ∀ source, ofSource? source = some fc →
        ∀ e ∈ (fc.layoutWith measure width height).edges,
          (e.isRouted = false ↔
            ∃ id, (id = e.source ∨ id = e.target) ∧ id ∈ fc.subgraphIds ∧ id ∉ fc.nodeIds) := by
  rw [layoutWith, h]
  have hcontent : (fc.relaid measure width height).content = fc.content := content_relaid ..
  refine ⟨congrArg Flowchart.edges hcontent, fun _ => isRoutedAmong_of_mem_relaid,
    fun source hsource e he => ?_⟩
  obtain ⟨e', he', hends, hends'⟩ := exists_mem_ends_eq hcontent he
  rw [(isRoutedAmong_of_mem_relaid he).isRouted_eq_false_iff, ← hends, ← hends']
  exact (Source.wellFormed_of_ofSource? hsource).not_ends_mem_iff he'

/-- A pair of nodes in a subgraph, one of which is linked to the subgraph too. -/
def linkedGroupSource : String :=
  "flowchart LR\nsubgraph S\nA --> B\nend\nB --> S"

/-- The link to the subgraph is not routed. -/
theorem routed_linkedGroup :
    ∃ fc, ofSource? linkedGroupSource = some fc ∧ fc.isLaidOutFor 800 600 = false ∧
      (fc.layoutWith (ColumnMeasurer.measure {}) 800 600).edges.map Edge.isRouted = [true, false] ∧
      (∀ e ∈ (fc.layoutWith (ColumnMeasurer.measure {}) 800 600).edges,
        e.IsRoutedAmong fc.nodeIds) ∧
      ∀ e ∈ (fc.layoutWith (ColumnMeasurer.measure {}) 800 600).edges,
        (e.isRouted = false ↔
          ∃ id, (id = e.source ∨ id = e.target) ∧ id ∈ fc.subgraphIds ∧ id ∉ fc.nodeIds) := by
  have hedges : (ofSource? linkedGroupSource).map (fun fc =>
      (fc.isLaidOutFor 800 600,
        (fc.layoutWith (ColumnMeasurer.measure {}) 800 600).edges.map Edge.isRouted)) =
      some (false, [true, false]) := by
    decide +kernel
  obtain ⟨fc, hfc, hedges⟩ := Option.map_eq_some_iff.1 hedges
  obtain ⟨hnot, hrouted⟩ := Prod.mk.inj hedges
  obtain ⟨-, hamong, hunrouted⟩ := routed_layoutWith hnot (ColumnMeasurer.measure {})
  exact ⟨fc, hfc, hnot, hrouted, hamong, hunrouted _ hfc⟩

end Flowchart

end FlowchartLayout
