import FlowchartLayout.Proofs.Layers.Overtaking
import Mathlib.Data.List.Perm.Subperm

/-!
# Layers without gaps

As many rounds as nodes place every node, whatever cycles, lone nodes and repeated ids there are.
Below the first layer every node hangs on one right above it, so that no layer is skipped and there
are no more layers than nodes.

## Main definitions

- `Layering.Hanging` — below the first layer, every position has a predecessor right above it

## Main statements

- `toList_run_start` — the layers are there after as many rounds as nodes, and none is made up
- `layers_occupied` — the layering is complete and leaves no gaps
-/

namespace FlowchartLayout

namespace Layering

variable {preds : Array (List Nat)} {ls : Layering} {i : Nat}

/-- Whatever is not on the first layer has a predecessor on the layer right above it. -/
def Hanging (preds : Array (List Nat)) (ls : Layering) : Prop :=
  ∀ i l, ls.layer? i = some (l + 1) → ∃ p ∈ preds.getD i [], ls.layer? p = some l

/-- A placement hangs the position on its deepest placed predecessor, if it has one. -/
theorem Hanging.place (h : Hanging preds ls) (hnone : ls.layer? i = none) :
    Hanging preds (ls.place i (depth preds ls i)) := by
  have hext : ls.Extends (ls.place i (depth preds ls i)) := extends_place hnone
  intro j l hl
  have hold : ∃ p ∈ preds.getD j [], ls.layer? p = some l := by
    rw [layer?_place] at hl
    split at hl
    · next hij =>
      obtain ⟨rfl, -⟩ := hij
      exact exists_of_depth_eq_succ (Option.some.inj hl)
    · exact h j l hl
  obtain ⟨p, hp, hlayer⟩ := hold
  exact ⟨p, hp, hext p l hlayer⟩

theorem hanging_roots (preds : Array (List Nat)) : Hanging preds (roots preds) :=
  fun _ _ hl => by cases (of_layer?_roots hl).2

theorem hanging_stage (preds : Array (List Nat)) (k : Nat) : Hanging preds (stage preds k) :=
  stage_induction (hanging_roots preds) (fun _ _ h hnone _ => h.place hnone)
    (fun _ _ h _ hb => h.place (mem_unplaced.1 (mem_unplaced_of_breaker? hb)).2) k

/-- In a complete layering no layer has to be made up. -/
theorem map_some_getD (h : ls.isComplete) : (ls.toList.map (·.getD 0)).map some = ls.toList := by
  rw [List.map_map]
  refine (List.map_congr_left fun l hl => ?_).trans (List.map_id _)
  obtain ⟨j, hj, rfl⟩ := Array.mem_iff_getElem.1 (Array.mem_toList_iff.1 hl)
  obtain ⟨m, hm⟩ := Option.isSome_iff_exists.1 (Array.all_eq_true.1 h j hj)
  rw [hm]
  rfl

end Layering

variable {nodes : List Node} {edges : List Edge} {l m v : Nat}

/-- After as many rounds as nodes, and after any more, every node has the layer it is assigned. -/
theorem toList_run_start {rounds : Nat} (h : nodes.length ≤ rounds) :
    (Layering.run (predecessorTable nodes edges) rounds
      (Layering.start (predecessorTable nodes edges))).toList =
        (assignLayers nodes edges).map some := by
  have hsize := size_predecessorTable nodes edges
  rw [Layering.run_start (hsize.symm ▸ h), assignLayers_eq_stage, hsize,
    Layering.map_some_getD (Layering.isComplete_stage (Nat.le_of_eq hsize))]

/-- Below the first layer a node has a predecessor on the layer right above it. -/
theorem exists_linked_above (h : (assignLayers nodes edges)[v]? = some (l + 1)) :
    ∃ u, Linked nodes edges u v ∧ (assignLayers nodes edges)[u]? = some l := by
  obtain ⟨k, hk⟩ := exists_assignLayers_eq_stage nodes edges
  have hv : v < nodes.length := by
    rw [← length_assignLayers nodes edges]
    exact (List.getElem?_eq_some_iff.1 h).1
  obtain ⟨lv, hlv, hav⟩ := hk v hv
  rw [h] at hav
  cases hav
  obtain ⟨u, hu, hlu⟩ := Layering.hanging_stage _ k v l hlv
  have hlt := Layering.lt_size_of_layer? hlu
  rw [Layering.size_stage, size_predecessorTable] at hlt
  obtain ⟨lu, hlu', hau⟩ := hk u hlt
  rw [hlu] at hlu'
  cases hlu'
  exact ⟨u, mem_predecessorTable.1 hu, hau⟩

/-- With a layer all those before it are occupied. -/
theorem mem_assignLayers_of_le (h : l ∈ assignLayers nodes edges) (hm : m ≤ l) :
    m ∈ assignLayers nodes edges := by
  induction l with
  | zero => rwa [Nat.le_zero.1 hm]
  | succ l ih =>
    rcases Nat.le_succ_iff.1 hm with hm | rfl
    · obtain ⟨v, hv⟩ := List.mem_iff_getElem?.1 h
      obtain ⟨u, -, hu⟩ := exists_linked_above hv
      exact ih (List.mem_of_getElem? hu) hm
    · exact h

/-- There are no more layers than nodes. -/
theorem lt_length_of_mem_assignLayers (h : l ∈ assignLayers nodes edges) : l < nodes.length := by
  have hsubset : List.range (l + 1) ⊆ assignLayers nodes edges := fun m hm =>
    mem_assignLayers_of_le h (Nat.le_of_lt_succ (List.mem_range.1 hm))
  have hlength := (List.nodup_range.subperm hsubset).length_le
  rwa [List.length_range, length_assignLayers] at hlength

/-- Nodes that no edge leads to, loops apart, are on the first layer. -/
theorem layer_eq_zero_of_forall_not_linked (hv : v < nodes.length)
    (h : ∀ u, ¬ Linked nodes edges u v) : (assignLayers nodes edges)[v]? = some 0 := by
  obtain ⟨l, hl⟩ : ∃ l, (assignLayers nodes edges)[v]? = some l :=
    ⟨_, List.getElem?_eq_getElem (by rwa [length_assignLayers])⟩
  cases l with
  | zero => exact hl
  | succ l =>
    obtain ⟨u, hu, -⟩ := exists_linked_above hl
    exact absurd hu (h u)

/-- Whatever the nodes and edges, as many rounds as nodes give every node its layer, and further
rounds would change nothing; every node below the first layer has a predecessor right above it, the
layers up to the deepest one are all occupied and fewer than the nodes, and the nodes that no edge
leads to are on the first. -/
theorem layers_occupied (nodes : List Node) (edges : List Edge) :
    (∀ rounds, nodes.length ≤ rounds →
      (Layering.run (predecessorTable nodes edges) rounds
        (Layering.start (predecessorTable nodes edges))).toList =
          (assignLayers nodes edges).map some) ∧
    (assignLayers nodes edges).length = nodes.length ∧
    (∀ v l, (assignLayers nodes edges)[v]? = some (l + 1) →
      ∃ u, Linked nodes edges u v ∧ (assignLayers nodes edges)[u]? = some l) ∧
    (∀ l ∈ assignLayers nodes edges, l < nodes.length ∧
      ∀ m ≤ l, m ∈ assignLayers nodes edges) ∧
    ∀ v < nodes.length, (∀ u, ¬ Linked nodes edges u v) →
      (assignLayers nodes edges)[v]? = some 0 :=
  ⟨fun _ h => toList_run_start h, length_assignLayers nodes edges,
    fun _ _ h => exists_linked_above h,
    fun _ h => ⟨lt_length_of_mem_assignLayers h, fun _ hm => mem_assignLayers_of_le h hm⟩,
    fun _ hv h => layer_eq_zero_of_forall_not_linked hv h⟩

end FlowchartLayout
