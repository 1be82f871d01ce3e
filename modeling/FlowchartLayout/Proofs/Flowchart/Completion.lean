import FlowchartLayout.Proofs.Flowchart.WellFormed
import Mathlib.Data.List.Induction

/-!
# Completed flowcharts

Completion keeps the first node of each id and gives a node to every end of an edge that names
nothing. Both go by first occurrences: an entry of a list counts if no entry before it has its key.

## Main definitions

- `firstOccurrences` — the entries of a list whose key has not come before
- `Flowchart.ends` — the names at the ends of edges, in order
- `Flowchart.IsCompletion` — the flowchart with what is repeated dropped and what is missing added

## Main statements

- `uniqueById_eq`, `eraseDups_eq` — what completion keeps are first occurrences
- `Flowchart.complete_exact` — completion does that and no more, and is done after one time
-/

namespace FlowchartLayout

/-! ## First occurrences -/

/-- The entries of a list whose key is not the key of an earlier entry, in order. -/
def firstOccurrences {α : Type} (key : α → String) (xs : List α) : List α :=
  (xs.zipIdx.filter fun (x, i) => key x ∉ (xs.take i).map key).map Prod.fst

section FirstOccurrences

variable {α : Type} {key : α → String} {k : String}

/-- A last entry counts if its key is new. -/
theorem firstOccurrences_append_singleton (xs : List α) (x : α) :
    firstOccurrences key (xs ++ [x]) =
      firstOccurrences key xs ++ if key x ∈ xs.map key then [] else [x] := by
  -- before the last entry, each entry sees the same entries before it
  have hbefore : ∀ p ∈ xs.zipIdx, (xs ++ [x]).take p.2 = xs.take p.2 := by
    intro p hp
    have hlt := List.snd_lt_of_mem_zipIdx hp
    exact List.take_append_of_le_length (by omega)
  have hfilter : (xs.zipIdx.filter fun p => key p.1 ∉ ((xs ++ [x]).take p.2).map key) =
      xs.zipIdx.filter fun p => key p.1 ∉ (xs.take p.2).map key :=
    List.filter_congr fun p hp => by rw [hbefore p hp]
  show ((xs ++ [x]).zipIdx.filter fun p => key p.1 ∉ ((xs ++ [x]).take p.2).map key).map
    Prod.fst = _
  rw [List.zipIdx_append, List.filter_append, List.map_append, hfilter]
  congr 1
  by_cases hx : key x ∈ xs.map key
  · simp [hx]
  · simp [hx]

theorem mem_map_firstOccurrences {xs : List α} :
    k ∈ (firstOccurrences key xs).map key ↔ k ∈ xs.map key := by
  induction xs using List.reverseRecOn with
  | nil => rfl
  | append_singleton xs x ih =>
    rw [firstOccurrences_append_singleton, List.map_append, List.map_append, List.mem_append,
      List.mem_append, ih]
    by_cases hx : key x ∈ xs.map key
    · rw [if_pos hx]
      constructor
      · rintro (hk | hk)
        · exact .inl hk
        · exact absurd hk List.not_mem_nil
      · rintro (hk | hk)
        · exact .inl hk
        · rw [List.map_singleton, List.mem_singleton] at hk
          exact .inl (hk ▸ hx)
    · rw [if_neg hx]

theorem nodup_map_firstOccurrences (xs : List α) : ((firstOccurrences key xs).map key).Nodup := by
  induction xs using List.reverseRecOn with
  | nil => exact List.nodup_nil
  | append_singleton xs x ih =>
    rw [firstOccurrences_append_singleton]
    by_cases hx : key x ∈ xs.map key
    · rw [if_pos hx, List.append_nil]
      exact ih
    · rw [if_neg hx, List.map_append, List.map_singleton, ← List.concat_eq_append]
      exact ih.concat fun hmem => hx (mem_map_firstOccurrences.1 hmem)

theorem mem_firstOccurrences {xs : List String} :
    k ∈ firstOccurrences (fun x => x) xs ↔ k ∈ xs := by
  have h := @mem_map_firstOccurrences _ (fun x => x) k xs
  rwa [List.map_id', List.map_id'] at h

theorem nodup_firstOccurrences (xs : List String) : (firstOccurrences (fun x => x) xs).Nodup := by
  have h := @nodup_map_firstOccurrences _ (fun x => x) xs
  rwa [List.map_id'] at h

/-- Erasing duplicates keeps the first of equal names. -/
theorem eraseDups_eq (xs : List String) : xs.eraseDups = firstOccurrences (fun x => x) xs := by
  induction xs using List.reverseRecOn with
  | nil => rfl
  | append_singleton xs x ih =>
    rw [List.eraseDups_append, firstOccurrences_append_singleton, ih, List.map_id']
    by_cases hx : x ∈ xs
    · simp [List.removeAll, hx]
    · simp [List.removeAll, hx, List.eraseDups_cons]

end FirstOccurrences

theorem uniqueById_append_singleton (seen : List String) (ns : List Node) (n : Node) :
    uniqueById seen (ns ++ [n]) =
      uniqueById seen ns ++ if n.id ∈ seen ∨ n.id ∈ ns.map (·.id) then [] else [n] := by
  induction ns generalizing seen with
  | nil =>
    by_cases hn : n.id ∈ seen
    · simp [uniqueById, hn]
    · simp [uniqueById, hn]
  | cons m ns ih =>
    by_cases hm : m.id ∈ seen
    · -- dropping `m` leaves the same ids to compare with
      have hiff : n.id ∈ seen ∨ n.id ∈ (m :: ns).map (·.id) ↔
          n.id ∈ seen ∨ n.id ∈ ns.map (·.id) := by
        rw [List.map_cons, List.mem_cons]
        constructor
        · rintro (hn | hn | hn)
          · exact .inl hn
          · exact .inl (hn ▸ hm)
          · exact .inr hn
        · exact Or.imp_right .inr
      rw [List.cons_append, uniqueById, uniqueById, if_pos (List.contains_iff_mem.2 hm),
        if_pos (List.contains_iff_mem.2 hm), ih, if_congr hiff rfl rfl]
    · have hnew : ¬seen.contains m.id = true := fun h => hm (List.contains_iff_mem.1 h)
      have hiff : n.id ∈ seen ∨ n.id ∈ (m :: ns).map (·.id) ↔
          n.id ∈ m.id :: seen ∨ n.id ∈ ns.map (·.id) := by
        rw [List.map_cons, List.mem_cons, List.mem_cons, or_left_comm, or_assoc]
      rw [List.cons_append, uniqueById, uniqueById, if_neg hnew, if_neg hnew, ih,
        if_congr hiff rfl rfl, List.cons_append]

/-- The first node of each id is kept. -/
theorem uniqueById_eq (ns : List Node) : uniqueById [] ns = firstOccurrences (·.id) ns := by
  induction ns using List.reverseRecOn with
  | nil => rfl
  | append_singleton ns n ih =>
    rw [uniqueById_append_singleton, firstOccurrences_append_singleton, ih]
    simp only [List.not_mem_nil, false_or]

namespace Flowchart

variable {fc done : Flowchart}

/-! ## Completion -/

/-- The names at the ends of edges, the source of each before its target. -/
def ends (fc : Flowchart) : List String :=
  fc.edges.flatMap fun e => [e.source, e.target]

/-- The flowchart `done` has the first node of each id, as it was, and behind these an implicit node
for each end of an edge that names nothing, once and in order of appearance. It has the same edges
and subgraphs and no layout. -/
structure IsCompletion (fc done : Flowchart) : Prop where
  nodes : done.nodes = firstOccurrences (·.id) fc.nodes ++
    (firstOccurrences (fun x => x)
      (fc.ends.filter fun x => x ∉ fc.nodeIds ∧ x ∉ fc.subgraphIds)).map Node.implicit
  edges : done.edges = fc.edges
  subgraphs : done.subgraphs = fc.subgraphs
  direction : done.direction = fc.direction
  spacing : done.spacing = fc.spacing
  metrics : done.metrics = { fc.metrics with computed := false }

theorem isCompletion_complete (fc : Flowchart) : fc.IsCompletion fc.complete where
  nodes := by
    -- dropping nodes takes no id away
    have hids {id : String} :
        ({ fc with nodes := uniqueById [] fc.nodes } : Flowchart).containsId id = true ↔
          id ∈ fc.nodeIds ∨ id ∈ fc.subgraphIds := by
      rw [containsId_iff, nodeIds, uniqueById_eq, mem_map_firstOccurrences]
      rfl
    have hmissing : ({ fc with nodes := uniqueById [] fc.nodes } : Flowchart).missingIds =
        firstOccurrences (fun x => x)
          (fc.ends.filter fun x => x ∉ fc.nodeIds ∧ x ∉ fc.subgraphIds) := by
      rw [missingIds, eraseDups_eq, ends]
      congr 1
      refine List.filter_congr fun x _ => ?_
      rw [Bool.eq_iff_iff, Bool.not_eq_true', ← Bool.not_eq_true, hids, not_or, decide_eq_true_eq]
    show uniqueById [] fc.nodes ++ List.map Node.implicit (missingIds _) = _
    rw [hmissing, uniqueById_eq]
  edges := rfl
  subgraphs := rfl
  direction := rfl
  spacing := rfl
  metrics := rfl

namespace IsCompletion

theorem nodeIds_eq (h : fc.IsCompletion done) :
    done.nodeIds = (firstOccurrences (·.id) fc.nodes).map (·.id) ++
      firstOccurrences (fun x => x)
        (fc.ends.filter fun x => x ∉ fc.nodeIds ∧ x ∉ fc.subgraphIds) := by
  rw [nodeIds, h.nodes, List.map_append, List.map_map]
  exact congrArg _ (List.map_id _)

theorem subgraphIds_eq (h : fc.IsCompletion done) : done.subgraphIds = fc.subgraphIds := by
  rw [subgraphIds, h.subgraphs, subgraphIds]

theorem nodup_nodeIds (h : fc.IsCompletion done) : done.nodeIds.Nodup := by
  rw [h.nodeIds_eq]
  refine List.nodup_append.2 ⟨nodup_map_firstOccurrences _, nodup_firstOccurrences _, ?_⟩
  rintro x hx _ hy rfl
  -- what is missing is no id of a node
  obtain ⟨-, hmissing⟩ := List.mem_filter.1 (mem_firstOccurrences.1 hy)
  exact (of_decide_eq_true hmissing).1 (mem_map_firstOccurrences.1 hx)

/-- Every end of an edge names a node or a subgraph. -/
theorem mem_ids_of_mem_ends (h : fc.IsCompletion done) {x : String} (hx : x ∈ fc.ends) :
    x ∈ done.nodeIds ∨ x ∈ done.subgraphIds := by
  rw [h.nodeIds_eq, h.subgraphIds_eq, List.mem_append, mem_map_firstOccurrences,
    mem_firstOccurrences, List.mem_filter]
  by_cases hsub : x ∈ fc.subgraphIds
  · exact .inr hsub
  by_cases hnode : x ∈ fc.nodeIds
  · exact .inl (.inl hnode)
  · exact .inl (.inr ⟨hx, decide_eq_true ⟨hnode, hsub⟩⟩)

theorem ends_known (h : fc.IsCompletion done) {e : Edge} (he : e ∈ done.edges) :
    done.containsId e.source = true ∧ done.containsId e.target = true := by
  rw [h.edges] at he
  rw [containsId_iff, containsId_iff]
  exact ⟨h.mem_ids_of_mem_ends (List.mem_flatMap.2 ⟨e, he, List.mem_cons_self⟩),
    h.mem_ids_of_mem_ends (List.mem_flatMap.2 ⟨e, he, List.mem_cons_of_mem _ List.mem_cons_self⟩)⟩

end IsCompletion

/-- For any flowchart, completion keeps the first node of each id and adds an implicit node for
each end of an edge that names nothing. Then every end names a node or a subgraph, nothing else but
the state of the layout has changed, and a second completion changes nothing. -/
theorem complete_exact (fc : Flowchart) :
    fc.IsCompletion fc.complete ∧
      (∀ e ∈ fc.complete.edges, ∀ x ∈ [e.source, e.target],
        x ∈ fc.complete.nodeIds ∨ x ∈ fc.complete.subgraphIds) ∧
      fc.complete.complete = fc.complete := by
  have h := isCompletion_complete fc
  refine ⟨h, ?_, ?_⟩
  · intro e he x hx
    exact h.mem_ids_of_mem_ends (List.mem_flatMap.2 ⟨e, he, hx⟩)
  · exact complete_eq_self h.nodup_nodeIds (fun e he => h.ends_known he) rfl

/-- The second node `A` goes, the end `B` gets a node, and the end that names a subgraph does not. -/
example :
    let fc : Flowchart :=
      { direction := .topToBottom
        nodes := [⟨"A", .circle⟩, ⟨"A", .diamond⟩].map fun (id, shape) =>
          { Node.implicit id with shape }
        edges := [⟨"A", "B"⟩, ⟨"B", "sg"⟩].map fun (source, target) =>
          { source, target, kind := .arrow }
        subgraphs := [{ id := "sg", title := "sg" }] }
    fc.complete.nodes.map (fun n => (n.id, n.shape)) = [("A", .circle), ("B", .rectangle)] := by
  decide

end Flowchart

end FlowchartLayout
