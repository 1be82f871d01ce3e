import FlowchartLayout.Flowchart.Completion
import Mathlib.Data.List.Nodup
import Mathlib.Order.RelClasses

/-!
# Well-formed flowcharts

In a well-formed flowchart no id is repeated, every name belongs to a record, and subgraphs follow
the subgraphs that hold them. The changes that keep a flowchart well-formed are listed with what
they need; completion has nothing left to do.

## Main definitions

- `Flowchart.WellFormed` — no repeated ids, no dangling names, parents first, no layout
- `Flowchart.IsForest` — no subgraph has two parents or lies in itself

## Main statements

- `Flowchart.WellFormed.isForest` — the subgraphs of a well-formed flowchart form a forest
- `Flowchart.WellFormed.complete_eq` — completion does not change a well-formed flowchart
-/

namespace FlowchartLayout

section Modify

variable {α β : Type} {f : α → α}

theorem map_modify_of_forall {g : α → β} (h : ∀ x, g (f x) = g x) (xs : List α) (i : Nat) :
    (xs.modify i f).map g = xs.map g := by
  refine List.ext_getElem? fun j => ?_
  rw [List.getElem?_map, List.getElem?_map, List.getElem?_modify]
  cases xs[j]? with
  | none => rfl
  | some x =>
    by_cases hij : i = j
    · simp only [hij, if_true, Option.map_eq_map, Option.map_some, h]
    · simp only [hij, if_false, Option.map_eq_map, Option.map_some]

theorem mem_or_exists_of_mem_modify {xs : List α} {i : Nat} {x : α} (h : x ∈ xs.modify i f) :
    x ∈ xs ∨ ∃ y ∈ xs, f y = x := by
  obtain ⟨j, hj⟩ := List.mem_iff_getElem?.1 h
  rw [List.getElem?_modify, Option.map_eq_map, Option.map_eq_some_iff] at hj
  obtain ⟨y, hy, hyx⟩ := hj
  have hmem : y ∈ xs := List.mem_of_getElem? hy
  split at hyx
  · exact .inr ⟨y, hmem, hyx⟩
  · exact .inl (hyx ▸ hmem)

end Modify

/-- Where no key is repeated, a record is found by its key. -/
theorem find?_of_nodup_map {α : Type} {key : α → String} {xs : List α} {x : α}
    (hkeys : (xs.map key).Nodup) (hx : x ∈ xs) : xs.find? (fun y => key y == key x) = some x := by
  have hsome : (xs.find? fun y => key y == key x).isSome :=
    List.find?_isSome.2 ⟨x, hx, beq_self_eq_true (key x)⟩
  obtain ⟨y, hy⟩ := Option.isSome_iff_exists.1 hsome
  have hkey : key y = key x := by simpa using List.find?_some hy
  rw [hy, List.inj_on_of_nodup_map hkeys (List.mem_of_find?_eq_some hy) hx hkey]

/-- Nothing is dropped from nodes with distinct ids. -/
theorem uniqueById_of_nodup {seen : List String} {ns : List Node}
    (hids : (ns.map (·.id)).Nodup) (hseen : ∀ n ∈ ns, n.id ∉ seen) :
    uniqueById seen ns = ns := by
  induction ns generalizing seen with
  | nil => rfl
  | cons n ns ih =>
    obtain ⟨hn, hns⟩ := List.nodup_cons.1 hids
    have hnew : seen.contains n.id = false := by
      rw [List.contains_eq_mem, decide_eq_false_iff_not]
      exact hseen n List.mem_cons_self
    rw [uniqueById, hnew, if_neg Bool.false_ne_true, ih hns]
    intro m hm hmem
    rcases List.mem_cons.1 hmem with heq | hmem
    · exact hn (List.mem_map.2 ⟨m, hm, heq⟩)
    · exact hseen m (List.mem_cons_of_mem n hm) hmem

namespace Flowchart

variable {fc : Flowchart}

def nodeIds (fc : Flowchart) : List String :=
  fc.nodes.map (·.id)

def subgraphIds (fc : Flowchart) : List String :=
  fc.subgraphs.map (·.id)

/-- No id is repeated, every name belongs to a record, every subgraph comes after its parent, and
there is no layout. -/
structure WellFormed (fc : Flowchart) : Prop where
  nodup_nodeIds : fc.nodeIds.Nodup
  nodup_subgraphIds : fc.subgraphIds.Nodup
  parent_earlier : ∀ i s p, fc.subgraphs[i]? = some s → s.parent = some p →
    p ∈ fc.subgraphIds.take i
  holder_mem : ∀ n ∈ fc.nodes, ∀ id, n.subgraph = some id → id ∈ fc.subgraphIds
  ends_known : ∀ e ∈ fc.edges, fc.containsId e.source = true ∧ fc.containsId e.target = true
  stale : fc.metrics.computed = false

/-- The subgraph `child` lies directly in the subgraph `parent`. -/
def IsParent (fc : Flowchart) (parent child : String) : Prop :=
  ∃ s ∈ fc.subgraphs, s.id = child ∧ s.parent = some parent

/-- Without repeated ids no subgraph has two parents. -/
theorem IsParent.unique (hids : fc.subgraphIds.Nodup) {p q child : String}
    (hp : fc.IsParent p child) (hq : fc.IsParent q child) : p = q := by
  obtain ⟨s, hs, rfl, hp⟩ := hp
  obtain ⟨t, ht, hid, hq⟩ := hq
  have hst : t = s := List.inj_on_of_nodup_map hids ht hs hid
  rw [hst, hp] at hq
  exact Option.some.inj hq

/-- No subgraph has two parents, and going from parent to parent ends. -/
structure IsForest (fc : Flowchart) : Prop where
  parent_unique : ∀ p q child, fc.IsParent p child → fc.IsParent q child → p = q
  wellFounded : WellFounded fc.IsParent

/-! ## Look-ups -/

theorem findNode?_isSome_iff {id : String} :
    (fc.findNode? id).isSome = true ↔ id ∈ fc.nodeIds := by
  simp [findNode?, nodeIds, List.find?_isSome]

theorem findSubgraph?_isSome_iff {id : String} :
    (fc.findSubgraph? id).isSome = true ↔ id ∈ fc.subgraphIds := by
  simp [findSubgraph?, subgraphIds, List.find?_isSome]

/-- Without repeated ids, a subgraph is found by its id. -/
theorem findSubgraph?_of_mem (hids : fc.subgraphIds.Nodup) {s : Subgraph}
    (hs : s ∈ fc.subgraphs) : fc.findSubgraph? s.id = some s :=
  find?_of_nodup_map hids hs

theorem containsId_iff {id : String} :
    fc.containsId id = true ↔ id ∈ fc.nodeIds ∨ id ∈ fc.subgraphIds := by
  rw [containsId, Bool.or_eq_true, findNode?_isSome_iff, findSubgraph?_isSome_iff]

theorem findNodeIndex?_eq_none_iff {id : String} :
    fc.findNodeIndex? id = none ↔ id ∉ fc.nodeIds := by
  simp [findNodeIndex?, nodeIds, List.findIdx?_eq_none_iff]

theorem findSubgraphIndex?_eq_none_iff {id : String} :
    fc.findSubgraphIndex? id = none ↔ id ∉ fc.subgraphIds := by
  simp [findSubgraphIndex?, subgraphIds, List.findIdx?_eq_none_iff]

theorem lt_length_of_findSubgraphIndex? {id : String} {i : Nat}
    (h : fc.findSubgraphIndex? id = some i) : i < fc.subgraphs.length := by
  obtain ⟨hi, -⟩ := List.findIdx?_eq_some_iff_getElem.1 h
  exact hi

/-! ## Ids after a change -/

@[simp]
theorem nodeIds_addNode (n : Node) : (fc.addNode n).nodeIds = fc.nodeIds ++ [n.id] := by
  simp only [nodeIds, addNode, invalidate, List.map_append, List.map_cons, List.map_nil]

@[simp]
theorem subgraphIds_addSubgraph (s : Subgraph) :
    (fc.addSubgraph s).subgraphIds = fc.subgraphIds ++ [s.id] := by
  simp only [subgraphIds, addSubgraph, invalidate, List.map_append, List.map_cons, List.map_nil]

theorem nodeIds_modifyNode {f : Node → Node} (h : ∀ n, (f n).id = n.id) (i : Nat) :
    (fc.modifyNode i f).nodeIds = fc.nodeIds :=
  map_modify_of_forall h fc.nodes i

theorem subgraphIds_modifySubgraph {f : Subgraph → Subgraph} (h : ∀ s, (f s).id = s.id)
    (i : Nat) : (fc.modifySubgraph i f).subgraphIds = fc.subgraphIds :=
  map_modify_of_forall h fc.subgraphs i

theorem subgraphs_styleNode (fc : Flowchart) (id : String) (style : NodeStyle) :
    (fc.styleNode id style).subgraphs = fc.subgraphs := by
  unfold styleNode modifyNodeById
  split <;> rfl

theorem containsId_congr {fc' : Flowchart} (hn : fc'.nodeIds = fc.nodeIds)
    (hs : fc'.subgraphIds = fc.subgraphIds) (id : String) :
    fc'.containsId id = fc.containsId id := by
  rw [Bool.eq_iff_iff, containsId_iff, containsId_iff, hn, hs]

theorem containsId_modifyNode {f : Node → Node} (h : ∀ n, (f n).id = n.id) (i : Nat)
    (id : String) : (fc.modifyNode i f).containsId id = fc.containsId id :=
  containsId_congr (nodeIds_modifyNode h i) rfl id

theorem containsId_modifySubgraph {f : Subgraph → Subgraph} (h : ∀ s, (f s).id = s.id) (i : Nat)
    (id : String) : (fc.modifySubgraph i f).containsId id = fc.containsId id :=
  @containsId_congr fc (fc.modifySubgraph i f) rfl (subgraphIds_modifySubgraph h i) id

/-! ## Completion -/

theorem missingIds_eq_nil
    (hends : ∀ e ∈ fc.edges, fc.containsId e.source = true ∧ fc.containsId e.target = true) :
    fc.missingIds = [] := by
  have hnone : ((fc.edges.flatMap fun e => [e.source, e.target]).filter
      (!fc.containsId ·)) = [] := by
    rw [List.filter_eq_nil_iff]
    intro id hid
    obtain ⟨e, he, hend⟩ := List.mem_flatMap.1 hid
    obtain ⟨hs, ht⟩ := hends e he
    rcases List.mem_pair.1 hend with rfl | rfl
    · simp only [hs, Bool.not_true, Bool.false_eq_true, not_false_eq_true]
    · simp only [ht, Bool.not_true, Bool.false_eq_true, not_false_eq_true]
  rw [missingIds, hnone, List.eraseDups_nil]

/-- Where no node is repeated, no end is missing and there is no layout, completion has nothing to
do. -/
theorem complete_eq_self (hids : fc.nodeIds.Nodup)
    (hends : ∀ e ∈ fc.edges, fc.containsId e.source = true ∧ fc.containsId e.target = true)
    (hstale : fc.metrics.computed = false) : fc.complete = fc := by
  have hnodes : uniqueById [] fc.nodes = fc.nodes :=
    uniqueById_of_nodup hids fun _ _ => List.not_mem_nil
  simp only [complete, hnodes, missingIds_eq_nil hends, List.map_nil, List.append_nil, invalidate]
  rw [← hstale]

/-! ## Changes of a well-formed flowchart -/

theorem wellFormed_empty (direction : Direction) : (empty direction).WellFormed where
  nodup_nodeIds := List.nodup_nil
  nodup_subgraphIds := List.nodup_nil
  parent_earlier := by
    intro i s p hs
    cases hs
  holder_mem := by
    intro n hn
    cases hn
  ends_known := by
    intro e he
    cases he
  stale := rfl

namespace WellFormed

theorem addNode (h : fc.WellFormed) {n : Node} (hid : n.id ∉ fc.nodeIds)
    (hholder : ∀ id, n.subgraph = some id → id ∈ fc.subgraphIds) : (fc.addNode n).WellFormed where
  nodup_nodeIds := by
    rw [nodeIds_addNode, ← List.concat_eq_append]
    exact h.nodup_nodeIds.concat hid
  nodup_subgraphIds := h.nodup_subgraphIds
  parent_earlier := h.parent_earlier
  holder_mem := by
    intro m hm
    rcases List.mem_append.1 hm with hm | hm
    · exact h.holder_mem m hm
    · rw [List.mem_singleton.1 hm]
      exact hholder
  ends_known := by
    -- what was known is still known
    have hmono {id : String} (hknown : fc.containsId id = true) :
        (fc.addNode n).containsId id = true := by
      rw [containsId_iff] at hknown ⊢
      rw [nodeIds_addNode]
      exact hknown.imp_left (List.mem_append_left _)
    intro e he
    obtain ⟨hs, ht⟩ := h.ends_known e he
    exact ⟨hmono hs, hmono ht⟩
  stale := rfl

theorem addEdge (h : fc.WellFormed) {e : Edge} (hs : fc.containsId e.source = true)
    (ht : fc.containsId e.target = true) : (fc.addEdge e).WellFormed where
  nodup_nodeIds := h.nodup_nodeIds
  nodup_subgraphIds := h.nodup_subgraphIds
  parent_earlier := h.parent_earlier
  holder_mem := h.holder_mem
  ends_known := by
    intro e' he'
    rcases List.mem_append.1 he' with he' | he'
    · exact h.ends_known e' he'
    · rw [List.mem_singleton.1 he']
      exact ⟨hs, ht⟩
  stale := rfl

theorem addSubgraph (h : fc.WellFormed) {s : Subgraph} (hid : s.id ∉ fc.subgraphIds)
    (hparent : ∀ p, s.parent = some p → p ∈ fc.subgraphIds) : (fc.addSubgraph s).WellFormed where
  nodup_nodeIds := h.nodup_nodeIds
  nodup_subgraphIds := by
    rw [subgraphIds_addSubgraph, ← List.concat_eq_append]
    exact h.nodup_subgraphIds.concat hid
  parent_earlier := by
    intro i t p ht hp
    rw [subgraphIds_addSubgraph, List.take_append]
    refine List.mem_append_left _ ?_
    -- the new subgraph is the last one, and all others are where they were
    rcases Nat.lt_trichotomy i fc.subgraphs.length with hlt | rfl | hgt
    · exact h.parent_earlier i t p (by rwa [← List.getElem?_append_left hlt]) hp
    · have hst : s = t := Option.some.inj (List.getElem?_concat_length.symm.trans ht)
      rw [subgraphIds, ← List.map_take, List.take_length]
      exact hparent p (hst ▸ hp)
    · have hnone : (fc.subgraphs ++ [s])[i]? = none := by
        rw [List.getElem?_eq_none_iff, List.length_append]
        exact hgt
      cases hnone.symm.trans ht
  holder_mem := by
    intro n hn id hid'
    rw [subgraphIds_addSubgraph]
    exact List.mem_append_left _ (h.holder_mem n hn id hid')
  ends_known := by
    have hmono {id : String} (hknown : fc.containsId id = true) :
        (fc.addSubgraph s).containsId id = true := by
      rw [containsId_iff] at hknown ⊢
      rw [subgraphIds_addSubgraph]
      exact hknown.imp_right (List.mem_append_left _)
    intro e he
    obtain ⟨hs, ht⟩ := h.ends_known e he
    exact ⟨hmono hs, hmono ht⟩
  stale := rfl

theorem modifyNode (h : fc.WellFormed) (i : Nat) {f : Node → Node} (hid : ∀ n, (f n).id = n.id)
    (hholder : ∀ n id, (f n).subgraph = some id → n.subgraph = some id ∨ id ∈ fc.subgraphIds) :
    (fc.modifyNode i f).WellFormed where
  nodup_nodeIds := by
    rw [nodeIds_modifyNode hid]
    exact h.nodup_nodeIds
  nodup_subgraphIds := h.nodup_subgraphIds
  parent_earlier := h.parent_earlier
  holder_mem := by
    intro m hm id hm'
    rcases mem_or_exists_of_mem_modify hm with hm | ⟨n, hn, rfl⟩
    · exact h.holder_mem m hm id hm'
    · exact (hholder n id hm').elim (h.holder_mem n hn id) fun hid => hid
  ends_known := by
    intro e he
    rw [containsId_modifyNode hid, containsId_modifyNode hid]
    exact h.ends_known e he
  stale := rfl

theorem modifySubgraph (h : fc.WellFormed) (i : Nat) {f : Subgraph → Subgraph}
    (hid : ∀ s, (f s).id = s.id) (hparent : ∀ s, (f s).parent = s.parent) :
    (fc.modifySubgraph i f).WellFormed where
  nodup_nodeIds := h.nodup_nodeIds
  nodup_subgraphIds := by
    rw [subgraphIds_modifySubgraph hid]
    exact h.nodup_subgraphIds
  parent_earlier := by
    intro j t p ht hp
    rw [subgraphIds_modifySubgraph hid]
    have ht : (fc.subgraphs.modify i f)[j]? = some t := ht
    rw [List.getElem?_modify, Option.map_eq_map, Option.map_eq_some_iff] at ht
    obtain ⟨s, hs, rfl⟩ := ht
    refine h.parent_earlier j s p hs ?_
    by_cases hij : i = j
    · simpa only [hij, if_true, hparent] using hp
    · simpa only [hij, if_false] using hp
  holder_mem := by
    intro n hn id hn'
    rw [subgraphIds_modifySubgraph hid]
    exact h.holder_mem n hn id hn'
  ends_known := by
    intro e he
    rw [containsId_modifySubgraph hid, containsId_modifySubgraph hid]
    exact h.ends_known e he
  stale := rfl

theorem styleNode (h : fc.WellFormed) (id : String) (style : NodeStyle) :
    (fc.styleNode id style).WellFormed := by
  unfold Flowchart.styleNode modifyNodeById
  split
  · exact h.modifyNode _ (fun _ => rfl) fun _ _ hholder => .inl hholder
  · exact h

/-! ## What well-formedness gives -/

theorem isForest (h : fc.WellFormed) : fc.IsForest where
  parent_unique p q child hp hq := hp.unique h.nodup_subgraphIds hq
  wellFounded := by
    -- the index of a parent is smaller than the index of its child
    refine Subrelation.wf ?_ (measure fun id => fc.subgraphIds.idxOf id).wf
    rintro p _ ⟨s, hs, rfl, hp⟩
    obtain ⟨i, hi⟩ := List.mem_iff_getElem?.1 hs
    have hid : fc.subgraphIds[i]? = some s.id := by rw [subgraphIds, List.getElem?_map, hi]; rfl
    have hchild : fc.subgraphIds.idxOf s.id = i := by
      obtain ⟨hlt, hget⟩ := List.getElem?_eq_some_iff.1 hid
      rw [← hget]
      exact h.nodup_subgraphIds.idxOf_getElem i hlt
    show fc.subgraphIds.idxOf p < fc.subgraphIds.idxOf s.id
    rw [hchild]
    obtain ⟨j, hj, hjp⟩ := List.mem_take_iff_getElem.1 (h.parent_earlier i s p hi hp)
    have hj' : j < fc.subgraphIds.length := Nat.lt_of_lt_of_le hj (Nat.min_le_right _ _)
    have hparent : fc.subgraphIds.idxOf p = j := by
      rw [← hjp]
      exact h.nodup_subgraphIds.idxOf_getElem j hj'
    rw [hparent]
    exact Nat.lt_of_lt_of_le hj (Nat.min_le_left _ _)

/-- Completion finds no repeated node and no missing one. -/
theorem complete_eq (h : fc.WellFormed) : fc.complete = fc :=
  complete_eq_self h.nodup_nodeIds h.ends_known h.stale

end WellFormed

end Flowchart

end FlowchartLayout
