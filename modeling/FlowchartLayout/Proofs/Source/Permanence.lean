import FlowchartLayout.Proofs.Source.Chains
import FlowchartLayout.Proofs.Source.Effects
import Mathlib.Data.List.Induction

/-!
# What later lines leave alone

A record keeps its place while further lines are read. A node keeps its first definition and its
first subgraph, and a subgraph its title and its parent; what can still change is said with the
line that changes it.

## Main definitions

- `firstDefinition?`, `settledShape` — the first definition of an id, and the shape and the label
  that come of it
- `Draft.Settled` — every node looks as its first definition says
- `Draft.NodeKept`, `Draft.SubgraphKept` — a record before and after some lines

## Main statements

- `Draft.Settled.readLines` — nodes look as their first definitions say, after any lines
- `Draft.WellFormed.nodeKept`, `Draft.subgraphKept` — a node and a subgraph over any lines
- `records_kept` — all of it, from the first line on
-/

namespace FlowchartLayout.Source

/-! ## First definitions -/

/-- The mentions in the lines, in order. -/
def mentionsIn (lines : List (List Char)) : List Mention :=
  lines.flatMap fun line => (Statement.ofLine line).mentions

/-- The first definition that comes with a mention of the id. -/
def firstDefinition? (id : String) (ms : List Mention) : Option NodeShape :=
  ms.findSome? fun m => if m.id = id then m.definition else none

/-- The shape and the label of a node by its first definition: a rectangle with the id as its label
if it has had none, and the id in place of an empty label. -/
def settledShape (id : String) : Option NodeShape → NodeShape
  | none => ⟨.rectangle, id⟩
  | some definition =>
    ⟨definition.shape, if definition.label.isEmpty then id else definition.label⟩

def shapeOf (n : Node) : NodeShape :=
  ⟨n.shape, n.label⟩

theorem firstDefinition?_append (id : String) (ms ms' : List Mention) :
    firstDefinition? id (ms ++ ms') = (firstDefinition? id ms).or (firstDefinition? id ms') :=
  List.findSome?_append

theorem firstDefinition?_concat (id : String) (ms : List Mention) (m : Mention) :
    firstDefinition? id (ms ++ [m]) =
      (firstDefinition? id ms).or (if m.id = id then m.definition else none) := by
  rw [firstDefinition?_append]
  congr 1
  exact List.findSome?_singleton

namespace Draft

variable {d : Draft} {ms : List Mention}

/-- Every node has the shape and the label that its first definition gives; the defined ids are
those of the nodes that have had one. -/
structure Settled (ms : List Mention) (d : Draft) : Prop where
  shape_eq : ∀ n ∈ d.flowchart.nodes, shapeOf n = settledShape n.id (firstDefinition? n.id ms)
  defined_iff : ∀ id ∈ d.flowchart.nodeIds, id ∈ d.defined ↔ (firstDefinition? id ms).isSome = true
  defined_mem : ∀ id ∈ d.defined, id ∈ d.flowchart.nodeIds
  known : ∀ m ∈ ms, d.Knows m.id

/-- An id that is not known has had no definition. -/
theorem Settled.firstDefinition?_eq_none (h : d.Settled ms) {id : String} (hid : ¬ d.Knows id) :
    firstDefinition? id ms = none := by
  refine List.findSome?_eq_none_iff.2 fun m hm => if_neg ?_
  rintro rfl
  exact hid (h.known m hm)

/-- A node after a mention was there before it, or is new. -/
theorem mem_nodes_mention (hids : d.flowchart.nodeIds.Nodup) {id : String} {n' : Node}
    (h : n' ∈ (d.mention id).flowchart.nodes) :
    (∃ n ∈ d.flowchart.nodes, ∃ subgraph, n' = { n with subgraph }) ∨
      ¬ d.Knows id ∧ n' = { Node.implicit id with subgraph := d.scope } := by
  rw [nodes_mention hids, List.mem_append] at h
  rcases h with h | h
  · obtain ⟨n, hn, rfl⟩ := List.mem_map.1 h
    refine .inl ⟨n, hn, ?_⟩
    split <;> exact ⟨_, rfl⟩
  · split at h
    · cases h
    · next hunknown => exact .inr ⟨hunknown, List.mem_singleton.1 h⟩

theorem Settled.mention (h : d.Settled ms) (hids : d.flowchart.nodeIds.Nodup) (id : String) :
    (d.mention id).Settled ms where
  shape_eq := by
    intro n' hn'
    rcases mem_nodes_mention hids hn' with ⟨n, hn, subgraph, rfl⟩ | ⟨hnew, rfl⟩
    · exact h.shape_eq n hn
    · show shapeOf _ = settledShape id (firstDefinition? id ms)
      rw [h.firstDefinition?_eq_none hnew]
      rfl
  defined_iff := by
    intro x hx
    rw [defined_mention]
    by_cases hold : x ∈ d.flowchart.nodeIds
    · exact h.defined_iff x hold
    · -- a new node has had no definition
      obtain ⟨rfl, hsubgraph⟩ := ((mem_nodeIds_mention hids).1 hx).resolve_left hold
      have hnew : ¬ d.Knows id := fun hknown => (knows_iff.1 hknown).elim hold hsubgraph
      rw [h.firstDefinition?_eq_none hnew]
      exact iff_of_false (fun hmem => hold (h.defined_mem id hmem)) Bool.false_ne_true
  defined_mem := by
    intro x hx
    rw [defined_mention] at hx
    exact (mem_nodeIds_mention hids).2 (.inl (h.defined_mem x hx))
  known m hm := (h.known m hm).mention id

/-- A definition settles the nodes that have had none. -/
theorem Settled.define (h : d.Settled ms) (hwf : d.WellFormed) (id : String)
    (definition : NodeShape) :
    (d.define id definition).Settled (ms ++ [⟨id, some definition⟩]) := by
  have hmention := h.mention hwf.flowchart.nodup_nodeIds id
  have hids := (hwf.mention id).flowchart.nodup_nodeIds
  have hknown : ∀ m ∈ ms ++ [⟨id, some definition⟩], (d.define id definition).Knows m.id := by
    intro m hm
    rcases List.mem_append.1 hm with hm | hm
    · exact (h.known m hm).define id definition
    · rw [List.mem_singleton.1 hm]
      exact knows_define d id definition
  -- the new definition counts for its own id, unless there is an earlier one
  have hother (x : String) (hx : x ≠ id ∨ (firstDefinition? x ms).isSome = true) :
      firstDefinition? x (ms ++ [⟨id, some definition⟩]) = firstDefinition? x ms := by
    rw [firstDefinition?_concat]
    rcases hx with hx | hx
    · rw [if_neg hx.symm, Option.or_none]
    · exact Option.or_of_isSome hx
  by_cases hnew : id ∈ (d.mention id).flowchart.nodeIds ∧ id ∉ d.defined
  · obtain ⟨hmem, hundefined⟩ := hnew
    have hnone : firstDefinition? id ms = none := by
      rw [← Option.not_isSome_iff_eq_none, ← hmention.defined_iff id hmem, defined_mention]
      exact hundefined
    have hsome : firstDefinition? id (ms ++ [⟨id, some definition⟩]) = some definition := by
      rw [firstDefinition?_concat, hnone, if_pos rfl, Option.none_or]
    refine ⟨fun n' hn' => ?_, fun x hx => ?_, fun x hx => ?_, hknown⟩
    · rw [nodes_define hids hundefined] at hn'
      obtain ⟨n, hn, rfl⟩ := List.mem_map.1 hn'
      split
      · next hid =>
        show _ = settledShape n.id (firstDefinition? n.id _)
        rw [hid, hsome]
        rfl
      · next hid =>
        rw [hother n.id (.inl hid)]
        exact hmention.shape_eq n hn
    · rw [nodeIds_define] at hx
      rw [defined_define hmem hundefined, List.mem_cons]
      by_cases hxid : x = id
      · rw [hxid, hsome]
        exact iff_of_true (.inl rfl) rfl
      · rw [hother x (.inl hxid), or_iff_right hxid, ← defined_mention d id]
        exact hmention.defined_iff x hx
    · rw [nodeIds_define]
      rw [defined_define hmem hundefined] at hx
      rcases List.mem_cons.1 hx with rfl | hx
      · exact hmem
      · exact hmention.defined_mem x (by rwa [defined_mention])
  · -- the definition is ignored: there is an earlier one, or the id belongs to a subgraph
    have hdefined (hmem : id ∈ (d.mention id).flowchart.nodeIds) : id ∈ d.defined :=
      not_not.1 fun hundefined => hnew ⟨hmem, hundefined⟩
    have hkeep (x : String) (hx : x ∈ (d.mention id).flowchart.nodeIds) :
        firstDefinition? x (ms ++ [⟨id, some definition⟩]) = firstDefinition? x ms := by
      refine hother x (or_iff_not_imp_left.2 fun hxid => ?_)
      rw [not_not.1 hxid] at hx ⊢
      rw [← hmention.defined_iff id hx, defined_mention]
      exact hdefined hx
    rw [define_eq_mention hdefined] at hknown ⊢
    refine ⟨fun n hn => ?_, fun x hx => ?_, hmention.defined_mem, hknown⟩
    · rw [hkeep n.id (List.mem_map_of_mem hn)]
      exact hmention.shape_eq n hn
    · rw [hkeep x hx]
      exact hmention.defined_iff x hx

/-- A mention without a definition is none. -/
theorem Settled.introduce (h : d.Settled ms) (hwf : d.WellFormed) (m : Mention) :
    (d.introduce m).Settled (ms ++ [m]) := by
  rcases introduce_cases d m with ⟨hdef, heq⟩ | ⟨definition, hdef, heq⟩
  · have hkeep (x : String) : firstDefinition? x (ms ++ [m]) = firstDefinition? x ms := by
      rw [firstDefinition?_concat, hdef, ite_self, Option.or_none]
    have hmention := h.mention hwf.flowchart.nodup_nodeIds m.id
    rw [heq]
    refine ⟨fun n hn => ?_, fun x hx => ?_, hmention.defined_mem, fun m' hm' => ?_⟩
    · rw [hkeep]
      exact hmention.shape_eq n hn
    · rw [hkeep]
      exact hmention.defined_iff x hx
    · rcases List.mem_append.1 hm' with hm' | hm'
      · exact hmention.known m' hm'
      · rw [List.mem_singleton.1 hm']
        exact knows_mention d m.id
  · obtain ⟨id, _⟩ := m
    subst hdef
    rw [heq]
    exact h.define hwf id definition

theorem Settled.introductions (h : d.Settled ms) (hwf : d.WellFormed) (ms' : List Mention) :
    (ms'.foldl Draft.introduce d).Settled (ms ++ ms') := by
  induction ms' generalizing d ms with
  | nil => rwa [List.append_nil]
  | cons m ms' ih =>
    have hrest := ih (h.introduce hwf m) (hwf.introduce m)
    rwa [List.append_assoc] at hrest

/-- The nodes may change as long as ids, shapes and labels stay. -/
theorem Settled.congr {d' : Draft} (h : d.Settled ms)
    (hnodes : d'.flowchart.nodes.map (fun n => (n.id, shapeOf n)) =
      d.flowchart.nodes.map fun n => (n.id, shapeOf n))
    (hdefined : d'.defined = d.defined)
    (hsubgraphs : d.flowchart.subgraphIds ⊆ d'.flowchart.subgraphIds) : d'.Settled ms := by
  have hids : d'.flowchart.nodeIds = d.flowchart.nodeIds := by
    have := congrArg (List.map Prod.fst) hnodes
    rwa [List.map_map, List.map_map] at this
  refine ⟨fun n' hn' => ?_, ?_, ?_, fun m hm => ?_⟩
  · have hmem : (n'.id, shapeOf n') ∈ d.flowchart.nodes.map fun n => (n.id, shapeOf n) :=
      hnodes ▸ List.mem_map_of_mem hn'
    obtain ⟨n, hn, heq⟩ := List.mem_map.1 hmem
    obtain ⟨hid, hshape⟩ := Prod.mk.inj heq
    rw [← hid, ← hshape]
    exact h.shape_eq n hn
  · rw [hids, hdefined]
    exact h.defined_iff
  · rw [hids, hdefined]
    exact h.defined_mem
  · rw [knows_iff, hids]
    exact (knows_iff.1 (h.known m hm)).imp_right fun hid => hsubgraphs hid

theorem Settled.openSubgraph (h : d.Settled ms) (id title : String) :
    (d.openSubgraph id title).Settled ms := by
  refine h.congr (by rw [nodes_openSubgraph]) (defined_openSubgraph d id title) ?_
  exact ((subgraphs_prefix_openSubgraph d id title).map _).subset

/-- A statement adds its mentions to those by which the nodes are settled. -/
theorem Settled.apply (h : d.Settled ms) (hwf : d.WellFormed) {s : Statement}
    (hs : s.HasTargets) : (d.apply s).Settled (ms ++ s.mentions) := by
  cases s with
  | chain first hops =>
    refine (h.introductions hwf _).congr ?_ (defined_apply_chain d hs) ?_
    · rw [nodes_apply_chain d hs]
    · rw [Flowchart.subgraphIds, Flowchart.subgraphIds, subgraphs_apply_chain d hs,
        subgraphs_introductions]
      exact List.Subset.refl _
  | subgraph id title =>
    show Settled (ms ++ []) _
    rw [List.append_nil]
    exact h.openSubgraph id title
  | anonymousSubgraph =>
    show Settled (ms ++ []) _
    rw [List.append_nil]
    have hcounted : Settled ms { d with anonymous := d.anonymous + 1 } := ⟨h.1, h.2, h.3, h.4⟩
    exact hcounted.openSubgraph _ _
  | endSubgraph =>
    show Settled (ms ++ []) _
    rw [List.append_nil]
    exact ⟨h.1, h.2, h.3, h.4⟩
  | direction direction =>
    show Settled (ms ++ []) _
    rw [List.append_nil]
    refine h.congr ?_ (defined_setDirection d direction) ?_
    · rw [Draft.apply, nodes_setDirection]
    · rw [Draft.apply, subgraphIds_setDirection]
      exact List.Subset.refl _
  | style id style =>
    show Settled (ms ++ []) _
    rw [List.append_nil]
    refine h.congr ?_ rfl ?_
    · show (d.flowchart.styleNode id style).nodes.map _ = _
      rw [Flowchart.nodes_styleNode hwf.flowchart.nodup_nodeIds, List.map_map]
      refine List.map_congr_left fun n _ => ?_
      simp only [Function.comp_apply]
      split <;> rfl
    · show d.flowchart.subgraphIds ⊆ (d.flowchart.styleNode id style).subgraphIds
      rw [Flowchart.subgraphIds, Flowchart.subgraphIds, Flowchart.subgraphs_styleNode]
      exact List.Subset.refl _
  | blank =>
    show Settled (ms ++ []) _
    rw [List.append_nil]
    exact h

theorem settled_start (direction : Direction) : (start direction).Settled [] where
  shape_eq := by
    intro n hn
    cases hn
  defined_iff := by
    intro id hid
    cases hid
  defined_mem := by
    intro id hid
    cases hid
  known := by
    intro m hm
    cases hm

theorem Settled.readLines (h : d.Settled ms) (hwf : d.WellFormed) (lines : List (List Char)) :
    (lines.foldl Draft.readLine d).Settled (ms ++ mentionsIn lines) := by
  induction lines generalizing d ms with
  | nil => exact (List.append_nil ms).symm ▸ h
  | cons line lines ih =>
    have hs := hasTargets_ofLine line
    have hrest := ih (h.apply hwf hs) (hwf.readLine line)
    rwa [List.append_assoc] at hrest

end Draft

/-! ## Nodes -/

/-- The style that a statement gives to the node with the id. -/
def Statement.styleFor? (id : String) : Statement → Option NodeStyle
  | .style id' given => if id' = id then some given else none
  | _ => none

/-- The styles that the lines give to the node with the id, in order. -/
def stylesFor (id : String) (lines : List (List Char)) : List NodeStyle :=
  lines.filterMap fun line => (Statement.ofLine line).styleFor? id

theorem stylesFor_concat (id : String) (lines : List (List Char)) (line : List Char) :
    stylesFor id (lines ++ [line]) =
      stylesFor id lines ++ ((Statement.ofLine line).styleFor? id).toList := by
  simp only [stylesFor, List.filterMap_append, List.filterMap_cons, List.filterMap_nil]
  cases (Statement.ofLine line).styleFor? id <;> rfl

/-- Apart from its shape, its label and its subgraph, the node is what the styles make of it. -/
def Restyled (styles : List NodeStyle) (n n' : Node) : Prop :=
  n' = { styles.foldl Node.withStyle n with
    shape := n'.shape, label := n'.label, subgraph := n'.subgraph }

namespace Restyled

variable {styles styles' : List NodeStyle} {n n' n'' : Node}

theorem refl (n : Node) : Restyled [] n n := rfl

theorem foldl_withStyle_with (styles : List NodeStyle) (n : Node) (shape : Shape) (label : String)
    (subgraph : Option String) :
    styles.foldl Node.withStyle { n with shape, label, subgraph } =
      { styles.foldl Node.withStyle n with shape, label, subgraph } := by
  induction styles generalizing n with
  | nil => rfl
  | cons _ styles ih => exact ih (n.withStyle _)

theorem trans (h : Restyled styles n n') (h' : Restyled styles' n' n'') :
    Restyled (styles ++ styles') n n'' := by
  unfold Restyled at h h' ⊢
  rw [h, foldl_withStyle_with] at h'
  rw [List.foldl_append]
  exact h'

theorem id_eq (h : Restyled styles n n') : n'.id = n.id := by
  have hid : (styles.foldl Node.withStyle n).id = n.id := by
    refine List.foldlRecOn (motive := fun m => m.id = n.id) styles Node.withStyle rfl ?_
    exact fun _ h _ _ => h
  rw [h]
  exact hid

end Restyled

/-- The node has kept its subgraph, or was in none, was mentioned and is in the scope now. -/
def Adopted (scope : Option String) (mentioned : Prop) (n n' : Node) : Prop :=
  n'.subgraph = n.subgraph ∨
    n.subgraph = none ∧ mentioned ∧ ∃ id, scope = some id ∧ n'.subgraph = some id

theorem Adopted.trans {scope : Option String} {p q : Prop} {n n' n'' : Node}
    (h : Adopted scope p n n') (h' : Adopted scope q n' n'') : Adopted scope (p ∨ q) n n'' := by
  rcases h with h | ⟨hnone, hp, id, hscope, hid⟩
  · rcases h' with h' | ⟨hnone, hq, hset⟩
    · exact .inl (h'.trans h)
    · exact .inr ⟨h.symm.trans hnone, .inr hq, hset⟩
  · rcases h' with h' | ⟨hnone', -⟩
    · exact .inr ⟨hnone, .inl hp, id, hscope, h'.trans hid⟩
    · rw [hid] at hnone'
      cases hnone'

namespace Draft

variable {d : Draft} {i : Nat} {n : Node}

/-- A node after a mention of an id. -/
theorem exists_node_mention (hids : d.flowchart.nodeIds.Nodup)
    (hn : d.flowchart.nodes[i]? = some n) (id : String) :
    ∃ n', (d.mention id).flowchart.nodes[i]? = some n' ∧ Restyled [] n n' ∧
      Adopted d.scope (id = n.id) n n' := by
  have hget : (d.mention id).flowchart.nodes[i]? =
      some (if n.id = id then { n with subgraph := n.subgraph.or d.scope } else n) := by
    rw [nodes_mention hids, List.getElem?_append_left, List.getElem?_map, hn, Option.map_some]
    rw [List.length_map]
    exact (List.getElem?_eq_some_iff.1 hn).1
  refine ⟨_, hget, ?_⟩
  split
  · next hid =>
    refine ⟨rfl, ?_⟩
    cases hholder : n.subgraph with
    | some s => exact .inl (by rw [hholder, Option.some_or])
    | none =>
      cases hscope : d.scope with
      | none => exact .inl (by rw [hholder, Option.none_or])
      | some s => exact .inr ⟨hholder, hid.symm, s, rfl, by rw [Option.none_or]⟩
  · exact ⟨rfl, .inl rfl⟩

theorem exists_node_introduce (h : d.WellFormed) (hn : d.flowchart.nodes[i]? = some n)
    (m : Mention) :
    ∃ n', (d.introduce m).flowchart.nodes[i]? = some n' ∧ Restyled [] n n' ∧
      Adopted d.scope (m.id = n.id) n n' := by
  obtain ⟨n', hn', hrestyled, hadopted⟩ :=
    exists_node_mention h.flowchart.nodup_nodeIds hn m.id
  rcases introduce_cases d m with ⟨-, heq⟩ | ⟨definition, -, heq⟩
  · rw [heq]
    exact ⟨n', hn', hrestyled, hadopted⟩
  · rw [heq]
    rcases define_cases d m.id definition with heq | ⟨j, label, heq⟩
    · rw [heq]
      exact ⟨n', hn', hrestyled, hadopted⟩
    · -- a definition changes the shape and the label of some node
      have hget : (d.define m.id definition).flowchart.nodes[i]? =
          some (if j = i then { n' with shape := definition.shape, label } else n') := by
        rw [heq]
        show ((d.mention m.id).flowchart.nodes.modify j _)[i]? = _
        rw [List.getElem?_modify, hn']
        rfl
      refine ⟨_, hget, ?_⟩
      split
      · exact ⟨hrestyled.trans rfl, hadopted⟩
      · exact ⟨hrestyled, hadopted⟩

theorem exists_node_introductions (h : d.WellFormed) (hn : d.flowchart.nodes[i]? = some n)
    (ms : List Mention) :
    ∃ n', (ms.foldl introduce d).flowchart.nodes[i]? = some n' ∧ Restyled [] n n' ∧
      Adopted d.scope (∃ m ∈ ms, m.id = n.id) n n' := by
  induction ms generalizing d n with
  | nil => exact ⟨n, hn, rfl, .inl rfl⟩
  | cons m ms ih =>
    obtain ⟨n', hn', hrestyled, hadopted⟩ := exists_node_introduce h hn m
    obtain ⟨n'', hn'', hrestyled', hadopted'⟩ := ih (h.introduce m) hn'
    rw [scope_introduce, hrestyled.id_eq] at hadopted'
    refine ⟨n'', hn'', hrestyled.trans hrestyled', ?_⟩
    simpa only [List.exists_mem_cons_iff] using hadopted.trans hadopted'

/-- A node after a statement: styled by it, and perhaps adopted by the innermost open subgraph. -/
theorem exists_node_apply (h : d.WellFormed) {s : Statement} (hs : s.HasTargets)
    (hn : d.flowchart.nodes[i]? = some n) :
    ∃ n', (d.apply s).flowchart.nodes[i]? = some n' ∧ Restyled (s.styleFor? n.id).toList n n' ∧
      Adopted d.scope (s.Mentions n.id) n n' := by
  have hsame (heq : (d.apply s).flowchart.nodes = d.flowchart.nodes)
      (hstyle : s.styleFor? n.id = none) :
      ∃ n', (d.apply s).flowchart.nodes[i]? = some n' ∧
        Restyled (s.styleFor? n.id).toList n n' ∧
        Adopted d.scope (s.Mentions n.id) n n' := by
    rw [heq, hstyle]
    exact ⟨n, hn, rfl, .inl rfl⟩
  cases s with
  | chain first hops =>
    rw [nodes_apply_chain d hs]
    exact exists_node_introductions h hn _
  | style id style =>
    have hget : (d.apply (.style id style)).flowchart.nodes[i]? =
        some (if n.id = id then n.withStyle style else n) := by
      show (d.flowchart.styleNode id style).nodes[i]? = _
      rw [Flowchart.nodes_styleNode h.flowchart.nodup_nodeIds, List.getElem?_map, hn]
      rfl
    refine ⟨_, hget, ?_⟩
    by_cases hid : n.id = id
    · rw [if_pos hid, Statement.styleFor?, if_pos hid.symm]
      exact ⟨rfl, .inl rfl⟩
    · rw [if_neg hid, Statement.styleFor?, if_neg (Ne.symm hid)]
      exact ⟨rfl, .inl rfl⟩
  | subgraph id title => exact hsame (nodes_openSubgraph d id title) rfl
  | anonymousSubgraph => exact hsame (nodes_openSubgraph _ _ _) rfl
  | endSubgraph => exact hsame rfl rfl
  | direction direction => exact hsame (nodes_setDirection d direction) rfl
  | blank => exact hsame rfl rfl

/-- A node before and after some lines. It was styled by the lines that name it. If its subgraph
has changed, it was in none, and a line has mentioned it while its subgraph was the innermost open
one. -/
structure NodeKept (d : Draft) (lines : List (List Char)) (n n' : Node) : Prop where
  restyled : Restyled (stylesFor n.id lines) n n'
  subgraph : n'.subgraph = n.subgraph ∨ n.subgraph = none ∧ ∃ before line after id,
    lines = before ++ line :: after ∧ (Statement.ofLine line).Mentions n.id ∧
      (before.foldl Draft.readLine d).scope = some id ∧ n'.subgraph = some id

theorem WellFormed.nodeKept (h : d.WellFormed) (hn : d.flowchart.nodes[i]? = some n)
    (lines : List (List Char)) :
    ∃ n', (lines.foldl Draft.readLine d).flowchart.nodes[i]? = some n' ∧
      NodeKept d lines n n' := by
  induction lines using List.reverseRecOn with
  | nil => exact ⟨n, hn, rfl, .inl rfl⟩
  | append_singleton lines line ih =>
    obtain ⟨n', hn', hrestyled, hsubgraph⟩ := ih
    obtain ⟨n'', hn'', hrestyled', hadopted⟩ :=
      exists_node_apply (h.readLines lines) (hasTargets_ofLine line) hn'
    rw [hrestyled.id_eq] at hrestyled' hadopted
    refine ⟨n'', ?_, ?_, ?_⟩
    · rw [List.foldl_append]
      exact hn''
    · rw [stylesFor_concat]
      exact hrestyled.trans hrestyled'
    · rcases hsubgraph with hkept | ⟨hnone, before, line', after, id, rfl, hset⟩
      · rcases hadopted with hkept' | ⟨hnone, hmentioned, id, hscope, hid⟩
        · exact .inl (hkept'.trans hkept)
        · exact .inr ⟨hkept.symm.trans hnone, lines, line, [], id, rfl, hmentioned, hscope, hid⟩
      · -- what an earlier line has set, this one does not change
        obtain ⟨hmentioned, hscope, hid⟩ := hset
        rcases hadopted with hkept' | ⟨hnone', -⟩
        · refine .inr ⟨hnone, before, line', after ++ [line], id, ?_, hmentioned, hscope,
            hkept'.trans hid⟩
          rw [List.append_assoc, List.cons_append]
        · rw [hid] at hnone'
          cases hnone'

/-! ## Subgraphs -/

/-- A subgraph before and after some lines. Only its direction can have changed, by a line that
gives a direction while it is the innermost open one. -/
structure SubgraphKept (d : Draft) (lines : List (List Char)) (i : Nat) (s s' : Subgraph) :
    Prop where
  others : s' = { s with direction := s'.direction }
  direction : s'.direction = s.direction ∨ ∃ before line after direction,
    lines = before ++ line :: after ∧ Statement.ofLine line = .direction direction ∧
      (before.foldl Draft.readLine d).openSubgraphs.head? = some i ∧
        s'.direction = some direction

theorem exists_subgraph_setDirection {s : Subgraph} (hs : d.flowchart.subgraphs[i]? = some s)
    (direction : Direction) :
    ∃ s', (d.setDirection direction).flowchart.subgraphs[i]? = some s' ∧
      s' = { s with direction := s'.direction } ∧
      (s'.direction = s.direction ∨
        d.openSubgraphs.head? = some i ∧ s'.direction = some direction) := by
  unfold setDirection
  split
  · exact ⟨s, hs, rfl, .inl rfl⟩
  · next j _ hopen =>
    have hget :
        (d.flowchart.modifySubgraph j ({ · with direction := some direction })).subgraphs[i]? =
          some (if j = i then { s with direction := some direction } else s) := by
      show (d.flowchart.subgraphs.modify j _)[i]? = _
      rw [List.getElem?_modify, hs]
      rfl
    refine ⟨_, hget, ?_⟩
    split
    · next hij => exact ⟨rfl, .inr ⟨by rw [hopen, hij]; rfl, rfl⟩⟩
    · exact ⟨rfl, .inl rfl⟩

theorem exists_subgraph_apply {st : Statement} (hst : st.HasTargets) {s : Subgraph}
    (hs : d.flowchart.subgraphs[i]? = some s) :
    ∃ s', (d.apply st).flowchart.subgraphs[i]? = some s' ∧
      s' = { s with direction := s'.direction } ∧
      (s'.direction = s.direction ∨ ∃ direction, st = .direction direction ∧
        d.openSubgraphs.head? = some i ∧ s'.direction = some direction) := by
  have hsame (hold : d.flowchart.subgraphs <+: (d.apply st).flowchart.subgraphs) :
      ∃ s', (d.apply st).flowchart.subgraphs[i]? = some s' ∧
        s' = { s with direction := s'.direction } ∧
        (s'.direction = s.direction ∨ ∃ direction, st = .direction direction ∧
          d.openSubgraphs.head? = some i ∧ s'.direction = some direction) := by
    obtain ⟨added, hadded⟩ := hold
    refine ⟨s, ?_, rfl, .inl rfl⟩
    rw [← hadded, List.getElem?_append_left (List.getElem?_eq_some_iff.1 hs).1, hs]
  cases st with
  | direction direction =>
    obtain ⟨s', hs', hothers, hdirection⟩ := exists_subgraph_setDirection hs direction
    exact ⟨s', hs', hothers, hdirection.imp_right fun h => ⟨direction, rfl, h⟩⟩
  | chain first hops =>
    refine hsame ?_
    simp only [subgraphs_apply_chain d hst, List.prefix_rfl]
  | style id style =>
    refine hsame ?_
    show _ <+: (d.flowchart.styleNode id style).subgraphs
    simp only [Flowchart.subgraphs_styleNode, List.prefix_rfl]
  | subgraph id title => exact hsame (subgraphs_prefix_openSubgraph d id title)
  | anonymousSubgraph =>
    exact hsame (subgraphs_prefix_openSubgraph { d with anonymous := d.anonymous + 1 } _ _)
  | endSubgraph => exact hsame List.prefix_rfl
  | blank => exact hsame List.prefix_rfl

theorem subgraphKept {s : Subgraph} (hs : d.flowchart.subgraphs[i]? = some s)
    (lines : List (List Char)) :
    ∃ s', (lines.foldl Draft.readLine d).flowchart.subgraphs[i]? = some s' ∧
      SubgraphKept d lines i s s' := by
  induction lines using List.reverseRecOn with
  | nil => exact ⟨s, hs, rfl, .inl rfl⟩
  | append_singleton lines line ih =>
    obtain ⟨s', hs', hothers, hdirection⟩ := ih
    obtain ⟨s'', hs'', hothers', hdirection'⟩ :=
      exists_subgraph_apply (hasTargets_ofLine line) hs'
    refine ⟨s'', ?_, ?_, ?_⟩
    · rw [List.foldl_append]
      exact hs''
    · rw [hothers] at hothers'
      exact hothers'
    · rcases hdirection' with hkept' | ⟨direction, hline, hopen, hset⟩
      · -- the direction is that of the lines before
        refine hdirection.imp hkept'.trans ?_
        rintro ⟨before, line', after, direction, rfl, hline, hopen, hset⟩
        refine ⟨before, line', after ++ [line], direction, ?_, hline, hopen, hkept'.trans hset⟩
        rw [List.append_assoc, List.cons_append]
      · exact .inr ⟨lines, line, [], direction, rfl, hline, hopen, hset⟩

/-! ## Edges -/

theorem edges_prefix_apply (d : Draft) (st : Statement) :
    d.flowchart.edges <+: (d.apply st).flowchart.edges := by
  have hsame (heq : (d.apply st).flowchart.edges = d.flowchart.edges) :
      d.flowchart.edges <+: (d.apply st).flowchart.edges := by
    simp only [heq, List.prefix_rfl]
  cases st with
  | chain first hops =>
    rw [edges_apply_chain]
    exact List.prefix_append _ _
  | direction direction => exact hsame (edges_setDirection d direction)
  | style id style => exact hsame (Flowchart.edges_styleNode _ id style)
  | subgraph id title => exact hsame (edges_openSubgraph d id title)
  | anonymousSubgraph => exact hsame (edges_openSubgraph _ _ _)
  | endSubgraph => exact hsame rfl
  | blank => exact hsame rfl

theorem edges_prefix_readLines (d : Draft) (lines : List (List Char)) :
    d.flowchart.edges <+: (lines.foldl Draft.readLine d).flowchart.edges := by
  induction lines generalizing d with
  | nil => exact List.prefix_rfl
  | cons line lines ih => exact (edges_prefix_apply d _).trans (ih (d.readLine line))

end Draft

/-! ## From the first line on -/

/-- What further lines leave alone, whatever lines have been read. Nodes look as their first
definitions say; nodes, edges and subgraphs keep their places; a node that has had a definition
keeps its shape and its label, one that is in a subgraph stays there, and a subgraph keeps all but
its direction. Every other change has its line. -/
theorem records_kept (direction : Direction) (lines more : List (List Char)) :
    let d := lines.foldl Draft.readLine (Draft.start direction)
    let d' := more.foldl Draft.readLine d
    d.Settled (mentionsIn lines) ∧
    (∀ (i : Nat) n, d.flowchart.nodes[i]? = some n → ∃ n', d'.flowchart.nodes[i]? = some n' ∧
      n'.id = n.id ∧ Draft.NodeKept d more n n' ∧ (n.id ∈ d.defined → shapeOf n' = shapeOf n)) ∧
    d.flowchart.edges <+: d'.flowchart.edges ∧
    (∀ (i : Nat) s, d.flowchart.subgraphs[i]? = some s →
      ∃ s', d'.flowchart.subgraphs[i]? = some s' ∧ Draft.SubgraphKept d more i s s') := by
  intro d d'
  have hwf : d.WellFormed := (Draft.wellFormed_start direction).readLines lines
  have hsettled : d.Settled (mentionsIn lines) :=
    (Draft.settled_start direction).readLines (Draft.wellFormed_start direction) lines
  refine ⟨hsettled, fun i n hn => ?_, d.edges_prefix_readLines more,
    fun i s hs => Draft.subgraphKept hs more⟩
  obtain ⟨n', hn', hkept⟩ := hwf.nodeKept hn more
  have hid := hkept.restyled.id_eq
  refine ⟨n', hn', hid, hkept, fun hdefined => ?_⟩
  -- the first definition stays the first
  have hmem : n ∈ d.flowchart.nodes := List.mem_of_getElem? hn
  have hfirst := (hsettled.defined_iff n.id (List.mem_map_of_mem hmem)).1 hdefined
  rw [(hsettled.readLines hwf more).shape_eq n' (List.mem_of_getElem? hn'), hid,
    firstDefinition?_append, Option.or_of_isSome hfirst, ← hsettled.shape_eq n hmem]

/-! ## A node that is adopted, styled and defined again -/

def earlierLines : List (List Char) :=
  ["B(b) --> A".toList, "subgraph S".toList]

def laterLines : List (List Char) :=
  ["direction LR".toList, "A[a] --> B[c]".toList, "style B stroke-width:3".toList, "end".toList,
    "A & B".toList]

/-- The node was defined outside of the subgraph, which adopts it, and which gets a direction. -/
theorem kept_laterLines :
    ∃ n n' s s',
      let d := earlierLines.foldl Draft.readLine (Draft.start .topToBottom)
      let d' := laterLines.foldl Draft.readLine d
      d.flowchart.nodes[0]? = some n ∧ d'.flowchart.nodes[0]? = some n' ∧
      d.flowchart.subgraphs[0]? = some s ∧ d'.flowchart.subgraphs[0]? = some s' ∧
      Draft.NodeKept d laterLines n n' ∧ Draft.SubgraphKept d laterLines 0 s s' ∧
      (n.id, n.subgraph, shapeOf n) = ("B", none, ⟨.rounded, "b"⟩) ∧
      (n'.id, n'.subgraph, shapeOf n') = ("B", some "S", ⟨.rounded, "b"⟩) ∧
      (s.direction, s'.direction) = (none, some .leftToRight) := by
  obtain ⟨-, hnodes, -, hsubgraphs⟩ := records_kept .topToBottom earlierLines laterLines
  obtain ⟨n', hn', hid, hkept, hshape⟩ := hnodes 0 _ (List.getElem?_eq_getElem (by decide +kernel))
  obtain ⟨s', hs', hkept'⟩ := hsubgraphs 0 _ (List.getElem?_eq_getElem (by decide +kernel))
  have hholder : (laterLines.foldl Draft.readLine (earlierLines.foldl Draft.readLine
      (Draft.start .topToBottom))).flowchart.nodes[0]?.map (·.subgraph) = some (some "S") := by
    decide +kernel
  have hdirection : (laterLines.foldl Draft.readLine (earlierLines.foldl Draft.readLine
      (Draft.start .topToBottom))).flowchart.subgraphs[0]?.map (·.direction) =
        some (some .leftToRight) := by
    decide +kernel
  rw [hn', Option.map_some, Option.some_inj] at hholder
  rw [hs', Option.map_some, Option.some_inj] at hdirection
  refine ⟨_, n', _, s', List.getElem?_eq_getElem _, hn', List.getElem?_eq_getElem _, hs', hkept,
    hkept', by decide +kernel, ?_, ?_⟩
  · rw [hid, hholder, hshape (by decide +kernel)]
    decide +kernel
  · rw [hdirection]
    decide +kernel

end FlowchartLayout.Source
