import FlowchartLayout.Proofs.Source.DraftInvariant

/-!
# Effects of statements

What a statement does to the records of a draft. Apart from its edges, a chain does no more than
introduce the nodes that it mentions, one after the other; what happens to the nodes is therefore
said mention by mention.

## Main definitions

- `Statement.mentions`, `Statement.Mentions` — the mentions in a statement, in order, and the ids
  among them
- `Draft.introduce` — the draft after a mention, with its definition if it has one
- `Draft.unlinked` — a draft without its edges

## Main statements

- `Draft.unlinked_apply_chain` — a chain introduces its mentions
- `Draft.nodes_mention`, `Draft.nodes_define` — the nodes after a mention and after a definition
-/

namespace FlowchartLayout

/-! ## Nodes found by their ids -/

/-- Only what becomes of the element at the index matters. -/
theorem modify_congr {α : Type} {f g : α → α} {xs : List α} {i : Nat} {x : α}
    (hx : xs[i]? = some x) (h : f x = g x) : xs.modify i f = xs.modify i g := by
  refine List.ext_getElem? fun j => ?_
  rw [List.getElem?_modify, List.getElem?_modify]
  by_cases hij : i = j
  · rw [← hij, hx]
    simp only [if_true, Option.map_eq_map, Option.map_some, h]
  · simp only [hij, if_false]

namespace Flowchart

variable {fc : Flowchart} {id : String} {i : Nat}

theorem findNodeIndex?_eq (fc : Flowchart) (id : String) :
    fc.findNodeIndex? id = fc.nodeIds.findIdx? (· == id) := by
  rw [findNodeIndex?, nodeIds, List.findIdx?_map]
  rfl

theorem exists_node_of_findNodeIndex? (h : fc.findNodeIndex? id = some i) :
    ∃ n, fc.nodes[i]? = some n ∧ n.id = id := by
  obtain ⟨hi, hid, -⟩ := List.findIdx?_eq_some_iff_getElem.1 h
  exact ⟨fc.nodes[i], List.getElem?_eq_getElem hi, beq_iff_eq.1 hid⟩

theorem findNodeIndex?_modifyNode {f : Node → Node} (hf : ∀ n, (f n).id = n.id) (j : Nat)
    (id : String) : (fc.modifyNode j f).findNodeIndex? id = fc.findNodeIndex? id := by
  rw [findNodeIndex?_eq, nodeIds_modifyNode hf, findNodeIndex?_eq]

theorem findNodeIndex?_addNode {n : Node} (h : n.id ∉ fc.nodeIds) :
    (fc.addNode n).findNodeIndex? n.id = some fc.nodes.length := by
  have hnone := findNodeIndex?_eq_none_iff.2 h
  rw [findNodeIndex?_eq] at hnone
  rw [findNodeIndex?_eq, nodeIds_addNode, List.findIdx?_append, hnone]
  simp [nodeIds]

/-- Without repeated ids, a node is found where it stands. -/
theorem findNodeIndex?_of_getElem? {n : Node} (hids : fc.nodeIds.Nodup)
    (h : fc.nodes[i]? = some n) : fc.findNodeIndex? n.id = some i := by
  cases hj : fc.findNodeIndex? n.id with
  | none => exact absurd (List.mem_map_of_mem (List.mem_of_getElem? h)) (findNodeIndex?_eq_none_iff.1 hj)
  | some j =>
    obtain ⟨m, hm, hid⟩ := exists_node_of_findNodeIndex? hj
    have hlt : i < fc.nodeIds.length := by
      rw [nodeIds, List.length_map]
      exact (List.getElem?_eq_some_iff.1 h).1
    refine congrArg some ((List.getElem?_inj hlt hids).1 ?_).symm
    rw [nodeIds, List.getElem?_map, List.getElem?_map, h, hm]
    exact congrArg some hid.symm

/-- Without repeated ids, the node at the index of an id is the only one with the id. -/
theorem modify_nodes_eq_map (hids : fc.nodeIds.Nodup) (h : fc.findNodeIndex? id = some i)
    (f : Node → Node) :
    fc.nodes.modify i f = fc.nodes.map fun n => if n.id = id then f n else n := by
  obtain ⟨hi, hid, -⟩ := List.findIdx?_eq_some_iff_getElem.1 h
  refine List.ext_getElem? fun j => ?_
  rw [List.getElem?_modify, List.getElem?_map]
  cases hn : fc.nodes[j]? with
  | none => rfl
  | some n =>
    -- the node has the id just if it is at the index
    have hiff : i = j ↔ n.id = id := by
      constructor
      · rintro rfl
        rw [List.getElem?_eq_getElem hi] at hn
        rw [← Option.some.inj hn]
        exact beq_iff_eq.1 hid
      · intro heq
        refine (List.getElem?_inj (by rwa [nodeIds, List.length_map]) hids).1 ?_
        rw [nodeIds, List.getElem?_map, List.getElem?_map, hn, List.getElem?_eq_getElem hi]
        exact congrArg some ((beq_iff_eq.1 hid).trans heq.symm)
    simp only [Option.map_eq_map, Option.map_some, hiff]

theorem map_nodes_of_not_mem (h : id ∉ fc.nodeIds) (f : Node → Node) :
    fc.nodes.map (fun n => if n.id = id then f n else n) = fc.nodes := by
  refine (List.map_congr_left fun n hn => if_neg ?_).trans (List.map_id fc.nodes)
  rintro rfl
  exact h (List.mem_map_of_mem hn)

theorem nodes_styleNode (hids : fc.nodeIds.Nodup) (id : String) (style : NodeStyle) :
    (fc.styleNode id style).nodes =
      fc.nodes.map fun n => if n.id = id then n.withStyle style else n := by
  unfold styleNode modifyNodeById
  split
  · next i hi => exact modify_nodes_eq_map hids hi _
  · next hnone => exact (map_nodes_of_not_mem (findNodeIndex?_eq_none_iff.1 hnone) _).symm

theorem nodeIds_styleNode (fc : Flowchart) (id : String) (style : NodeStyle) :
    (fc.styleNode id style).nodeIds = fc.nodeIds := by
  unfold styleNode modifyNodeById
  split
  · next i _ =>
    refine nodeIds_modifyNode ?_ i
    exact fun _ => rfl
  · rfl

theorem edges_styleNode (fc : Flowchart) (id : String) (style : NodeStyle) :
    (fc.styleNode id style).edges = fc.edges := by
  unfold styleNode modifyNodeById
  split <;> rfl

end Flowchart

namespace Source

/-- The mentions in a statement, in order. -/
def Statement.mentions : Statement → List Mention
  | .chain first hops => first :: hops.flatMap (·.targets)
  | _ => []

/-- The statement mentions the id. -/
def Statement.Mentions (s : Statement) (id : String) : Prop :=
  ∃ m ∈ s.mentions, m.id = id

instance (s : Statement) (id : String) : Decidable (s.Mentions id) :=
  inferInstanceAs (Decidable (∃ m ∈ s.mentions, m.id = id))

namespace Draft

variable {d d' : Draft} {i : Nat}

/-! ## Mentions -/

theorem scope_congr (hopen : d'.openSubgraphs = d.openSubgraphs)
    (hsubgraphs : d'.flowchart.subgraphs = d.flowchart.subgraphs) : d'.scope = d.scope := by
  rw [scope, scope, hopen, hsubgraphs]

@[simp]
theorem scope_mention (d : Draft) (id : String) : (d.mention id).scope = d.scope :=
  scope_congr (openSubgraphs_mention d id) (subgraphs_mention d id)

theorem defined_mention (d : Draft) (id : String) : (d.mention id).defined = d.defined := by
  rcases mention_cases d id with ⟨i, h, -⟩ | ⟨h, -⟩ | ⟨h, -⟩ <;> rw [h]

/-- A mentioned node is moved if it is outside of all subgraphs and a subgraph is open. -/
theorem mention_of_node {id : String} {n : Node} (hi : d.flowchart.findNodeIndex? id = some i)
    (hn : d.flowchart.nodes[i]? = some n) :
    d.mention id = if d.scope.isSome && n.subgraph.isNone then
      { d with flowchart := d.flowchart.modifyNode i ({ · with subgraph := d.scope }) }
    else d := by
  simp only [mention, hi, hn, Option.any_some]

theorem mention_of_not_mem {id : String} (h : id ∉ d.flowchart.nodeIds) :
    d.mention id = if (d.flowchart.findSubgraph? id).isSome then d
      else { d with flowchart :=
        d.flowchart.addNode { Node.implicit id with subgraph := d.scope } } := by
  simp only [mention, Flowchart.findNodeIndex?_eq_none_iff.2 h]

/-- To mention an id twice is to mention it once. -/
theorem mention_mention (d : Draft) (id : String) : (d.mention id).mention id = d.mention id := by
  cases hi : d.flowchart.findNodeIndex? id with
  | some i =>
    obtain ⟨n, hn, -⟩ := Flowchart.exists_node_of_findNodeIndex? hi
    have hfirst := mention_of_node hi hn
    split at hfirst
    · next hmove =>
      -- the node has a subgraph now
      have hi' : (d.mention id).flowchart.findNodeIndex? id = some i := by
        rw [hfirst, ← hi]
        refine Flowchart.findNodeIndex?_modifyNode ?_ i id
        exact fun _ => rfl
      have hn' : (d.mention id).flowchart.nodes[i]? = some { n with subgraph := d.scope } := by
        rw [hfirst]
        show (d.flowchart.nodes.modify i _)[i]? = _
        rw [List.getElem?_modify_eq, hn]
        rfl
      rw [mention_of_node hi' hn', if_neg]
      obtain ⟨s, hs⟩ := Option.isSome_iff_exists.1 (Bool.and_eq_true_iff.1 hmove).1
      simp [hs]
    · rw [hfirst, hfirst]
  | none =>
    have hnot := Flowchart.findNodeIndex?_eq_none_iff.1 hi
    have hfirst := mention_of_not_mem hnot
    split at hfirst
    · rw [hfirst, hfirst]
    · -- the new node is in the scope already
      have hi' : (d.mention id).flowchart.findNodeIndex? id = some d.flowchart.nodes.length := by
        rw [hfirst]
        exact Flowchart.findNodeIndex?_addNode
          (n := { Node.implicit id with subgraph := d.scope }) hnot
      have hn' : (d.mention id).flowchart.nodes[d.flowchart.nodes.length]? =
          some { Node.implicit id with subgraph := d.scope } := by
        rw [hfirst]
        exact List.getElem?_concat_length
      rw [mention_of_node hi' hn', if_neg]
      rw [scope_mention]
      cases d.scope <;> simp

/-- A mentioned node without subgraph gets the scope, and a new one is added behind the others. -/
theorem nodes_mention (hids : d.flowchart.nodeIds.Nodup) (id : String) :
    (d.mention id).flowchart.nodes =
      (d.flowchart.nodes.map fun n =>
        if n.id = id then { n with subgraph := n.subgraph.or d.scope } else n) ++
      if d.flowchart.containsId id then []
      else [{ Node.implicit id with subgraph := d.scope }] := by
  cases hi : d.flowchart.findNodeIndex? id with
  | some i =>
    obtain ⟨n, hn, rfl⟩ := Flowchart.exists_node_of_findNodeIndex? hi
    have hknown : d.flowchart.containsId n.id = true :=
      Flowchart.containsId_iff.2 (.inl (List.mem_map_of_mem (List.mem_of_getElem? hn)))
    rw [if_pos hknown, List.append_nil, ← Flowchart.modify_nodes_eq_map hids hi,
      mention_of_node hi hn]
    split
    · next hmove =>
      refine modify_congr hn ?_
      rw [Option.isNone_iff_eq_none.1 (Bool.and_eq_true_iff.1 hmove).2, Option.none_or]
    · next hstay =>
      -- there is no scope, or the node has a subgraph
      refine (List.modify_id i d.flowchart.nodes).symm.trans (modify_congr hn ?_)
      cases hholder : n.subgraph with
      | some s => rw [Option.some_or, ← hholder, id]
      | none =>
        cases hscope : d.scope with
        | some s => simp [hholder, hscope] at hstay
        | none => rw [Option.none_or, ← hholder, id]
  | none =>
    have hnot := Flowchart.findNodeIndex?_eq_none_iff.1 hi
    have hunknown : d.flowchart.containsId id = (d.flowchart.findSubgraph? id).isSome := by
      rw [Flowchart.containsId, Bool.or_eq_right_iff_imp]
      exact fun h => absurd (Flowchart.findNode?_isSome_iff.1 h) hnot
    rw [Flowchart.map_nodes_of_not_mem hnot, mention_of_not_mem hnot, hunknown]
    split
    · exact (List.append_nil _).symm
    · rfl

theorem mem_nodeIds_mention (hids : d.flowchart.nodeIds.Nodup) {id x : String} :
    x ∈ (d.mention id).flowchart.nodeIds ↔
      x ∈ d.flowchart.nodeIds ∨ id = x ∧ x ∉ d.flowchart.subgraphIds := by
  have hkeep : (d.flowchart.nodes.map fun n =>
      if n.id = id then { n with subgraph := n.subgraph.or d.scope } else n).map (·.id) =
        d.flowchart.nodeIds := by
    rw [List.map_map]
    refine List.map_congr_left fun n _ => ?_
    simp only [Function.comp_apply]
    split <;> rfl
  rw [Flowchart.nodeIds, nodes_mention hids, List.map_append, List.mem_append, hkeep]
  by_cases hknown : d.flowchart.containsId id = true
  · rw [if_pos hknown, List.map_nil]
    rcases Flowchart.containsId_iff.1 hknown with hnode | hsubgraph
    · simp only [List.not_mem_nil, or_false, iff_self_or]
      rintro ⟨rfl, -⟩
      exact hnode
    · simp only [List.not_mem_nil, or_false, iff_self_or]
      rintro ⟨rfl, hnot⟩
      exact absurd hsubgraph hnot
  · have hnot : id ∉ d.flowchart.subgraphIds :=
      fun h => hknown (Flowchart.containsId_iff.2 (.inr h))
    rw [if_neg hknown, List.map_singleton, List.mem_singleton]
    refine or_congr_right ⟨?_, fun h => h.1.symm⟩
    rintro rfl
    exact ⟨rfl, hnot⟩

/-! ## Definitions -/

theorem define_of_node {id : String} {definition : NodeShape}
    (hi : (d.mention id).flowchart.findNodeIndex? id = some i) (hnew : id ∉ d.defined) :
    d.define id definition =
      { d.mention id with
        flowchart := (d.mention id).flowchart.modifyNode i fun n =>
          { n with
            shape := definition.shape
            label := if definition.label.isEmpty then id else definition.label }
        defined := id :: d.defined } := by
  have hcontains : d.defined.contains id = false := by
    rw [List.contains_eq_mem, decide_eq_false_iff_not]
    exact hnew
  simp only [define, hi, defined_mention, hcontains, if_neg Bool.false_ne_true]

/-- Only the first definition of a node does more than a mention. -/
theorem define_eq_mention {id : String} {definition : NodeShape}
    (h : id ∈ (d.mention id).flowchart.nodeIds → id ∈ d.defined) :
    d.define id definition = d.mention id := by
  unfold define
  simp only
  split
  · rfl
  · next i hi =>
    obtain ⟨n, hn, rfl⟩ := Flowchart.exists_node_of_findNodeIndex? hi
    rw [if_pos]
    rw [defined_mention, List.contains_eq_mem, decide_eq_true_eq]
    exact h (List.mem_map_of_mem (List.mem_of_getElem? hn))

theorem defined_define {id : String} {definition : NodeShape}
    (hmem : id ∈ (d.mention id).flowchart.nodeIds) (hnew : id ∉ d.defined) :
    (d.define id definition).defined = id :: d.defined := by
  obtain ⟨i, hi⟩ := Option.ne_none_iff_exists'.1
    fun hnone => Flowchart.findNodeIndex?_eq_none_iff.1 hnone hmem
  rw [define_of_node hi hnew]

theorem subgraphs_define (d : Draft) (id : String) (definition : NodeShape) :
    (d.define id definition).flowchart.subgraphs = d.flowchart.subgraphs := by
  rcases define_cases d id definition with h | ⟨i, label, h⟩ <;> rw [h]
  · exact subgraphs_mention d id
  · exact subgraphs_mention d id

theorem openSubgraphs_define (d : Draft) (id : String) (definition : NodeShape) :
    (d.define id definition).openSubgraphs = d.openSubgraphs := by
  rcases define_cases d id definition with h | ⟨i, label, h⟩ <;> rw [h]
  · exact openSubgraphs_mention d id
  · exact openSubgraphs_mention d id

theorem nodeIds_define (d : Draft) (id : String) (definition : NodeShape) :
    (d.define id definition).flowchart.nodeIds = (d.mention id).flowchart.nodeIds := by
  rcases define_cases d id definition with h | ⟨i, label, h⟩ <;> rw [h]
  refine Flowchart.nodeIds_modifyNode ?_ i
  exact fun _ => rfl

/-- A definition gives its shape and its label to the mentioned node, unless the node has had
one. -/
theorem nodes_define {id : String} {definition : NodeShape}
    (hids : (d.mention id).flowchart.nodeIds.Nodup) (hnew : id ∉ d.defined) :
    (d.define id definition).flowchart.nodes = (d.mention id).flowchart.nodes.map fun n =>
      if n.id = id then
        { n with
          shape := definition.shape
          label := if definition.label.isEmpty then id else definition.label }
      else n := by
  cases hi : (d.mention id).flowchart.findNodeIndex? id with
  | some i =>
    rw [define_of_node hi hnew]
    exact Flowchart.modify_nodes_eq_map hids hi _
  | none =>
    have hnot := Flowchart.findNodeIndex?_eq_none_iff.1 hi
    rw [define_eq_mention fun h => absurd h hnot]
    exact (Flowchart.map_nodes_of_not_mem hnot _).symm

/-! ## Introductions -/

/-- The draft after one more mention, and after the definition that the mention may have. -/
def introduce (d : Draft) (m : Mention) : Draft :=
  match m.definition with
  | some definition => d.define m.id definition
  | none => d.mention m.id

theorem introduce_cases (d : Draft) (m : Mention) :
    m.definition = none ∧ d.introduce m = d.mention m.id ∨
      ∃ definition, m.definition = some definition ∧
        d.introduce m = d.define m.id definition := by
  cases hdef : m.definition with
  | none => exact .inl ⟨rfl, by simp only [introduce, hdef]⟩
  | some definition => exact .inr ⟨definition, rfl, by simp only [introduce, hdef]⟩

theorem WellFormed.introduce (h : d.WellFormed) (m : Mention) : (d.introduce m).WellFormed := by
  rcases introduce_cases d m with ⟨-, heq⟩ | ⟨definition, -, heq⟩ <;> rw [heq]
  · exact h.mention m.id
  · exact h.define m.id definition

theorem nodeIds_introduce (d : Draft) (m : Mention) :
    (d.introduce m).flowchart.nodeIds = (d.mention m.id).flowchart.nodeIds := by
  rcases introduce_cases d m with ⟨-, heq⟩ | ⟨definition, -, heq⟩ <;> rw [heq]
  exact nodeIds_define d m.id definition

theorem subgraphs_introduce (d : Draft) (m : Mention) :
    (d.introduce m).flowchart.subgraphs = d.flowchart.subgraphs := by
  rcases introduce_cases d m with ⟨-, heq⟩ | ⟨definition, -, heq⟩ <;> rw [heq]
  · exact subgraphs_mention d m.id
  · exact subgraphs_define d m.id definition

theorem openSubgraphs_introduce (d : Draft) (m : Mention) :
    (d.introduce m).openSubgraphs = d.openSubgraphs := by
  rcases introduce_cases d m with ⟨-, heq⟩ | ⟨definition, -, heq⟩ <;> rw [heq]
  · exact openSubgraphs_mention d m.id
  · exact openSubgraphs_define d m.id definition

theorem scope_introduce (d : Draft) (m : Mention) : (d.introduce m).scope = d.scope :=
  scope_congr (openSubgraphs_introduce d m) (subgraphs_introduce d m)

/-- Introductions leave the subgraphs alone. -/
theorem subgraphs_introductions (d : Draft) (ms : List Mention) :
    (ms.foldl introduce d).flowchart.subgraphs = d.flowchart.subgraphs := by
  induction ms generalizing d with
  | nil => rfl
  | cons m ms ih => exact (ih (d.introduce m)).trans (subgraphs_introduce d m)

/-- The draft without its edges. -/
def unlinked (d : Draft) : Draft :=
  { d with flowchart := { d.flowchart with edges := [], metrics := {} } }

theorem unlinked_mention (d : Draft) (id : String) :
    (d.mention id).unlinked = d.unlinked.mention id := by
  cases hi : d.flowchart.findNodeIndex? id with
  | some i =>
    obtain ⟨n, hn, -⟩ := Flowchart.exists_node_of_findNodeIndex? hi
    rw [mention_of_node hi hn, mention_of_node (d := d.unlinked) hi hn, apply_ite unlinked]
    rfl
  | none =>
    have hnot := Flowchart.findNodeIndex?_eq_none_iff.1 hi
    rw [mention_of_not_mem hnot, mention_of_not_mem (d := d.unlinked) hnot, apply_ite unlinked]
    rfl

theorem unlinked_define (d : Draft) (id : String) (definition : NodeShape) :
    (d.define id definition).unlinked = d.unlinked.define id definition := by
  by_cases h : id ∈ (d.mention id).flowchart.nodeIds → id ∈ d.defined
  · have h' : id ∈ (d.unlinked.mention id).flowchart.nodeIds → id ∈ d.unlinked.defined := by
      rw [← unlinked_mention]
      exact h
    rw [define_eq_mention h, define_eq_mention h', unlinked_mention]
  · obtain ⟨hmem, hnew⟩ := Classical.not_imp.1 h
    obtain ⟨i, hi⟩ := Option.ne_none_iff_exists'.1
      fun hnone => Flowchart.findNodeIndex?_eq_none_iff.1 hnone hmem
    have hi' : (d.unlinked.mention id).flowchart.findNodeIndex? id = some i := by
      rw [← unlinked_mention]
      exact hi
    rw [define_of_node hi hnew, define_of_node hi' hnew, ← unlinked_mention]
    rfl

theorem unlinked_introduce (d : Draft) (m : Mention) :
    (d.introduce m).unlinked = d.unlinked.introduce m := by
  unfold introduce
  split
  · exact unlinked_define d _ _
  · exact unlinked_mention d _

theorem unlinked_introductions (d : Draft) (ms : List Mention) :
    (ms.foldl introduce d).unlinked = ms.foldl introduce d.unlinked := by
  induction ms generalizing d with
  | nil => rfl
  | cons m ms ih => rw [List.foldl_cons, ih, unlinked_introduce, List.foldl_cons]

theorem define_mention (d : Draft) (id : String) (definition : NodeShape) :
    (d.mention id).define id definition = d.define id definition := by
  unfold define
  rw [mention_mention]

theorem unlinked_connect (d : Draft) (link : Link) (source target : String) :
    (d.connect link source target).unlinked = d.unlinked.mention target :=
  unlinked_mention d target

/-- To connect several sources to a target is to mention it once. -/
theorem unlinked_connectSources (d : Draft) (link : Link) {sources : List String}
    (hne : sources ≠ []) (target : String) :
    (d.connectSources link sources target).unlinked = d.unlinked.mention target := by
  obtain ⟨source, sources, rfl⟩ := List.exists_cons_of_ne_nil hne
  induction sources generalizing d source with
  | nil => exact unlinked_connect d link source target
  | cons source' sources ih =>
    have hrest := ih (d.connect link source target) source' (List.cons_ne_nil _ _)
    rw [unlinked_connect, mention_mention] at hrest
    exact hrest

theorem unlinked_connectAll (d : Draft) (link : Link) {sources : List String}
    (hne : sources ≠ []) (target : Mention) :
    (d.connectAll link sources target).unlinked = d.unlinked.introduce target := by
  cases hdef : target.definition with
  | none =>
    simp only [connectAll, introduce, hdef]
    exact unlinked_connectSources d link hne target.id
  | some definition =>
    simp only [connectAll, introduce, hdef]
    refine (unlinked_define _ _ _).trans ?_
    rw [← connectSources, unlinked_connectSources d link hne, define_mention]

theorem unlinked_connectTargets (d : Draft) (link : Link) {sources : List String}
    (hne : sources ≠ []) (targets : List Mention) :
    (targets.foldl (fun d target => d.connectAll link sources target) d).unlinked =
      targets.foldl introduce d.unlinked := by
  induction targets generalizing d with
  | nil => rfl
  | cons target targets ih =>
    rw [List.foldl_cons, ih, unlinked_connectAll d link hne]
    rfl

theorem unlinked_follow (d : Draft) {sources : List String} (hne : sources ≠ [])
    {hops : List Hop} (hhops : ∀ hop ∈ hops, hop.targets ≠ []) :
    (d.follow sources hops).unlinked = (hops.flatMap (·.targets)).foldl introduce d.unlinked := by
  induction hops generalizing d sources with
  | nil => rfl
  | cons hop hops ih =>
    obtain ⟨hhop, hhops⟩ := List.forall_mem_cons.1 hhops
    rw [follow, ih _ (fun hnil => hhop (List.map_eq_nil_iff.1 hnil)) hhops,
      unlinked_connectTargets d hop.link hne, List.flatMap_cons, List.foldl_append]

theorem apply_chain (d : Draft) (first : Mention) (hops : List Hop) :
    d.apply (.chain first hops) = (d.introduce first).follow [first.id] hops := by
  cases hdef : first.definition <;> simp only [Draft.apply, introduce, hdef]

/-- A chain introduces its mentions, apart from the edges that it adds. -/
theorem unlinked_apply_chain (d : Draft) {first : Mention} {hops : List Hop}
    (h : (Statement.chain first hops).HasTargets) :
    (d.apply (.chain first hops)).unlinked =
      ((Statement.chain first hops).mentions.foldl introduce d).unlinked := by
  rw [apply_chain, unlinked_follow _ (List.cons_ne_nil _ _) h, Statement.mentions, List.foldl_cons,
    unlinked_introductions]

/-- What a chain leaves of a draft, seen without edges. -/
theorem nodes_apply_chain (d : Draft) {first : Mention} {hops : List Hop}
    (h : (Statement.chain first hops).HasTargets) :
    (d.apply (.chain first hops)).flowchart.nodes =
      ((Statement.chain first hops).mentions.foldl introduce d).flowchart.nodes :=
  congrArg (·.flowchart.nodes) (unlinked_apply_chain d h)

theorem defined_apply_chain (d : Draft) {first : Mention} {hops : List Hop}
    (h : (Statement.chain first hops).HasTargets) :
    (d.apply (.chain first hops)).defined =
      ((Statement.chain first hops).mentions.foldl introduce d).defined :=
  congrArg (·.defined) (unlinked_apply_chain d h)

theorem subgraphs_apply_chain (d : Draft) {first : Mention} {hops : List Hop}
    (h : (Statement.chain first hops).HasTargets) :
    (d.apply (.chain first hops)).flowchart.subgraphs = d.flowchart.subgraphs :=
  (congrArg (·.flowchart.subgraphs) (unlinked_apply_chain d h)).trans
    (subgraphs_introductions d _)

/-! ## Statements about subgraphs -/

theorem nodes_openSubgraph (d : Draft) (id title : String) :
    (d.openSubgraph id title).flowchart.nodes = d.flowchart.nodes := by
  unfold openSubgraph
  split <;> rfl

theorem edges_openSubgraph (d : Draft) (id title : String) :
    (d.openSubgraph id title).flowchart.edges = d.flowchart.edges := by
  unfold openSubgraph
  split <;> rfl

theorem defined_openSubgraph (d : Draft) (id title : String) :
    (d.openSubgraph id title).defined = d.defined := by
  unfold openSubgraph
  split <;> rfl

theorem subgraphs_prefix_openSubgraph (d : Draft) (id title : String) :
    d.flowchart.subgraphs <+: (d.openSubgraph id title).flowchart.subgraphs := by
  unfold openSubgraph
  split
  · exact List.prefix_rfl
  · exact List.prefix_append _ _

theorem nodes_setDirection (d : Draft) (direction : Direction) :
    (d.setDirection direction).flowchart.nodes = d.flowchart.nodes := by
  unfold setDirection
  split <;> rfl

theorem edges_setDirection (d : Draft) (direction : Direction) :
    (d.setDirection direction).flowchart.edges = d.flowchart.edges := by
  unfold setDirection
  split <;> rfl

theorem defined_setDirection (d : Draft) (direction : Direction) :
    (d.setDirection direction).defined = d.defined := by
  unfold setDirection
  split <;> rfl

theorem subgraphIds_setDirection (d : Draft) (direction : Direction) :
    (d.setDirection direction).flowchart.subgraphIds = d.flowchart.subgraphIds := by
  unfold setDirection
  split
  · rfl
  · next i _ _ =>
    refine Flowchart.subgraphIds_modifySubgraph ?_ i
    exact fun _ => rfl

end Draft

end Source

end FlowchartLayout
