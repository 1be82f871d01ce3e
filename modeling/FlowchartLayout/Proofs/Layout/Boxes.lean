import FlowchartLayout.Proofs.Layout.Arrangement
import FlowchartLayout.Proofs.Layout.Bounding
import FlowchartLayout.Proofs.Number.Order

/-!
# The boxes of subgraphs

After a layout a subgraph with a node in it or below it has a box around its subgraphs and nodes,
unless the chain of its parents runs into a cycle. All other subgraphs have an empty box.

The boxes are found by a depth-first search, but what is right about them can be said without it:
each box is given in terms of the boxes of the subgraphs right below. The search is compared with a
fixed flowchart, the one that it results in. Whatever is visited has its final box from then on,
because every id is visited after its parent and never again.

## Main definitions

- `Flowchart.HoldsNode` — there is a node in a subgraph or in one nested in it
- `Flowchart.Grounded` — the parents of a subgraph form a chain that ends
- `Flowchart.innerEdges`, `Flowchart.Encloses` — the edges of what is in a subgraph, and the box that
  reaches from the outermost ones on one side to those on the other
- `Flowchart.Boxed` — every subgraph has the box that is due to it, or an empty one
- `Flowchart.BoundedFrom` — the boxes were written by a run, each of them once
- `Flowchart.Frontier` — ids that may be visited next

## Main statements

- `Flowchart.exists_root_iff` — the grounded subgraphs are those reachable from the outermost ones
- `Bounding.Run.agrees` — a run that results in a flowchart agrees with it on the way
- `Flowchart.boxed_layoutWith` — the boxes after a layout, each of which is written once
-/

namespace FlowchartLayout

/-- The subgraph lies around the box, with a padding on all sides and a title bar on top. -/
structure Subgraph.Surrounds (s : Subgraph) (padding : Float32) (inner : Box) : Prop where
  x : s.x = inner.minX - padding
  y : s.y = inner.minY - padding - 30
  width : s.width = inner.maxX - inner.minX + 2 * padding
  height : s.height = inner.maxY - inner.minY + 2 * padding + 30

/-- The box of the subgraph is the empty one at the origin. -/
structure Subgraph.IsFlat (s : Subgraph) : Prop where
  x : s.x = 0
  y : s.y = 0
  width : s.width = 0
  height : s.height = 0

theorem Subgraph.surrounds_around (s : Subgraph) (padding : Float32) (inner : Box) :
    (s.around padding inner).Surrounds padding inner :=
  ⟨rfl, rfl, rfl, rfl⟩

theorem map_id_of_map_bare_eq {xs ys : List Subgraph}
    (h : xs.map Subgraph.bare = ys.map Subgraph.bare) : xs.map (·.id) = ys.map (·.id) := by
  have hmap := congrArg (List.map (·.id)) h
  rw [List.map_map, List.map_map] at hmap
  exact hmap

namespace Flowchart

variable {fc : Flowchart} {ids seen mid : List String} {id x : String} {s : Subgraph}

/-! ## Nodes below a subgraph -/

/-- There is a node in the subgraph with the id, or in one that is nested in it. -/
def HoldsNode (fc : Flowchart) (id : String) : Prop :=
  ∃ n ∈ fc.nodes, ∃ owner, n.subgraph = some owner ∧ Relation.ReflTransGen fc.IsParent id owner

theorem any_isIn_subtree_iff :
    (fc.nodes.any (·.isIn (fc.subtree id))) = true ↔ fc.HoldsNode id := by
  simp only [List.any_eq_true, Node.isIn_iff, mem_subtree_iff, HoldsNode]

instance : DecidablePred fc.HoldsNode := fun _ => decidable_of_iff _ any_isIn_subtree_iff

/-- Below a subgraph there are its own nodes and those below its subgraphs. -/
theorem holdsNode_iff : fc.HoldsNode id ↔
    (∃ n ∈ fc.nodes, n.subgraph = some id) ∨ ∃ child ∈ fc.childIds id, fc.HoldsNode child := by
  constructor
  · rintro ⟨n, hn, owner, howner, hreach⟩
    rcases hreach.cases_head with rfl | ⟨child, hchild, hreach⟩
    · exact .inl ⟨n, hn, howner⟩
    · exact .inr ⟨child, mem_childIds.2 hchild, n, hn, owner, howner, hreach⟩
  · rintro (⟨n, hn, howner⟩ | ⟨child, hchild, n, hn, owner, howner, hreach⟩)
    · exact ⟨n, hn, id, howner, .refl⟩
    · exact ⟨n, hn, owner, howner, .head (mem_childIds.1 hchild) hreach⟩

/-! ## Boxes -/

/-- The boxes that the box of a subgraph is put around: first those of its subgraphs with nodes, and
then those of its nodes. -/
def innerBoxes (fc : Flowchart) (id : String) : List Box :=
  ((fc.childSubgraphs id).filter fun s => fc.HoldsNode s.id).map Box.ofSubgraph ++
    nodeBoxes fc.nodes id

/-- The edges, on one side, of what the box of a subgraph is put around: first those of its subgraphs
with nodes, and then those of its nodes. -/
def innerEdges (fc : Flowchart) (id : String) (subgraphEdge : Subgraph → Float32)
    (nodeEdge : Node → Float32) : List Float32 :=
  ((fc.childSubgraphs id).filter fun s => fc.HoldsNode s.id).map subgraphEdge ++
    (fc.nodes.filter (·.subgraph == some id)).map nodeEdge

/-- The box reaches from the leftmost and uppermost edges of what is in the subgraph to the rightmost
and lowest ones. -/
structure Encloses (fc : Flowchart) (id : String) (box : Box) : Prop where
  left : IsOutermost smaller (· < ·) (fc.innerEdges id (·.x) (·.x)) box.minX
  top : IsOutermost smaller (· < ·) (fc.innerEdges id (·.y) (·.y)) box.minY
  right : IsOutermost larger (· > ·)
    (fc.innerEdges id (fun s => s.x + s.width) fun n => n.x + n.width) box.maxX
  bottom : IsOutermost larger (· > ·)
    (fc.innerEdges id (fun s => s.y + s.height) fun n => n.y + n.height) box.maxY

theorem map_innerBoxes (id : String) (edge : Box → Float32) :
    (fc.innerBoxes id).map edge =
      fc.innerEdges id (fun s => edge (.ofSubgraph s)) fun n => edge (.ofNode n) := by
  rw [innerBoxes, nodeBoxes, List.map_append, List.map_map, List.map_map]
  rfl

/-- The smallest box around what is in a subgraph, taken in order, has the outermost edges. -/
theorem encloses_of_hull? {inner : Box} (h : Box.hull? (fc.innerBoxes id) = some inner) :
    fc.Encloses id inner := by
  have hside (edge : Box → Float32) {pick : Float32 → Float32 → Float32}
      {beyond : Float32 → Float32 → Prop}
      (hfold : ∀ first rest, IsOutermost pick beyond (first :: rest) (rest.foldl pick first))
      (hunion : ∀ a b, edge (Box.union a b) = pick (edge a) (edge b)) :
      IsOutermost pick beyond
        (fc.innerEdges id (fun s => edge (.ofSubgraph s)) fun n => edge (.ofNode n))
        (edge inner) := by
    obtain ⟨first, rest, hedges, hedge⟩ := Box.exists_eq_foldl_of_hull? h hunion
    rw [← map_innerBoxes, hedges, hedge]
    exact hfold first rest
  exact ⟨hside Box.minX isOutermost_smaller fun _ _ => rfl,
    hside Box.minY isOutermost_smaller fun _ _ => rfl,
    hside Box.maxX isOutermost_larger fun _ _ => rfl,
    hside Box.maxY isOutermost_larger fun _ _ => rfl⟩

/-- The box of a subgraph with nodes. -/
def box? (fc : Flowchart) (id : String) : Option Box :=
  if fc.HoldsNode id then (fc.findSubgraph? id).map Box.ofSubgraph else none

theorem filterMap_box?_childIds (hids : fc.subgraphIds.Nodup) (id : String) :
    (fc.childIds id).filterMap fc.box? ++ nodeBoxes fc.nodes id = fc.innerBoxes id := by
  rw [innerBoxes, childIds, List.filterMap_map, ← List.filterMap_eq_map, List.filterMap_filter]
  refine congrArg (· ++ nodeBoxes fc.nodes id) (List.filterMap_congr fun s hs => ?_)
  have hmem : s ∈ fc.subgraphs := (List.mem_filter.1 hs).1
  simp only [Function.comp, box?, findSubgraph?_of_mem hids hmem, decide_eq_true_eq,
    Option.map_some]

/-- There is nothing to put a box around just if there is no node. -/
theorem hull?_innerBoxes_eq_none_iff :
    Box.hull? (fc.innerBoxes id) = none ↔ ¬ fc.HoldsNode id := by
  rw [Box.hull?_eq_none_iff, innerBoxes, nodeBoxes, List.append_eq_nil_iff, List.map_eq_nil_iff,
    List.map_eq_nil_iff, List.filter_eq_nil_iff, List.filter_eq_nil_iff, holdsNode_iff, not_or]
  simp only [childIds, List.mem_map, decide_eq_true_eq, beq_iff_eq, not_exists, not_and,
    forall_exists_index, and_imp, forall_apply_eq_imp_iff₂]
  exact and_comm

/-! ## Chains of parents -/

/-- The chain of parents of the subgraph ends, with one that has no parent or an unknown one. -/
inductive Grounded (fc : Flowchart) : Subgraph → Prop where
  | top {s : Subgraph} (hnone : s.parent = none) : Grounded fc s
  | stray {s : Subgraph} {p : String} (hp : s.parent = some p)
      (hunknown : fc.findSubgraph? p = none) : Grounded fc s
  | nested {s t : Subgraph} {p : String} (hp : s.parent = some p)
      (ht : fc.findSubgraph? p = some t) (rest : Grounded fc t) : Grounded fc s

theorem mem_rootSubgraphs : id ∈ fc.rootSubgraphs ↔
    ∃ s ∈ fc.subgraphs, s.id = id ∧ ∀ p, s.parent = some p → fc.findSubgraph? p = none := by
  rw [rootSubgraphs, List.mem_map]
  refine exists_congr fun s => ?_
  rw [List.mem_filter, and_assoc, and_comm (b := s.id = id)]
  refine and_congr_right fun _ => and_congr_right fun _ => ?_
  cases s.parent with
  | none => simp
  | some p => simp

/-- The chain of parents ends just where a subgraph can be reached from an outermost one. -/
theorem exists_root_iff (hids : fc.subgraphIds.Nodup) (hs : s ∈ fc.subgraphs) :
    (∃ root ∈ fc.rootSubgraphs, Relation.ReflTransGen fc.IsParent root s.id) ↔ fc.Grounded s := by
  constructor
  · rintro ⟨root, hroot, hreach⟩
    obtain ⟨r, hr, rfl, htop⟩ := mem_rootSubgraphs.1 hroot
    generalize hid : s.id = id at hreach
    induction hreach generalizing s with
    | refl =>
      obtain rfl : s = r := List.inj_on_of_nodup_map hids hs hr hid
      cases hp : s.parent with
      | none => exact .top hp
      | some p => exact .stray hp (htop p hp)
    | @tail p _ hreach hparent ih =>
      obtain ⟨t, ht, rfl⟩ : ∃ t ∈ fc.subgraphs, t.id = p := by
        rcases hreach.cases_tail with rfl | ⟨_, -, t, ht, hid, -⟩
        · exact ⟨r, hr, rfl⟩
        · exact ⟨t, ht, hid⟩
      obtain ⟨u, hu, huid, hp⟩ := hparent
      obtain rfl : u = s := List.inj_on_of_nodup_map hids hu hs (huid.trans hid.symm)
      exact .nested hp (findSubgraph?_of_mem hids ht) (ih ht rfl)
  · intro h
    induction h with
    | top hnone =>
      exact ⟨_, mem_rootSubgraphs.2 ⟨_, hs, rfl, fun p hp => by simp [hnone] at hp⟩, .refl⟩
    | stray hp hunknown =>
      refine ⟨_, mem_rootSubgraphs.2 ⟨_, hs, rfl, fun q hq => ?_⟩, .refl⟩
      rw [hp] at hq
      cases hq
      exact hunknown
    | @nested s t p hp ht _ ih =>
      have htid : t.id = p := by simpa using List.find?_some ht
      obtain ⟨root, hroot, hreach⟩ := ih (List.mem_of_find?_eq_some ht)
      exact ⟨root, hroot, hreach.tail ⟨s, hs, rfl, htid ▸ hp⟩⟩

/-! ## What may be visited next -/

/-- The ids may be visited next: they belong to subgraphs that were not visited before, and all
known parents of what was visited or is to be visited next were visited. -/
structure Frontier (fc : Flowchart) (ids seen : List String) : Prop where
  nodup : ids.Nodup
  known : ids ⊆ fc.subgraphIds
  new : ∀ id ∈ ids, id ∉ seen
  inside : ∀ id, id ∈ ids ∨ id ∈ seen → ∀ p ∈ fc.subgraphIds, fc.IsParent p id → p ∈ seen

namespace Frontier

/-- What is below the frontier was not visited. -/
theorem not_mem_of_reach (h : fc.Frontier ids seen) (hid : id ∈ ids)
    (hreach : Relation.ReflTransGen fc.IsParent id x) : x ∈ fc.subgraphIds ∧ x ∉ seen := by
  induction hreach with
  | refl => exact ⟨h.known hid, h.new id hid⟩
  | @tail p x _ hparent ih =>
    exact ⟨mem_subgraphIds_of_mem_childIds (mem_childIds.2 hparent),
      fun hx => ih.2 (h.inside x (.inr hx) p ih.1 hparent)⟩

/-- What is below an id is visited with it. -/
theorem mem_of_reach (h : fc.Frontier ids seen) (hid : id ∈ ids)
    (hsearch : Search fc.childIds [id] seen.reverse mid.reverse)
    (hreach : Relation.ReflTransGen fc.IsParent id x) : x ∈ mid := by
  refine List.mem_reverse.1 ?_
  induction hreach with
  | refl => exact hsearch.mem_of_mem_ids (List.mem_singleton_self id)
  | tail hreach hparent ih =>
    have hnew := (h.not_mem_of_reach hid hreach).2
    exact hsearch.mem_of_mem_next ih (fun hmem => hnew (List.mem_reverse.1 hmem))
      (mem_childIds.2 hparent)

/-- After an id, what is right below it may be visited. -/
theorem below (hids : fc.subgraphIds.Nodup) (h : fc.Frontier (id :: ids) seen) :
    fc.Frontier (fc.childIds id) (id :: seen) where
  nodup := hids.sublist (List.filter_sublist.map _)
  known _ := mem_subgraphIds_of_mem_childIds
  new child hchild hmem := by
    have hparent : fc.IsParent id child := mem_childIds.1 hchild
    have hnew := h.new id List.mem_cons_self
    refine hnew (h.inside child ?_ id (h.known List.mem_cons_self) hparent)
    rcases List.mem_cons.1 hmem with rfl | hmem
    · exact .inl List.mem_cons_self
    · exact .inr hmem
  inside x hx p hp hparent := by
    rcases hx with hx | hx
    · rw [hparent.unique hids (mem_childIds.1 hx)]
      exact List.mem_cons_self
    · refine List.mem_cons_of_mem _ (h.inside x ?_ p hp hparent)
      rcases List.mem_cons.1 hx with rfl | hx
      · exact .inl List.mem_cons_self
      · exact .inr hx

/-- After an id and everything below it, the ids after it may be visited. -/
theorem rest (hids : fc.subgraphIds.Nodup) (h : fc.Frontier (id :: ids) seen)
    (hsearch : Search fc.childIds [id] seen.reverse mid.reverse) : fc.Frontier ids mid := by
  obtain ⟨hid, hnodup⟩ := List.nodup_cons.1 h.nodup
  have hsubset : seen ⊆ mid := fun x hx =>
    List.mem_reverse.1 (hsearch.isPrefix.subset (List.mem_reverse.2 hx))
  have hbelow : ∀ x ∈ mid, x ∈ seen ∨ Relation.ReflTransGen fc.IsParent id x := fun x hx => by
    simpa only [List.mem_reverse, List.mem_singleton, exists_eq_left, mem_childIds] using
      hsearch.seen_or_reachable (List.mem_reverse.2 hx)
  refine ⟨hnodup, fun _ hx => h.known (List.mem_cons_of_mem _ hx), fun x hx hmem => ?_, ?_⟩
  · rcases hbelow x hmem with hseen | hreach
    · exact h.new x (List.mem_cons_of_mem _ hx) hseen
    · -- a parent of `x` below `id` would have been visited before
      rcases hreach.cases_tail with rfl | ⟨p, hreach, hparent⟩
      · exact hid hx
      · obtain ⟨hp, hnew⟩ := h.not_mem_of_reach List.mem_cons_self hreach
        exact hnew (h.inside x (.inl (List.mem_cons_of_mem _ hx)) p hp hparent)
  · rintro x (hx | hx) p hp hparent
    · exact hsubset (h.inside x (.inl (List.mem_cons_of_mem _ hx)) p hp hparent)
    · rcases hbelow x hx with hseen | hreach
      · exact hsubset (h.inside x (.inr hseen) p hp hparent)
      · rcases hreach.cases_tail with rfl | ⟨q, hreach, hparent'⟩
        · exact hsubset (h.inside _ (.inl List.mem_cons_self) p hp hparent)
        · rw [hparent.unique hids hparent']
          exact h.mem_of_reach List.mem_cons_self hsearch hreach

end Frontier

/-- The outermost subgraphs may be visited first. -/
theorem frontier_rootSubgraphs (hids : fc.subgraphIds.Nodup) :
    fc.Frontier fc.rootSubgraphs [] where
  nodup := hids.sublist (List.filter_sublist.map _)
  known _ := mem_subgraphIds_of_mem_rootSubgraphs
  new _ _ := List.not_mem_nil
  inside x hx p hp hparent := by
    obtain ⟨s, hs, hid, hp'⟩ := hparent
    obtain ⟨t, ht, htid, htop⟩ := mem_rootSubgraphs.1 (hx.resolve_right List.not_mem_nil)
    obtain rfl : s = t := List.inj_on_of_nodup_map hids hs ht (hid.trans htid.symm)
    have hknown := findSubgraph?_isSome_iff.2 hp
    rw [htop p hp'] at hknown
    cases hknown

end Flowchart

/-! ## Runs -/

namespace Bounding

/-- What a run does agrees with a flowchart. Going through `ids` leads from the ids `seen` before to
the ids `out` seen afterwards; it finds the boxes that the subgraphs have in the flowchart, and it
writes the boxes of the new subgraphs that hold nodes, each around what is inside. -/
structure Agrees (fc : Flowchart) (padding : Float32) (ids seen out : List String)
    (boxes : List Box) (written : List String) : Prop where
  boxes_eq : boxes = ids.filterMap fc.box?
  around : ∀ x ∈ written, fc.HoldsNode x ∧ ∃ inner s, Box.hull? (fc.innerBoxes x) = some inner ∧
    fc.findSubgraph? x = some (Subgraph.around padding inner s)
  mem_written : ∀ x ∈ out, x ∉ seen → fc.HoldsNode x → x ∈ written

namespace Agrees

variable {fc : Flowchart} {padding : Float32} {ids ids' seen mid out written written' : List String}
  {boxes boxes' : List Box} {id : String} {inner : Box} {s : Subgraph}

theorem append (h : Agrees fc padding ids seen mid boxes written)
    (h' : Agrees fc padding ids' mid out boxes' written') :
    Agrees fc padding (ids ++ ids') seen out (boxes ++ boxes') (written ++ written') where
  boxes_eq := by rw [List.filterMap_append, ← h.boxes_eq, ← h'.boxes_eq]
  around x hx := (List.mem_append.1 hx).elim (h.around x) (h'.around x)
  mem_written x hx hnew hholds := by
    by_cases hmid : x ∈ mid
    · exact List.mem_append_left _ (h.mem_written x hmid hnew hholds)
    · exact List.mem_append_right _ (h'.mem_written x hx hmid hholds)

/-- Without nodes nothing is written after what is below. -/
theorem pass (h : Agrees fc padding (fc.childIds id) (id :: seen) mid boxes written)
    (hnone : ¬ fc.HoldsNode id) : Agrees fc padding [id] seen mid [] written where
  boxes_eq := by
    have hbox : fc.box? id = none := if_neg hnone
    rw [List.filterMap_cons_none hbox, List.filterMap_nil]
  around := h.around
  mem_written x hx hnew hholds := by
    refine h.mem_written x hx (fun hmem => ?_) hholds
    rcases List.mem_cons.1 hmem with rfl | hmem
    · exact hnone hholds
    · exact hnew hmem

/-- With nodes the box is written after those below. -/
theorem bound (h : Agrees fc padding (fc.childIds id) (id :: seen) mid boxes written)
    (hholds : fc.HoldsNode id) (hinner : Box.hull? (fc.innerBoxes id) = some inner)
    (hs : fc.findSubgraph? id = some (s.around padding inner)) :
    Agrees fc padding [id] seen mid [Box.ofSubgraph (s.around padding inner)]
      (written ++ [id]) where
  boxes_eq := by
    have hbox : fc.box? id = some (Box.ofSubgraph (s.around padding inner)) := by
      rw [Flowchart.box?, if_pos hholds, hs, Option.map_some]
    rw [List.filterMap_cons_some hbox, List.filterMap_nil]
  around x hx := by
    rcases List.mem_append.1 hx with hx | hx
    · exact h.around x hx
    · obtain rfl := List.mem_singleton.1 hx
      exact ⟨hholds, inner, s, hinner, hs⟩
  mem_written x hx hnew hxholds := by
    by_cases hid : x = id
    · exact List.mem_append_right _ (List.mem_singleton.2 hid)
    · exact List.mem_append_left _
        (h.mem_written x hx (List.not_mem_cons_of_ne_of_not_mem hid hnew) hxholds)

end Agrees

variable {fc : Flowchart} {padding : Float32} {ids written : List String} {b out : Bounding}
  {boxes : List Box}

theorem exists_find? (hbare : b.subgraphs.map Subgraph.bare = fc.subgraphs.map Subgraph.bare)
    {id : String} (hid : id ∈ fc.subgraphIds) : ∃ s, b.find? id = some s := by
  rw [Flowchart.subgraphIds, ← map_id_of_map_bare_eq hbare] at hid
  obtain ⟨s, hs, hsid⟩ := List.mem_map.1 hid
  exact Option.isSome_iff_exists.1 (List.find?_isSome.2 ⟨s, hs, beq_iff_eq.2 hsid⟩)

/-- A run that results in a flowchart agrees with it. Where the box of a subgraph is written, it is
the one that the flowchart has in the end, since the subgraph is not visited again. -/
theorem Run.agrees (hids : fc.subgraphIds.Nodup)
    (h : Run fc.nodes padding ids b out boxes written)
    (hbare : b.subgraphs.map Subgraph.bare = fc.subgraphs.map Subgraph.bare)
    (hnext : fc.Frontier ids b.visited)
    (hfinal : ∀ x ∈ out.visited, x ∉ b.visited → out.find? x = fc.findSubgraph? x) :
    Agrees fc padding ids b.visited out.visited boxes written := by
  induction h with
  | done b =>
    exact ⟨rfl, fun _ hx => absurd hx List.not_mem_nil, fun _ hx hnew => absurd hx hnew⟩
  | @skip id _ _ _ _ _ hseen _ _ => exact absurd hseen (hnext.new id List.mem_cons_self)
  | @pass id ids inside written b mid out found boxes hnew below hnone rest ihbelow ihrest =>
    have hmid := below.map_bare.trans hbare
    have hrest := ihrest hmid (hnext.rest hids (search_enter hbare hnew (below.search hbare)))
      fun x hx hlater => hfinal x hx fun hseen =>
        hlater (below.visited_subset (List.mem_cons_of_mem _ hseen))
    rw [childIds_eq hbare] at ihbelow
    have hbelow := ihbelow hbare (hnext.below hids) fun x hx hlater => by
      rw [← rest.find?_of_mem_visited hx]
      exact hfinal x (rest.visited_subset hx) fun hseen => hlater (List.mem_cons_of_mem _ hseen)
    refine (hbelow.pass ?_).append hrest
    obtain ⟨s, hs⟩ := exists_find? hmid (hnext.known List.mem_cons_self)
    have hhull := hnone.resolve_right (by rw [hs]; exact Option.some_ne_none s)
    rwa [hbelow.boxes_eq, Flowchart.filterMap_box?_childIds hids,
      Flowchart.hull?_innerBoxes_eq_none_iff] at hhull
  | @bound id ids inside written b mid out found boxes inner s hnew below hinner hs rest ihbelow
      ihrest =>
    have hmid := below.map_bare.trans hbare
    have hid : id ∈ mid.visited := below.visited_subset List.mem_cons_self
    have hrest := ihrest ((map_bare_write hs).trans hmid)
      (hnext.rest hids (search_enter hbare hnew (below.search hbare)))
      fun x hx hlater => hfinal x hx fun hseen =>
        hlater (below.visited_subset (List.mem_cons_of_mem _ hseen))
    rw [childIds_eq hbare] at ihbelow
    have hbelow := ihbelow hbare (hnext.below hids) fun x hx hlater => by
      have hne : x ≠ id := fun heq => hlater (heq ▸ List.mem_cons_self)
      rw [← hfinal x (rest.visited_subset hx) fun hseen => hlater (List.mem_cons_of_mem _ hseen),
        rest.find?_of_mem_visited hx, find?_write_around hs, if_neg hne]
    rw [hbelow.boxes_eq, Flowchart.filterMap_box?_childIds hids] at hinner
    have hholds : fc.HoldsNode id := by
      by_contra hnone
      rw [Flowchart.hull?_innerBoxes_eq_none_iff.2 hnone] at hinner
      cases hinner
    have hfound : fc.findSubgraph? id = some (s.around padding inner) := by
      rw [← hfinal id (rest.visited_subset hid) hnew, rest.find?_of_mem_visited hid,
        find?_write_around hs, if_pos rfl]
    have hagrees := (hbelow.bound hholds hinner hfound).append hrest
    rwa [List.append_assoc] at hagrees

end Bounding

/-! ## Boxes after a layout -/

namespace Flowchart

variable {fc : Flowchart}

/-- The subgraphs whose parents form a chain that ends, and that have a node in them or below them,
lie around the boxes of what is inside; the boxes of all others are empty. -/
structure Boxed (fc : Flowchart) : Prop where
  surrounds : ∀ s ∈ fc.subgraphs, fc.Grounded s → fc.HoldsNode s.id →
    ∃ inner, fc.Encloses s.id inner ∧ s.Surrounds fc.spacing.subgraphPadding inner
  flat : ∀ s ∈ fc.subgraphs, ¬ (fc.Grounded s ∧ fc.HoldsNode s.id) → s.IsFlat

/-- The subgraphs are what a run makes of those at the start. It goes through the outermost ones,
and it writes each box that is due once, and no other. -/
def BoundedFrom (fc : Flowchart) (start : List Subgraph) : Prop :=
  ∃ done boxes written,
    Bounding.Run fc.nodes fc.spacing.subgraphPadding fc.rootSubgraphs { subgraphs := start }
      done boxes written ∧
    done.subgraphs = fc.subgraphs ∧ written.Nodup ∧
    ∀ s ∈ fc.subgraphs, s.id ∈ written ↔ fc.Grounded s ∧ fc.HoldsNode s.id

section Run

variable {start : List Subgraph} {done : Bounding} {boxes : List Box} {written : List String}
  {s : Subgraph}

/-- A run that starts with the outermost subgraphs visits those whose parents form a chain that
ends. -/
theorem mem_visited_iff (hids : fc.subgraphIds.Nodup)
    (hrun : Bounding.Run fc.nodes fc.spacing.subgraphPadding fc.rootSubgraphs
      { subgraphs := start } done boxes written) (hdone : done.subgraphs = fc.subgraphs)
    (hs : s ∈ fc.subgraphs) : s.id ∈ done.visited ↔ fc.Grounded s := by
  have hsearch : Search fc.childIds fc.rootSubgraphs [] done.visited.reverse :=
    hrun.search (hdone ▸ hrun.map_bare.symm)
  rw [← List.mem_reverse, hsearch.mem_iff, ← exists_root_iff hids hs]
  simp only [mem_childIds]

theorem agrees_of_run (hids : fc.subgraphIds.Nodup)
    (hrun : Bounding.Run fc.nodes fc.spacing.subgraphPadding fc.rootSubgraphs
      { subgraphs := start } done boxes written) (hdone : done.subgraphs = fc.subgraphs) :
    Bounding.Agrees fc fc.spacing.subgraphPadding fc.rootSubgraphs [] done.visited boxes written :=
  hrun.agrees hids (hdone ▸ hrun.map_bare.symm) (frontier_rootSubgraphs hids) fun x _ _ => by
    rw [Bounding.find?, hdone, findSubgraph?]

/-- Such a run writes the boxes of the subgraphs that get one. -/
theorem mem_written_iff (hids : fc.subgraphIds.Nodup)
    (hrun : Bounding.Run fc.nodes fc.spacing.subgraphPadding fc.rootSubgraphs
      { subgraphs := start } done boxes written) (hdone : done.subgraphs = fc.subgraphs)
    (hs : s ∈ fc.subgraphs) : s.id ∈ written ↔ fc.Grounded s ∧ fc.HoldsNode s.id := by
  have hagrees := agrees_of_run hids hrun hdone
  rw [← mem_visited_iff hids hrun hdone hs]
  exact ⟨fun h => ⟨(hrun.mem_visited_of_mem_written h).1, (hagrees.around _ h).1⟩,
    fun h => hagrees.mem_written _ h.1 List.not_mem_nil h.2⟩

theorem boxed_of_run (hids : fc.subgraphIds.Nodup)
    (hrun : Bounding.Run fc.nodes fc.spacing.subgraphPadding fc.rootSubgraphs
      { subgraphs := start } done boxes written) (hdone : done.subgraphs = fc.subgraphs)
    (hflat : ∀ s ∈ start, s.IsFlat) : fc.Boxed where
  surrounds s hs hgrounded hholds := by
    have hwritten := (mem_written_iff hids hrun hdone hs).2 ⟨hgrounded, hholds⟩
    obtain ⟨-, inner, t, hinner, hfound⟩ := (agrees_of_run hids hrun hdone).around _ hwritten
    rw [findSubgraph?_of_mem hids hs] at hfound
    exact ⟨inner, encloses_of_hull? hinner, Option.some.inj hfound ▸ t.surrounds_around _ inner⟩
  flat s hs hnot := by
    -- what is not written is as it was at the start
    have hstart := hrun.frame ((mem_written_iff hids hrun hdone hs).not.2 hnot)
    have hfound : done.find? s.id = some s := by
      rw [Bounding.find?, hdone]
      exact findSubgraph?_of_mem hids hs
    exact hflat s (List.mem_of_find?_eq_some (hstart.symm.trans hfound))

end Run

theorem isFlat_of_mem_cleared {s : Subgraph} (h : s ∈ fc.cleared.subgraphs) : s.IsFlat := by
  obtain ⟨t, -, rfl⟩ := List.mem_map.1 h
  exact ⟨rfl, rfl, rfl, rfl⟩

theorem subgraphIds_of_content_eq {f g : Flowchart} (h : f.content = g.content) :
    f.subgraphIds = g.subgraphIds :=
  map_id_of_map_bare_eq (congrArg subgraphs h)

theorem rootSubgraphs_content (fc : Flowchart) : fc.content.rootSubgraphs = fc.rootSubgraphs := by
  have hfound (p : String) : (fc.content.findSubgraph? p).isNone = (fc.findSubgraph? p).isNone := by
    rw [findSubgraph?, content, List.find?_map, Option.isNone_map]
    rfl
  simp only [rootSubgraphs, hfound]
  rw [content, List.filter_map, List.map_map]
  rfl

/-- The subgraphs of a layout come from a run that starts without any boxes. -/
theorem exists_run_relaid (hnodes : fc.nodes ≠ []) (measure : Measurer) (width height : Float32) :
    ∃ done boxes written, Bounding.Run (fc.relaid measure width height).nodes
        (fc.relaid measure width height).spacing.subgraphPadding
        (fc.relaid measure width height).rootSubgraphs
        { subgraphs := fc.cleared.subgraphs } done boxes written ∧
      done.subgraphs = (fc.relaid measure width height).subgraphs := by
  let fitted := ((fc.arranged measure).routed).fitted width height
  have hrelaid : fc.relaid measure width height = _ :=
    relaid_eq (List.isEmpty_eq_false_iff.2 hnodes)
  obtain ⟨done, boxes, written, hrun, hbounded⟩ := exists_run_bounded fitted
  have hroots : fitted.bounded.rootSubgraphs = fitted.rootSubgraphs := by
    rw [← rootSubgraphs_content, content_bounded, rootSubgraphs_content]
  rw [← hroots] at hrun
  rw [hrelaid]
  exact ⟨done, boxes, written, hrun, (congrArg subgraphs hbounded).symm⟩

/-- After a layout every subgraph has the box that is due to it, whatever the parents are, and each
of these boxes was written once, in a run that started without boxes and ended. -/
theorem boxed_layoutWith (hnodes : fc.nodes ≠ []) (hids : fc.subgraphIds.Nodup)
    (measure : Measurer) (width height : Float32) (hstale : fc.isLaidOutFor width height = false) :
    (fc.layoutWith measure width height).content = fc.content ∧
      (fc.layoutWith measure width height).Boxed ∧
      (fc.layoutWith measure width height).BoundedFrom fc.cleared.subgraphs := by
  rw [layoutWith, hstale, if_neg Bool.false_ne_true]
  have hcontent := content_relaid fc measure width height
  have hids' : (fc.relaid measure width height).subgraphIds.Nodup := by
    rwa [subgraphIds_of_content_eq hcontent]
  obtain ⟨done, boxes, written, hrun, hdone⟩ := exists_run_relaid hnodes measure width height
  exact ⟨hcontent, boxed_of_run hids' hrun hdone fun _ hs => isFlat_of_mem_cleared hs,
    done, boxes, written, hrun, hdone, hrun.nodup_written,
    fun _ hs => mem_written_iff hids' hrun hdone hs⟩

/-- Groups in groups, with and without nodes: one in a group that is not there, and two in each
other. -/
def nestedGroups : Flowchart :=
  { direction := .topToBottom
    nodes := [("A", "Inner"), ("B", "Outer"), ("C", "Left"), ("D", "Stray")].map
      fun (id, owner) => { Node.implicit id with subgraph := some owner }
    edges := [{ source := "A", target := "B", kind := .arrow }]
    subgraphs := [("Outer", none), ("Inner", some "Outer"), ("Empty", some "Outer"),
        ("Left", some "Right"), ("Right", some "Left"), ("Stray", some "Gone")].map
      fun (id, parent) => { id, title := id, parent } }

theorem boxed_nestedGroups :
    nestedGroups.nodes ≠ [] ∧ nestedGroups.subgraphIds.Nodup ∧
      nestedGroups.isLaidOutFor 640 480 = false ∧
      (nestedGroups.layoutWith (ColumnMeasurer.measure {}) 640 480).content =
        nestedGroups.content ∧
      (nestedGroups.layoutWith (ColumnMeasurer.measure {}) 640 480).Boxed ∧
      (nestedGroups.layoutWith (ColumnMeasurer.measure {}) 640 480).BoundedFrom
        nestedGroups.cleared.subgraphs := by
  have hnodes : nestedGroups.nodes ≠ [] := List.cons_ne_nil _ _
  have hids : nestedGroups.subgraphIds.Nodup := by decide
  exact ⟨hnodes, hids, rfl, boxed_layoutWith hnodes hids (ColumnMeasurer.measure {}) 640 480 rfl⟩

end Flowchart

end FlowchartLayout
