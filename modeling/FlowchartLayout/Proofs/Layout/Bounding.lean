import FlowchartLayout.Proofs.Flowchart.Subtree
import FlowchartLayout.Proofs.Layout.Content

/-!
# The way subgraphs are bounded

Subgraphs are bounded from the inside to the outside by a depth-first search that carries the boxes
with it. The search ends, whatever the parents are, and it writes no box twice.

## Main definitions

- `Box.hull?` — the smallest box around several
- `Bounding.Run` — the bounding of subgraphs, with no bound on its depth and with what it writes

## Main statements

- `Bounding.Run.frame` — a box that is not written stays
- `Bounding.Run.nodup_written` — no box is written twice
- `Flowchart.exists_run_bounded` — the bounds of a flowchart come from such a run
-/

namespace FlowchartLayout

namespace Box

/-- The smallest box around the given ones, taken in order. -/
def hull? : List Box → Option Box
  | [] => none
  | box :: boxes => some (boxes.foldl union box)

theorem foldl_union?_some (boxes : List Box) (box : Box) :
    boxes.foldl (fun inner box => union? inner (some box)) (some box) =
      some (boxes.foldl union box) := by
  induction boxes generalizing box with
  | nil => rfl
  | cons next boxes ih => exact ih (box.union next)

theorem foldl_union?_none (boxes : List Box) :
    boxes.foldl (fun inner box => union? inner (some box)) none = hull? boxes := by
  cases boxes with
  | nil => rfl
  | cons box boxes => exact foldl_union?_some boxes box

/-- The edges of the smallest box around others come from theirs, one side at a time. -/
theorem exists_eq_foldl_of_hull? {boxes : List Box} {inner : Box} (h : hull? boxes = some inner)
    {edge : Box → Float32} {pick : Float32 → Float32 → Float32}
    (hunion : ∀ a b, edge (union a b) = pick (edge a) (edge b)) :
    ∃ first rest, boxes.map edge = first :: rest ∧ edge inner = rest.foldl pick first := by
  cases boxes with
  | nil => cases h
  | cons box boxes =>
    obtain rfl := Option.some.inj h
    refine ⟨edge box, boxes.map edge, rfl, ?_⟩
    rw [List.foldl_map]
    exact (List.foldl_hom edge fun a b => (hunion a b).symm).symm

theorem hull?_eq_none_iff {boxes : List Box} : hull? boxes = none ↔ boxes = [] := by
  cases boxes with
  | nil => exact iff_of_true rfl rfl
  | cons box boxes => exact iff_of_false (Option.some_ne_none _) (List.cons_ne_nil _ _)

end Box

/-- The boxes of the nodes that are directly in a subgraph. -/
def nodeBoxes (nodes : List Node) (id : String) : List Box :=
  (nodes.filter (·.subgraph == some id)).map Box.ofNode

/-- Replacing the first subgraph with an id changes no look-up of another id. -/
theorem find?_modify {subgraphs : List Subgraph} {s t : Subgraph} {id : String}
    (hs : subgraphs.find? (·.id == id) = some s) (ht : t.id = id) (x : String) :
    (subgraphs.modify (subgraphs.findIdx (·.id == id)) fun _ => t).find? (·.id == x) =
      if x = id then some t else subgraphs.find? (·.id == x) := by
  induction subgraphs with
  | nil => cases hs
  | cons u us ih =>
    rw [List.find?_cons] at hs
    rw [List.findIdx_cons]
    cases hu : u.id == id with
    | true =>
      rw [cond_true, List.modify_zero_cons, List.find?_cons, List.find?_cons, ht, eq_of_beq hu]
      by_cases hx : x = id
      · rw [if_pos hx, hx, beq_self_eq_true]
      · rw [if_neg hx, beq_false_of_ne (Ne.symm hx)]
    | false =>
      rw [hu] at hs
      rw [cond_false, List.modify_succ_cons, List.find?_cons, List.find?_cons, ih hs]
      cases hux : u.id == x with
      | true =>
        have hne : x ≠ id := fun hx => by
          rw [← hx, hux] at hu
          cases hu
        rw [if_neg hne, if_neg hne]
      | false => rfl

/-! ## Runs -/

namespace Bounding

/-- The ids of the subgraphs whose parent is `id`. -/
def childIds (b : Bounding) (id : String) : List String :=
  (b.subgraphs.filter (·.parent == some id)).map (·.id)

/-- The first subgraph with the id. -/
def find? (b : Bounding) (id : String) : Option Subgraph :=
  b.subgraphs.find? (·.id == id)

/-- The id counts as visited. -/
def enter (b : Bounding) (id : String) : Bounding :=
  { b with visited := id :: b.visited }

/-- The first subgraph with the id is replaced. -/
def write (b : Bounding) (id : String) (s : Subgraph) : Bounding :=
  { b with subgraphs := b.subgraphs.modify (b.subgraphs.findIdx (·.id == id)) fun _ => s }

/-- A finished run. Bounding the subgraphs `ids` one after another, each after those below it, leads
from `b` to `out`, finds `boxes`, and writes the boxes of the subgraphs `written`, all in this
order. What was visited is passed over, and without anything in it a subgraph gets no box. -/
inductive Run (nodes : List Node) (padding : Float32) :
    List String → Bounding → Bounding → List Box → List String → Prop where
  | done (b : Bounding) : Run nodes padding [] b b [] []
  | skip {id : String} {ids written : List String} {b out : Bounding} {boxes : List Box}
      (hseen : id ∈ b.visited) (rest : Run nodes padding ids b out boxes written) :
      Run nodes padding (id :: ids) b out boxes written
  | pass {id : String} {ids inside written : List String} {b mid out : Bounding}
      {found boxes : List Box} (hnew : id ∉ b.visited)
      (below : Run nodes padding (b.childIds id) (b.enter id) mid found inside)
      (hnone : Box.hull? (found ++ nodeBoxes nodes id) = none ∨ mid.find? id = none)
      (rest : Run nodes padding ids mid out boxes written) :
      Run nodes padding (id :: ids) b out boxes (inside ++ written)
  | bound {id : String} {ids inside written : List String} {b mid out : Bounding}
      {found boxes : List Box} {inner : Box} {s : Subgraph} (hnew : id ∉ b.visited)
      (below : Run nodes padding (b.childIds id) (b.enter id) mid found inside)
      (hinner : Box.hull? (found ++ nodeBoxes nodes id) = some inner)
      (hs : mid.find? id = some s)
      (rest : Run nodes padding ids (mid.write id (s.around padding inner)) out boxes written) :
      Run nodes padding (id :: ids) b out (Box.ofSubgraph (s.around padding inner) :: boxes)
        (inside ++ id :: written)

variable {nodes : List Node} {padding : Float32} {ids written all : List String}
  {b mid out : Bounding} {boxes : List Box} {id x : String} {s : Subgraph} {depth : Nat}

theorem id_of_find? (h : b.find? id = some s) : s.id = id := by
  have hfound : b.subgraphs.find? (·.id == id) = some s := h
  exact eq_of_beq (List.find?_some hfound :)

theorem find?_write_around {inner : Box} (hs : b.find? id = some s) (x : String) :
    (b.write id (s.around padding inner)).find? x =
      if x = id then some (s.around padding inner) else b.find? x :=
  find?_modify (t := s.around padding inner) hs (show s.id = id from id_of_find? hs) x

theorem map_bare_write {inner : Box} (hs : b.find? id = some s) :
    (b.write id (s.around padding inner)).subgraphs.map Subgraph.bare =
      b.subgraphs.map Subgraph.bare :=
  map_bare_modify hs

/-- Subgraphs that differ in their geometry only are nested in the same way. -/
theorem childIds_eq {fc : Flowchart}
    (hfc : b.subgraphs.map Subgraph.bare = fc.subgraphs.map Subgraph.bare) (id : String) :
    b.childIds id = fc.childIds id := by
  have hbare (subgraphs : List Subgraph) :
      (subgraphs.filter (·.parent == some id)).map (·.id) =
        ((subgraphs.map Subgraph.bare).filter (·.parent == some id)).map (·.id) := by
    rw [List.filter_map, List.map_map]
    rfl
  rw [childIds, hbare, hfc, ← hbare]
  rfl

/-- A search below an id, once the id counts as visited, is a search from the id. -/
theorem search_enter {fc : Flowchart}
    (hfc : b.subgraphs.map Subgraph.bare = fc.subgraphs.map Subgraph.bare) (hnew : id ∉ b.visited)
    (h : Search fc.childIds (b.childIds id) (b.enter id).visited.reverse mid.visited.reverse) :
    Search fc.childIds [id] b.visited.reverse mid.visited.reverse := by
  rw [enter, List.reverse_cons, childIds_eq hfc] at h
  exact .enter (fun hmem => hnew (List.mem_reverse.1 hmem)) h (.done _)

namespace Run

/-- No more than the geometry of subgraphs is written. -/
theorem map_bare (h : Run nodes padding ids b out boxes written) :
    out.subgraphs.map Subgraph.bare = b.subgraphs.map Subgraph.bare := by
  induction h with
  | done => rfl
  | skip _ _ ih => exact ih
  | pass _ _ _ _ ihbelow ihrest => exact ihrest.trans ihbelow
  | bound _ _ _ hs _ ihbelow ihrest => exact ihrest.trans ((map_bare_write hs).trans ihbelow)

/-- The ids that are visited are found by a depth-first search. -/
theorem search {fc : Flowchart} (h : Run nodes padding ids b out boxes written)
    (hfc : b.subgraphs.map Subgraph.bare = fc.subgraphs.map Subgraph.bare) :
    Search fc.childIds ids b.visited.reverse out.visited.reverse := by
  induction h with
  | done => exact .done _
  | skip hseen _ ih => exact .skip (List.mem_reverse.2 hseen) (ih hfc)
  | pass hnew below _ _ ihbelow ihrest =>
    exact (search_enter hfc hnew (ihbelow hfc)).cons (ihrest (below.map_bare.trans hfc))
  | bound hnew below _ hs _ ihbelow ihrest =>
    exact (search_enter hfc hnew (ihbelow hfc)).cons
      (ihrest ((map_bare_write hs).trans (below.map_bare.trans hfc)))

/-- A box that is not written stays. -/
theorem frame (h : Run nodes padding ids b out boxes written) (hx : x ∉ written) :
    out.find? x = b.find? x := by
  induction h with
  | done => rfl
  | skip _ _ ih => exact ih hx
  | pass _ _ _ _ ihbelow ihrest =>
    rw [List.mem_append, not_or] at hx
    exact (ihrest hx.2).trans (ihbelow hx.1)
  | bound _ _ _ hs _ ihbelow ihrest =>
    rw [List.mem_append, List.mem_cons, not_or, not_or] at hx
    rw [ihrest hx.2.2, find?_write_around hs, if_neg hx.2.1]
    exact ihbelow hx.1

theorem visited_subset (h : Run nodes padding ids b out boxes written) :
    b.visited ⊆ out.visited := by
  induction h with
  | done => exact List.Subset.refl _
  | skip _ _ ih => exact ih
  | pass _ _ _ _ ihbelow ihrest => exact fun x hx => ihrest (ihbelow (List.mem_cons_of_mem _ hx))
  | bound _ _ _ _ _ ihbelow ihrest =>
    exact fun x hx => ihrest (ihbelow (List.mem_cons_of_mem _ hx))

/-- Only what is visited for the first time is written. -/
theorem mem_visited_of_mem_written (h : Run nodes padding ids b out boxes written)
    (hx : x ∈ written) : x ∈ out.visited ∧ x ∉ b.visited := by
  induction h with
  | done => cases hx
  | skip _ _ ih => exact ih hx
  | pass hnew below _ rest ihbelow ihrest =>
    rcases List.mem_append.1 hx with hx | hx
    · obtain ⟨hmem, hnot⟩ := ihbelow hx
      exact ⟨rest.visited_subset hmem, fun h => hnot (List.mem_cons_of_mem _ h)⟩
    · obtain ⟨hmem, hnot⟩ := ihrest hx
      exact ⟨hmem, fun h => hnot (below.visited_subset (List.mem_cons_of_mem _ h))⟩
  | bound hnew below _ _ rest ihbelow ihrest =>
    rcases List.mem_append.1 hx with hx | hx
    · obtain ⟨hmem, hnot⟩ := ihbelow hx
      exact ⟨rest.visited_subset hmem, fun h => hnot (List.mem_cons_of_mem _ h)⟩
    · rcases List.mem_cons.1 hx with rfl | hx
      · exact ⟨rest.visited_subset (below.visited_subset List.mem_cons_self), hnew⟩
      · obtain ⟨hmem, hnot⟩ := ihrest hx
        exact ⟨hmem, fun h => hnot (below.visited_subset (List.mem_cons_of_mem _ h))⟩

/-- The box of what was visited before stays. -/
theorem find?_of_mem_visited (h : Run nodes padding ids b out boxes written)
    (hx : x ∈ b.visited) : out.find? x = b.find? x :=
  h.frame fun hwritten => (h.mem_visited_of_mem_written hwritten).2 hx

/-- No box is written twice. -/
theorem nodup_written (h : Run nodes padding ids b out boxes written) : written.Nodup := by
  induction h with
  | done => exact List.nodup_nil
  | skip _ _ ih => exact ih
  | pass _ below _ rest ihbelow ihrest =>
    refine List.nodup_append.2 ⟨ihbelow, ihrest, ?_⟩
    rintro x hx _ hy rfl
    exact (rest.mem_visited_of_mem_written hy).2 (below.mem_visited_of_mem_written hx).1
  | bound _ below _ _ rest ihbelow ihrest =>
    refine List.nodup_append.2 ⟨ihbelow, List.nodup_cons.2 ⟨fun hid => ?_, ihrest⟩, ?_⟩
    · exact (rest.mem_visited_of_mem_written hid).2 (below.visited_subset List.mem_cons_self)
    · rintro x hx _ hy rfl
      obtain ⟨hmem, hnot⟩ := below.mem_visited_of_mem_written hx
      rcases List.mem_cons.1 hy with rfl | hy
      · exact hnot List.mem_cons_self
      · exact (rest.mem_visited_of_mem_written hy).2 hmem

/-- A run through several ids goes through the first one and then through the others. -/
theorem cons {found : List Box} {inside : List String}
    (hfirst : Run nodes padding [id] b mid found inside)
    (hrest : Run nodes padding ids mid out boxes written) :
    Run nodes padding (id :: ids) b out (found ++ boxes) (inside ++ written) := by
  cases hfirst with
  | skip hseen hdone =>
    cases hdone
    exact .skip hseen hrest
  | pass hnew below hnone hdone =>
    cases hdone
    rw [List.append_nil]
    exact .pass hnew below hnone hrest
  | bound hnew below hinner hs hdone =>
    cases hdone
    rw [List.append_assoc]
    exact .bound hnew below hinner hs hrest

end Run

/-! ## The bounds of a flowchart -/

/-- Visits to one id after another, with the boxes that they find. -/
def visitAll (nodes : List Node) (padding : Float32) (depth : Nat) (start : Bounding × Option Box)
    (ids : List String) : Bounding × Option Box :=
  ids.foldl
    (fun acc id =>
      ((visit nodes padding depth acc.1 id).1,
        Box.union? acc.2 (visit nodes padding depth acc.1 id).2))
    start

theorem fst_visitAll (start : Bounding × Option Box) (ids : List String) :
    (visitAll nodes padding depth start ids).1 =
      ids.foldl (fun b id => (visit nodes padding depth b id).1) start.1 :=
  (List.foldl_hom Prod.fst fun _ _ => rfl).symm

/-- Where each visit to an id is a run, visits to one id after another are a run. -/
theorem exists_run_visitAll {fc : Flowchart}
    (hvisit : ∀ b id, b.subgraphs.map Subgraph.bare = fc.subgraphs.map Subgraph.bare → id ∈ all →
      unseen all b.visited ≤ depth → ∃ written, Run nodes padding [id] b
        (visit nodes padding depth b id).1 (visit nodes padding depth b id).2.toList written)
    (hfc : b.subgraphs.map Subgraph.bare = fc.subgraphs.map Subgraph.bare)
    (hids : ∀ id ∈ ids, id ∈ all) (hleft : unseen all b.visited ≤ depth) (inner : Option Box) :
    ∃ found written, Run nodes padding ids b (visitAll nodes padding depth (b, inner) ids).1 found
        written ∧
      (visitAll nodes padding depth (b, inner) ids).2 =
        found.foldl (fun inner box => Box.union? inner (some box)) inner := by
  induction ids generalizing b inner with
  | nil => exact ⟨[], [], .done b, rfl⟩
  | cons id ids ih =>
    obtain ⟨inside, hfirst⟩ := hvisit b id hfc (hids id List.mem_cons_self) hleft
    obtain ⟨found, written, hrest, hinner⟩ := ih (hfirst.map_bare.trans hfc)
      (fun id hid => hids id (List.mem_cons_of_mem _ hid))
      (Nat.le_trans (unseen_le hfirst.visited_subset) hleft)
      (Box.union? inner (visit nodes padding depth b id).2)
    refine ⟨_, _, hfirst.cons hrest, ?_⟩
    rw [List.foldl_append]
    refine hinner.trans (congrArg (fun start => found.foldl _ start) ?_)
    cases (visit nodes padding depth b id).2 with
    | none => cases inner <;> rfl
    | some box => rfl

/-- A visit to a new id goes through those below it, and then writes a box if there is one. -/
theorem visit_of_new (hnew : id ∉ b.visited) :
    visit nodes padding (depth + 1) b id =
      match (nodes.filter (·.subgraph == some id)).foldl
          (fun inner n => Box.union? inner (some (Box.ofNode n)))
          (visitAll nodes padding depth (b.enter id, none) (b.childIds id)).2,
        (visitAll nodes padding depth (b.enter id, none) (b.childIds id)).1.find? id with
      | some inner, some s =>
        ((visitAll nodes padding depth (b.enter id, none) (b.childIds id)).1.write id
          (s.around padding inner), some (Box.ofSubgraph (s.around padding inner)))
      | _, _ => ((visitAll nodes padding depth (b.enter id, none) (b.childIds id)).1, none) := by
  rw [visit, if_neg fun h => hnew (List.contains_iff_mem.1 h)]
  rfl

/-- A visit that may go as deep as there are ids left goes as deep as it has to. -/
theorem exists_run_visit (nodes : List Node) (padding : Float32) {fc : Flowchart}
    (hall : fc.subgraphIds ⊆ all)
    (hfc : b.subgraphs.map Subgraph.bare = fc.subgraphs.map Subgraph.bare) (hid : id ∈ all)
    (hleft : unseen all b.visited ≤ depth) :
    ∃ written, Run nodes padding [id] b (visit nodes padding depth b id).1
      (visit nodes padding depth b id).2.toList written := by
  induction depth generalizing b id with
  | zero =>
    by_cases hseen : id ∈ b.visited
    · exact ⟨[], .skip hseen (.done b)⟩
    · have hpos := unseen_pos hid hseen
      omega
  | succ depth ih =>
    by_cases hseen : id ∈ b.visited
    · rw [visit, if_pos (List.contains_iff_mem.2 hseen)]
      exact ⟨[], .skip hseen (.done b)⟩
    · have hless : unseen all (b.enter id).visited < unseen all b.visited :=
        unseen_lt (List.subset_cons_self _ _) hid hseen List.mem_cons_self
      have hchildren : ∀ child ∈ b.childIds id, child ∈ all := fun child hchild => by
        rw [childIds_eq hfc] at hchild
        exact hall (Flowchart.mem_subgraphIds_of_mem_childIds hchild)
      obtain ⟨found, inside, hbelow, hfound⟩ := exists_run_visitAll
        (b := b.enter id) (fun _ _ => ih) hfc hchildren (by omega) none
      have hinner : (nodes.filter (·.subgraph == some id)).foldl
          (fun inner n => Box.union? inner (some (Box.ofNode n)))
          (visitAll nodes padding depth (b.enter id, none) (b.childIds id)).2 =
            Box.hull? (found ++ nodeBoxes nodes id) := by
        rw [← Box.foldl_union?_none, List.foldl_append, hfound, nodeBoxes, List.foldl_map]
      rw [visit_of_new hseen, hinner]
      cases hhull : Box.hull? (found ++ nodeBoxes nodes id) with
      | none => exact ⟨_, .pass hseen hbelow (.inl hhull) (.done _)⟩
      | some inner =>
        cases hs : (visitAll nodes padding depth (b.enter id, none) (b.childIds id)).1.find? id with
        | none => exact ⟨_, .pass hseen hbelow (.inr hs) (.done _)⟩
        | some s => exact ⟨_, .bound hseen hbelow hhull hs (.done _)⟩

end Bounding

namespace Flowchart

variable {fc : Flowchart}

theorem mem_subgraphIds_of_mem_rootSubgraphs {id : String} (h : id ∈ fc.rootSubgraphs) :
    id ∈ fc.subgraphIds := by
  obtain ⟨s, hs, rfl⟩ := List.mem_map.1 h
  exact List.mem_map.2 ⟨s, (List.mem_filter.1 hs).1, rfl⟩

/-- The bounds of a flowchart come from a run that starts with the outermost subgraphs. -/
theorem exists_run_bounded (fc : Flowchart) : ∃ done boxes written,
    Bounding.Run fc.nodes fc.spacing.subgraphPadding fc.rootSubgraphs
      { subgraphs := fc.subgraphs } done boxes written ∧
    fc.bounded = { fc with subgraphs := done.subgraphs } := by
  have hleft : unseen fc.subgraphIds [] ≤ fc.subgraphs.length + 1 := by
    calc unseen fc.subgraphIds []
      _ ≤ fc.subgraphIds.length := List.length_filter_le _ _
      _ ≤ fc.subgraphs.length + 1 := by rw [subgraphIds, List.length_map]; exact Nat.le_succ _
  obtain ⟨boxes, written, hrun, -⟩ := Bounding.exists_run_visitAll
    (fun _ _ => Bounding.exists_run_visit fc.nodes fc.spacing.subgraphPadding
      (List.Subset.refl _)) (b := { subgraphs := fc.subgraphs }) rfl
    (fun _ => mem_subgraphIds_of_mem_rootSubgraphs) hleft none
  -- the boxes of the outermost subgraphs are not used
  rw [Bounding.fst_visitAll] at hrun
  exact ⟨_, boxes, written, hrun, rfl⟩

end Flowchart

end FlowchartLayout
