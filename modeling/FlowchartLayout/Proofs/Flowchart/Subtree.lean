import FlowchartLayout.Flowchart.Subtree
import FlowchartLayout.Proofs.Flowchart.WellFormed
import Mathlib.Logic.Relation

/-!
# What lies below a subgraph

A depth-first search goes through everything below an id before it goes on, and passes over what it
has seen. It finds each reachable id once and after one that it lies in, be there cycles, unknown
parents or repeated ids, and the walk over nested subgraphs is such a search.

## Main definitions

- `Search` — a finished depth-first search, with no bound on its depth
- `unseen` — how many ids are left to be found

## Main statements

- `Search.mem_iff` — a search that starts afresh finds what is reachable
- `Flowchart.search_visitSubtree` — a walk whose depth is bounded by what is left is a search
- `Flowchart.subtree_exact` — the subgraphs below an id are found without repetition, parents
  first, and they are all there
-/

namespace FlowchartLayout

/-- A finished search. Going through `ids` one after another, each with what is below it according
to `next`, leads from the ids `seen` before to the ids `out` seen afterwards. -/
inductive Search (next : String → List String) :
    List String → List String → List String → Prop where
  | done (seen : List String) : Search next [] seen seen
  | skip {id : String} {ids seen out : List String} (hseen : id ∈ seen)
      (rest : Search next ids seen out) : Search next (id :: ids) seen out
  | enter {id : String} {ids seen mid out : List String} (hnew : id ∉ seen)
      (below : Search next (next id) (seen ++ [id]) mid) (rest : Search next ids mid out) :
      Search next (id :: ids) seen out

namespace Search

variable {next : String → List String} {ids seen mid out : List String} {id x y : String}

/-- A search has one result. -/
theorem unique {out' : List String} (h : Search next ids seen out)
    (h' : Search next ids seen out') : out = out' := by
  induction h generalizing out' with
  | done =>
    cases h'
    rfl
  | skip hseen _ ih =>
    cases h' with
    | skip _ rest => exact ih rest
    | enter hnew => exact absurd hseen hnew
  | enter hnew _ _ ihbelow ihrest =>
    cases h' with
    | skip hseen => exact absurd hseen hnew
    | enter _ below rest =>
      obtain rfl := ihbelow below
      exact ihrest rest

/-- What was seen stays in its place. -/
theorem isPrefix (h : Search next ids seen out) : seen <+: out := by
  induction h with
  | done => exact List.prefix_refl _
  | skip _ _ ih => exact ih
  | enter _ _ _ ihbelow ihrest => exact (List.prefix_append _ _).trans (ihbelow.trans ihrest)

theorem nodup (h : Search next ids seen out) (hseen : seen.Nodup) : out.Nodup := by
  induction h with
  | done => exact hseen
  | skip _ _ ih => exact ih hseen
  | enter hnew _ _ ihbelow ihrest =>
    refine ihrest (ihbelow (List.nodup_append.2 ⟨hseen, List.nodup_singleton _, ?_⟩))
    intro x hx y hy
    rw [List.mem_singleton.1 hy]
    exact fun heq => hnew (heq ▸ hx)

/-- The ids that are gone through are seen. -/
theorem mem_of_mem_ids (h : Search next ids seen out) (hid : id ∈ ids) : id ∈ out := by
  induction h with
  | done => cases hid
  | skip hseen rest ih =>
    rcases List.mem_cons.1 hid with rfl | hid
    · exact rest.isPrefix.subset hseen
    · exact ih hid
  | enter _ below rest _ ihrest =>
    rcases List.mem_cons.1 hid with rfl | hid
    · refine rest.isPrefix.subset (below.isPrefix.subset ?_)
      exact List.mem_append_right _ List.mem_cons_self
    · exact ihrest hid

/-- With a new id everything right below it is seen. -/
theorem mem_of_mem_next (h : Search next ids seen out) (hx : x ∈ out) (hnew : x ∉ seen)
    (hy : y ∈ next x) : y ∈ out := by
  induction h with
  | done => exact absurd hx hnew
  | skip _ _ ih => exact ih hx hnew
  | @enter id _ _ mid _ _ below rest ihbelow ihrest =>
    by_cases hmid : x ∈ mid
    · refine rest.isPrefix.subset ?_
      by_cases hid : x = id
      · exact below.mem_of_mem_ids (hid ▸ hy)
      · refine ihbelow hmid fun hmem => ?_
        rcases List.mem_append.1 hmem with hmem | hmem
        · exact hnew hmem
        · exact hid (List.mem_singleton.1 hmem)
    · exact ihrest hx hmid

/-- What is seen was seen before, or it can be reached from an id that is gone through. -/
theorem seen_or_reachable (h : Search next ids seen out) (hx : x ∈ out) :
    x ∈ seen ∨ ∃ id ∈ ids, Relation.ReflTransGen (fun p c => c ∈ next p) id x := by
  induction h with
  | done => exact .inl hx
  | skip _ _ ih =>
    rcases ih hx with hseen | ⟨start, hstart, hreach⟩
    · exact .inl hseen
    · exact .inr ⟨start, List.mem_cons_of_mem _ hstart, hreach⟩
  | @enter id _ _ _ _ _ _ _ ihbelow ihrest =>
    rcases ihrest hx with hmid | ⟨start, hstart, hreach⟩
    · rcases ihbelow hmid with hseen | ⟨child, hchild, hreach⟩
      · rcases List.mem_append.1 hseen with hseen | hseen
        · exact .inl hseen
        · rw [List.mem_singleton.1 hseen]
          exact .inr ⟨id, List.mem_cons_self, Relation.ReflTransGen.refl⟩
      · exact .inr ⟨id, List.mem_cons_self, Relation.ReflTransGen.head hchild hreach⟩
    · exact .inr ⟨start, List.mem_cons_of_mem _ hstart, hreach⟩

/-- A search that starts afresh finds what is reachable. -/
theorem mem_iff (h : Search next ids [] out) :
    x ∈ out ↔ ∃ id ∈ ids, Relation.ReflTransGen (fun p c => c ∈ next p) id x := by
  constructor
  · intro hx
    exact (h.seen_or_reachable hx).resolve_left List.not_mem_nil
  · rintro ⟨id, hid, hreach⟩
    induction hreach with
    | refl => exact h.mem_of_mem_ids hid
    | tail _ hnext ih => exact h.mem_of_mem_next ih List.not_mem_nil hnext

/-- What is found is one of the ids that are gone through, or it is found after an id that it is
right below. -/
theorem mem_ids_or_exists_before (h : Search next ids seen out) {i : Nat} (hi : out[i]? = some x)
    (hnew : seen.length ≤ i) :
    x ∈ ids ∨ ∃ j < i, ∃ p, seen.length ≤ j ∧ out[j]? = some p ∧ x ∈ next p := by
  induction h generalizing i with
  | done =>
    rw [List.getElem?_eq_none hnew] at hi
    cases hi
  | skip _ _ ih =>
    rcases ih hi hnew with hmem | hbefore
    · exact .inl (List.mem_cons_of_mem _ hmem)
    · exact .inr hbefore
  | @enter id _ seen mid out _ below rest ihbelow ihrest =>
    obtain ⟨found, hmid⟩ := below.isPrefix
    obtain ⟨more, hout⟩ := rest.isPrefix
    by_cases hlt : i < mid.length
    · have hget : ∀ j < mid.length, out[j]? = mid[j]? := fun j hj => by
        rw [← hout, List.getElem?_append_left hj]
      have hentered : mid[seen.length]? = some id := by rw [← hmid]; simp
      rw [hget i hlt] at hi
      rcases Nat.eq_or_lt_of_le hnew with rfl | hlater
      · rw [hentered] at hi
        cases hi
        exact .inl List.mem_cons_self
      · have hfound : (seen ++ [id]).length ≤ i := by
          rw [List.length_append, List.length_singleton]
          exact hlater
        rcases ihbelow hi hfound with hchild | ⟨j, hj, p, hle, hp, hx⟩
        · exact .inr ⟨seen.length, hlater, id, Nat.le_refl _,
            (hget _ (Nat.lt_trans hlater hlt)).trans hentered, hchild⟩
        · rw [List.length_append] at hle
          exact .inr ⟨j, hj, p, Nat.le_of_add_right_le hle,
            (hget j (Nat.lt_trans hj hlt)).trans hp, hx⟩
    · have hlength : seen.length ≤ mid.length := by
        rw [← hmid, List.append_assoc, List.length_append]
        exact Nat.le_add_right _ _
      rcases ihrest hi (Nat.le_of_not_lt hlt) with hmem | ⟨j, hj, p, hle, hp, hx⟩
      · exact .inl (List.mem_cons_of_mem _ hmem)
      · exact .inr ⟨j, hj, p, Nat.le_trans hlength hle, hp, hx⟩

/-- A search through several ids goes through the first one and then through the others. -/
theorem cons (hfirst : Search next [id] seen mid) (hrest : Search next ids mid out) :
    Search next (id :: ids) seen out := by
  cases hfirst with
  | skip hseen hdone =>
    cases hdone
    exact .skip hseen hrest
  | enter hnew below hdone =>
    cases hdone
    exact .enter hnew below hrest

end Search

/-! ## What is left to be found -/

/-- How many of the ids are not seen yet. -/
def unseen (ids seen : List String) : Nat :=
  (ids.filter fun id => !seen.contains id).length

section Unseen

variable {ids seen later : List String} {id : String}

theorem filter_unseen (h : seen ⊆ later) :
    (ids.filter fun id => !later.contains id) =
      (ids.filter fun id => !seen.contains id).filter fun id => !later.contains id := by
  rw [List.filter_filter]
  refine List.filter_congr fun id _ => ?_
  by_cases hid : id ∈ seen
  · simp [h hid]
  · simp [hid]

theorem unseen_le (h : seen ⊆ later) : unseen ids later ≤ unseen ids seen := by
  rw [unseen, filter_unseen h]
  exact List.length_filter_le ..

/-- Once an id is seen, fewer are left. -/
theorem unseen_lt (h : seen ⊆ later) (hid : id ∈ ids) (hnew : id ∉ seen) (hseen : id ∈ later) :
    unseen ids later < unseen ids seen := by
  rw [unseen, filter_unseen h]
  exact List.length_filter_lt_length_iff_exists.2
    ⟨id, List.mem_filter.2 ⟨hid, by simp [hnew]⟩, by simp [hseen]⟩

theorem unseen_pos (hid : id ∈ ids) (hnew : id ∉ seen) : 0 < unseen ids seen :=
  List.length_pos_of_mem (List.mem_filter.2 ⟨hid, by simp [hnew]⟩)

end Unseen

theorem Node.isIn_iff {n : Node} {subgraphs : List String} :
    n.isIn subgraphs = true ↔ ∃ owner, n.subgraph = some owner ∧ owner ∈ subgraphs := by
  unfold isIn
  cases n.subgraph with
  | none => simp
  | some owner => simp

namespace Flowchart

variable {fc : Flowchart} {ids all seen : List String} {id : String} {depth : Nat}

/-- The ids of the subgraphs whose parent is `id`. -/
def childIds (fc : Flowchart) (id : String) : List String :=
  (fc.childSubgraphs id).map (·.id)

theorem mem_childIds {p c : String} : c ∈ fc.childIds p ↔ fc.IsParent p c := by
  simp only [childIds, childSubgraphs, List.mem_map, List.mem_filter, beq_iff_eq, IsParent]
  exact exists_congr fun s => by rw [and_assoc, and_comm (a := s.parent = some p)]

theorem mem_subgraphIds_of_mem_childIds {p c : String} (h : c ∈ fc.childIds p) :
    c ∈ fc.subgraphIds := by
  obtain ⟨s, hs, rfl, -⟩ := mem_childIds.1 h
  exact List.mem_map.2 ⟨s, hs, rfl⟩

/-- Where each walk from an id is a search, walks from one id after another are a search. -/
theorem search_foldl_visitSubtree
    (hvisit : ∀ seen id, id ∈ all → unseen all seen ≤ depth →
      Search fc.childIds [id] seen (fc.visitSubtree depth seen id))
    (hids : ∀ id ∈ ids, id ∈ all) (hleft : unseen all seen ≤ depth) :
    Search fc.childIds ids seen (ids.foldl (fc.visitSubtree depth) seen) := by
  induction ids generalizing seen with
  | nil => exact .done seen
  | cons id ids ih =>
    have hfirst := hvisit seen id (hids id List.mem_cons_self) hleft
    exact hfirst.cons (ih (fun id hid => hids id (List.mem_cons_of_mem _ hid))
      (Nat.le_trans (unseen_le hfirst.isPrefix.subset) hleft))

/-- A walk that may go as deep as there are ids left goes as deep as it has to. -/
theorem search_visitSubtree (hall : fc.subgraphIds ⊆ all) (hid : id ∈ all)
    (hleft : unseen all seen ≤ depth) :
    Search fc.childIds [id] seen (fc.visitSubtree depth seen id) := by
  induction depth generalizing seen id with
  | zero =>
    by_cases hseen : id ∈ seen
    · exact .skip hseen (.done seen)
    · have hpos := unseen_pos hid hseen
      omega
  | succ depth ih =>
    unfold visitSubtree
    by_cases hseen : id ∈ seen
    · rw [if_pos (List.contains_iff_mem.2 hseen)]
      exact .skip hseen (.done seen)
    · rw [if_neg (fun h => hseen (List.contains_iff_mem.1 h))]
      have hless : unseen all (seen ++ [id]) < unseen all seen :=
        unseen_lt (List.subset_append_left _ _) hid hseen (by simp)
      have hbelow : Search fc.childIds (fc.childIds id) (seen ++ [id])
          ((fc.childIds id).foldl (fc.visitSubtree depth) (seen ++ [id])) :=
        search_foldl_visitSubtree (fun _ _ => ih)
          (fun _ hchild => hall (mem_subgraphIds_of_mem_childIds hchild)) (by omega)
      rw [childIds, List.foldl_map] at hbelow
      exact .enter hseen hbelow (.done _)

theorem search_subtree (fc : Flowchart) (id : String) :
    Search fc.childIds [id] [] (fc.subtree id) := by
  have hleft : unseen (id :: fc.subgraphIds) [] ≤ fc.subgraphs.length + 1 := by
    calc unseen (id :: fc.subgraphIds) []
      _ ≤ (id :: fc.subgraphIds).length := List.length_filter_le _ _
      _ = fc.subgraphs.length + 1 := by rw [List.length_cons, subgraphIds, List.length_map]
  exact search_visitSubtree (List.subset_cons_self _ _) List.mem_cons_self hleft

theorem mem_subtree_iff {x : String} :
    x ∈ fc.subtree id ↔ Relation.ReflTransGen fc.IsParent id x := by
  simp only [(search_subtree fc id).mem_iff, List.mem_singleton, exists_eq_left, mem_childIds]

theorem head?_subtree (fc : Flowchart) (id : String) : (fc.subtree id).head? = some id := by
  have hsearch := search_subtree fc id
  have hne : fc.subtree id ≠ [] := fun hnil => by
    have hmem := hsearch.mem_of_mem_ids List.mem_cons_self
    rw [hnil] at hmem
    cases hmem
  obtain ⟨x, xs, hcons⟩ := List.exists_cons_of_ne_nil hne
  have hx : (fc.subtree id)[0]? = some x := by rw [hcons]; rfl
  -- nothing comes before the first id
  rcases hsearch.mem_ids_or_exists_before hx (Nat.le_refl _) with hid | ⟨j, hj, -⟩
  · rw [hcons, List.head?_cons, List.mem_singleton.1 hid]
  · cases hj

/-- For any id and any parents, the search for what is below the id ends, with a list that starts
with the id, repeats nothing, holds what can be reached by going from parents to their subgraphs,
and has every other id after one of its parents. -/
theorem subtree_exact (fc : Flowchart) (id : String) :
    (∀ out, Search fc.childIds [id] [] out ↔ out = fc.subtree id) ∧
      (fc.subtree id).Nodup ∧ (fc.subtree id).head? = some id ∧
      (∀ x, x ∈ fc.subtree id ↔ Relation.ReflTransGen fc.IsParent id x) ∧
      ∀ i x, (fc.subtree id)[i]? = some x → 0 < i →
        ∃ j < i, ∃ p, (fc.subtree id)[j]? = some p ∧ fc.IsParent p x := by
  have hsearch := search_subtree fc id
  have hnodup : (fc.subtree id).Nodup := hsearch.nodup List.nodup_nil
  have hhead := head?_subtree fc id
  refine ⟨fun out => ⟨fun h => h.unique hsearch, fun h => h ▸ hsearch⟩, hnodup, hhead,
    fun x => mem_subtree_iff, fun i x hi hpos => ?_⟩
  rcases hsearch.mem_ids_or_exists_before hi (Nat.zero_le _) with hid | ⟨j, hj, p, -, hp, hx⟩
  · -- the id itself is there only once, at the start
    rw [List.mem_singleton.1 hid] at hi
    rw [List.head?_eq_getElem?] at hhead
    obtain ⟨hlt, hget⟩ := List.getElem?_eq_some_iff.1 hi
    obtain ⟨hzero, hfirst⟩ := List.getElem?_eq_some_iff.1 hhead
    have heq := (hnodup.getElem_inj_iff).1 (hget.trans hfirst.symm)
    omega
  · exact ⟨j, hj, p, hp, mem_childIds.1 hx⟩

end Flowchart

end FlowchartLayout
