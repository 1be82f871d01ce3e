import FlowchartLayout.Proofs.Layers.Stages
import Mathlib.Logic.Relation
import Mathlib.Order.WellFounded
import Mathlib.Data.Fintype.Card
import Mathlib.Data.Fintype.EquivFin

/-!
# Edges that lead to later layers

An edge leads to a later layer unless its target was placed to break a stall before its source had
a layer, and the source then came to lie at least as deep. That happens only to sources on or below
a cycle.

## Main definitions

- `Linked` — an edge leads from one position to another
- `Layering.PlacedAhead` — a position was placed to break a stall while another one had no layer
- `Overtaken` — the target of an edge was placed ahead, and the source is not above it

## Main statements

- `linked_iff` — an id in an edge stands for the last node that bears it, and loops do not count
- `layer_lt_iff_not_overtaken` — the exact condition under which an edge leads to a later layer
- `not_layer_lt_below_cycle` — edges below a cycle need not lead to later layers
-/

namespace FlowchartLayout

/-- An edge leads from the node at position `i` to another node, at position `j`. -/
def Linked (nodes : List Node) (edges : List Edge) (i j : Nat) : Prop :=
  (i, j) ∈ links nodes edges

/-! ## Positions of ids -/

theorem lastIndexOf?_eq_none_iff {ids : List String} {id : String} :
    lastIndexOf? ids id = none ↔ id ∉ ids := by
  induction ids with
  | nil => simp [lastIndexOf?]
  | cons x ids ih =>
    unfold lastIndexOf?
    rw [List.mem_cons, not_or, ← ih, eq_comm (a := id)]
    cases lastIndexOf? ids id with
    | none => simp
    | some i => simp

/-- An id stands for the last position that bears it. -/
theorem lastIndexOf?_eq_some_iff {ids : List String} {id : String} {i : Nat} :
    lastIndexOf? ids id = some i ↔ ids[i]? = some id ∧ ∀ j, i < j → ids[j]? ≠ some id := by
  induction ids generalizing i with
  | nil => simp [lastIndexOf?]
  | cons x ids ih =>
    unfold lastIndexOf?
    cases hlast : lastIndexOf? ids id with
    | some k =>
      obtain ⟨hk, hlater⟩ := ih.1 hlast
      constructor
      · rintro h
        cases h
        refine ⟨hk, fun j hj => ?_⟩
        cases j with
        | zero => cases hj
        | succ j => exact hlater j (Nat.lt_of_succ_lt_succ hj)
      · rintro ⟨hi, hnone⟩
        cases i with
        | zero => exact absurd hk (hnone (k + 1) (Nat.succ_pos k))
        | succ i =>
          have hi' := ih.2 ⟨hi, fun j hj => hnone (j + 1) (Nat.succ_lt_succ hj)⟩
          rw [hlast] at hi'
          cases hi'
          rfl
    | none =>
      have hnot := lastIndexOf?_eq_none_iff.1 hlast
      show (if x == id then some 0 else none) = some i ↔ _
      constructor
      · intro h
        split at h
        · next hx =>
          cases h
          refine ⟨congrArg some (eq_of_beq hx), fun j hj hmem => ?_⟩
          cases j with
          | zero => cases hj
          | succ j => exact hnot (List.mem_of_getElem? hmem)
        · cases h
      · rintro ⟨hi, -⟩
        cases i with
        | zero => rw [if_pos (beq_iff_eq.2 (Option.some.inj hi))]
        | succ i =>
          rw [List.getElem?_cons_succ] at hi
          exact absurd (List.mem_of_getElem? hi) hnot

theorem mem_links {nodes : List Node} {edges : List Edge} {i j : Nat} :
    (i, j) ∈ links nodes edges ↔
      ∃ e ∈ edges, lastIndexOf? (nodes.map (·.id)) e.source = some i ∧
        lastIndexOf? (nodes.map (·.id)) e.target = some j ∧ i ≠ j := by
  unfold links
  rw [List.mem_filter, List.mem_filterMap]
  constructor
  · rintro ⟨⟨e, he, hlink⟩, hne⟩
    split at hlink
    · next s t hs ht =>
      cases hlink
      exact ⟨e, he, hs, ht, by simpa using hne⟩
    · cases hlink
  · rintro ⟨e, he, hs, ht, hne⟩
    exact ⟨⟨e, he, by simp [hs, ht]⟩, by simpa using hne⟩

/-- Nodes are linked by an edge that names them, each the last one with its id, and not by loops. -/
theorem linked_iff {nodes : List Node} {edges : List Edge} {i j : Nat} :
    Linked nodes edges i j ↔ i ≠ j ∧ ∃ e ∈ edges,
      (nodes.map (·.id))[i]? = some e.source ∧
      (nodes.map (·.id))[j]? = some e.target ∧
      (∀ k, i < k → (nodes.map (·.id))[k]? ≠ some e.source) ∧
      ∀ k, j < k → (nodes.map (·.id))[k]? ≠ some e.target := by
  simp only [Linked, mem_links, lastIndexOf?_eq_some_iff]
  constructor
  · rintro ⟨e, he, ⟨hs, hlast⟩, ⟨ht, hlast'⟩, hne⟩
    exact ⟨hne, e, he, hs, ht, hlast, hlast'⟩
  · rintro ⟨hne, e, he, hs, ht, hlast, hlast'⟩
    exact ⟨e, he, ⟨hs, hlast⟩, ⟨ht, hlast'⟩, hne⟩

theorem Linked.lt_length {nodes : List Node} {edges : List Edge} {i j : Nat}
    (h : Linked nodes edges i j) : i < nodes.length ∧ j < nodes.length := by
  obtain ⟨-, e, -, hs, ht, -⟩ := linked_iff.1 h
  constructor
  · have hi := (List.getElem?_eq_some_iff.1 hs).1
    rwa [List.length_map] at hi
  · have hj := (List.getElem?_eq_some_iff.1 ht).1
    rwa [List.length_map] at hj

/-- Where ids are distinct, every edge between two nodes is a link between their positions. -/
theorem linked_of_mem {nodes : List Node} {edges : List Edge} {e : Edge} {u v : Nat} {a b : Node}
    (hids : (nodes.map (·.id)).Nodup) (he : e ∈ edges) (hu : nodes[u]? = some a)
    (hv : nodes[v]? = some b) (ha : a.id = e.source) (hb : b.id = e.target) (hne : u ≠ v) :
    Linked nodes edges u v := by
  have hs : (nodes.map (·.id))[u]? = some e.source := by rw [List.getElem?_map, hu, ← ha]; rfl
  have ht : (nodes.map (·.id))[v]? = some e.target := by rw [List.getElem?_map, hv, ← hb]; rfl
  have hlast : ∀ i id, (nodes.map (·.id))[i]? = some id →
      ∀ k, i < k → (nodes.map (·.id))[k]? ≠ some id := fun i id hi k hk hmem => by
    obtain ⟨hlt, hget⟩ := List.getElem?_eq_some_iff.1 hi
    obtain ⟨hlt', hget'⟩ := List.getElem?_eq_some_iff.1 hmem
    exact Nat.ne_of_lt hk (hids.getElem_inj_iff.1 (hget.trans hget'.symm))
  exact linked_iff.2 ⟨hne, e, he, hs, ht, hlast u _ hs, hlast v _ ht⟩

theorem mem_predecessorTable {nodes : List Node} {edges : List Edge} {i j : Nat} :
    i ∈ (predecessorTable nodes edges).getD j [] ↔ Linked nodes edges i j := by
  by_cases hj : j < nodes.length
  · simp [predecessorTable, predecessors, hj, Linked]
  · have hsize : (predecessorTable nodes edges).size ≤ j := by
      rw [size_predecessorTable]
      exact Nat.le_of_not_lt hj
    rw [Array.getD_eq_getD_getElem?, Array.getElem?_eq_none hsize]
    exact iff_of_false List.not_mem_nil fun hlink => hj hlink.lt_length.2

namespace Layering

variable {preds : Array (List Nat)} {ls : Layering} {i j l : Nat}

/-! ## Order of placement -/

/-- Position `j` was put on layer `l` to break a stall while position `i` had no layer. -/
def PlacedAhead (preds : Array (List Nat)) (i j l : Nat) : Prop :=
  ∃ k, Stalled preds (stage preds k) ∧ (stage preds k).layer? i = none ∧
    breaker? preds (stage preds k) = some j ∧ depth preds (stage preds k) j = l

/-- Every position lies below its predecessors, except for those it was placed ahead of. -/
def Ordered (preds : Array (List Nat)) (ls : Layering) : Prop :=
  ∀ j l, ls.layer? j = some l → ∀ i ∈ preds.getD j [],
    (∃ m < l, ls.layer? i = some m) ∨ PlacedAhead preds i j l

/-- A new layer keeps the order if the position lies below the predecessors it does not go ahead
of. -/
theorem Ordered.place (h : Ordered preds ls) (hnone : ls.layer? j = none)
    (hj : ∀ i ∈ preds.getD j [], ls.isPlaced i ∨ PlacedAhead preds i j (depth preds ls j)) :
    Ordered preds (ls.place j (depth preds ls j)) := by
  have hext : ls.Extends (ls.place j (depth preds ls j)) := extends_place hnone
  intro j' l' hl' i hi
  rw [layer?_place] at hl'
  split at hl'
  · next hjj =>
    obtain ⟨rfl, -⟩ := hjj
    cases hl'
    rcases hj i hi with hplaced | hahead
    · obtain ⟨m, hm⟩ := isPlaced_iff.1 hplaced
      exact .inl ⟨m, lt_depth hi hm, hext i m hm⟩
    · exact .inr hahead
  · rcases h j' l' hl' i hi with ⟨m, hlt, hm⟩ | hahead
    · exact .inl ⟨m, hlt, hext i m hm⟩
    · exact .inr hahead

theorem ordered_roots (preds : Array (List Nat)) : Ordered preds (roots preds) := by
  intro j l hl i hi
  rw [(of_layer?_roots hl).1] at hi
  cases hi

theorem ordered_stage (preds : Array (List Nat)) (k : Nat) : Ordered preds (stage preds k) := by
  refine stage_induction (ordered_roots preds) ?_ ?_ k
  · intro ls j h hnone hall
    exact h.place hnone fun i hi => .inl (hall i hi)
  · intro k j h hstalled hb
    -- of the predecessors of `j`, some are placed, and `j` goes ahead of the others
    refine h.place (mem_unplaced.1 (mem_unplaced_of_breaker? hb)).2 fun i _ => ?_
    cases hi : (stage preds k).layer? i with
    | some m => exact .inl (isPlaced_iff.2 ⟨m, hi⟩)
    | none => exact .inr ⟨k, hstalled, hi, hb, rfl⟩

/-- A position keeps the layer on which it was placed ahead. -/
theorem PlacedAhead.layer?_eq (h : PlacedAhead preds i j l) {k m : Nat}
    (hi : (stage preds k).layer? i = some m) : (stage preds k).layer? j = some l := by
  obtain ⟨n, hstalled, hnone, hb, rfl⟩ := h
  -- position `i` got its layer after the stall
  have hnk : n + 1 ≤ k := by
    by_contra hkn
    have hlater := extends_stage preds (Nat.le_of_lt_succ (Nat.lt_of_not_le hkn)) i m hi
    rw [hnone] at hlater
    cases hlater
  refine extends_stage preds hnk j _ ?_
  have hj := (mem_unplaced.1 (mem_unplaced_of_breaker? hb)).1
  have hforce : stage preds (n + 1) = (stage preds n).force preds := by
    rcases advance_cases preds (stage preds n) with ⟨hmoved, -⟩ | ⟨-, heq⟩
    · exact absurd hstalled hmoved
    · exact heq
  rw [hforce, force_eq, hb]
  exact layer?_place_self ((size_stage preds n).symm ▸ hj)

end Layering

/-! ## Cycles -/

/-- Whoever goes back for ever among finitely many positions comes upon a cycle. -/
theorem exists_cycle_of_forall_exists {r : Nat → Nat → Prop} {P : Nat → Prop} {n u : Nat}
    (hbound : ∀ i, P i → i < n) (hback : ∀ i, P i → ∃ j, P j ∧ r j i) (hu : P u) :
    ∃ c, Relation.TransGen r c c ∧ Relation.ReflTransGen r c u := by
  by_contra hacyclic
  let S := {i : Fin n // P i ∧ Relation.ReflTransGen r i u}
  let before : S → S → Prop := fun a b => Relation.TransGen r a.1 b.1
  have : IsTrans S before := ⟨fun _ _ _ => Relation.TransGen.trans⟩
  have : Std.Irrefl before := ⟨fun a ha => hacyclic ⟨a.1, ha, a.2.2⟩⟩
  have : Finite S := Subtype.finite
  have hwf : WellFounded before := Finite.wellFounded_of_trans_of_irrefl before
  -- a first position among those that lead to `u` would have none before it
  obtain ⟨m, -, hmin⟩ :=
    hwf.has_min Set.univ ⟨⟨⟨u, hbound u hu⟩, hu, Relation.ReflTransGen.refl⟩, trivial⟩
  obtain ⟨j, hj, hr⟩ := hback m.1 m.2.1
  exact hmin ⟨⟨j, hbound j hj⟩, hj, Relation.ReflTransGen.head hr m.2.2⟩ trivial
    (Relation.TransGen.single hr)

/-- What is not placed in a stall lies on a cycle or below one. -/
theorem Layering.Stalled.exists_cycle {nodes : List Node} {edges : List Edge} {ls : Layering}
    {u : Nat} (h : Stalled (predecessorTable nodes edges) ls) (hsize : ls.size = nodes.length)
    (hu : u < nodes.length) (hnone : ls.layer? u = none) :
    ∃ c, Relation.TransGen (Linked nodes edges) c c ∧
      Relation.ReflTransGen (Linked nodes edges) c u := by
  have htable := size_predecessorTable nodes edges
  refine exists_cycle_of_forall_exists (n := nodes.length)
    (P := fun i => i < nodes.length ∧ ls.layer? i = none) (fun i hi => hi.1) ?_ ⟨hu, hnone⟩
  rintro i ⟨hi, hnone⟩
  obtain ⟨p, hp, hpnone⟩ := h.exists_unplaced (htable.symm ▸ hi) (hsize.trans htable.symm) hnone
  have hlink := mem_predecessorTable.1 hp
  exact ⟨p, ⟨hlink.lt_length.1, hpnone⟩, hlink⟩

theorem Layering.PlacedAhead.exists_cycle {nodes : List Node} {edges : List Edge} {u v l : Nat}
    (h : PlacedAhead (predecessorTable nodes edges) u v l) (hu : u < nodes.length) :
    ∃ c, Relation.TransGen (Linked nodes edges) c c ∧
      Relation.ReflTransGen (Linked nodes edges) c u := by
  obtain ⟨k, hstalled, hnone, -, -⟩ := h
  exact hstalled.exists_cycle ((size_stage ..).trans (size_predecessorTable ..)) hu hnone

/-! ## Edges and layers -/

/-- The node at position `v` was placed to break a stall before the one at `u` had a layer, and the
latter did not come to lie above it. -/
def Overtaken (nodes : List Node) (edges : List Edge) (u v : Nat) : Prop :=
  ∃ l m, Layering.PlacedAhead (predecessorTable nodes edges) u v l ∧
    (assignLayers nodes edges)[u]? = some m ∧ l ≤ m

/-- An edge leads to a later layer exactly if its source is not overtaken by its target, and only
sources on or below a cycle are overtaken. -/
theorem layer_lt_iff_not_overtaken {nodes : List Node} {edges : List Edge} {e : Edge} {u v : Nat}
    {a b : Node} (hids : (nodes.map (·.id)).Nodup) (he : e ∈ edges) (hu : nodes[u]? = some a)
    (hv : nodes[v]? = some b) (ha : a.id = e.source) (hb : b.id = e.target) (hne : u ≠ v) :
    ∃ lu lv, (assignLayers nodes edges)[u]? = some lu ∧ (assignLayers nodes edges)[v]? = some lv ∧
      (lu < lv ↔ ¬ Overtaken nodes edges u v) ∧
      (Overtaken nodes edges u v → ∃ c, Relation.TransGen (Linked nodes edges) c c ∧
        Relation.ReflTransGen (Linked nodes edges) c u) := by
  have hu' : u < nodes.length := (List.getElem?_eq_some_iff.1 hu).1
  have hv' : v < nodes.length := (List.getElem?_eq_some_iff.1 hv).1
  obtain ⟨k, hk⟩ := exists_assignLayers_eq_stage nodes edges
  obtain ⟨lu, hlu, hau⟩ := hk u hu'
  obtain ⟨lv, hlv, hav⟩ := hk v hv'
  have hlink : u ∈ (predecessorTable nodes edges).getD v [] :=
    mem_predecessorTable.2 (linked_of_mem hids he hu hv ha hb hne)
  refine ⟨lu, lv, hau, hav, ⟨?_, ?_⟩, ?_⟩
  · rintro hlt ⟨l, m, hahead, hm, hle⟩
    have hl := hahead.layer?_eq hlu
    rw [hlv] at hl
    rw [hau] at hm
    cases hl
    cases hm
    omega
  · intro hnot
    rcases Layering.ordered_stage _ k v lv hlv u hlink with ⟨m, hlt, hm⟩ | hahead
    · rw [hlu] at hm
      cases hm
      exact hlt
    · by_contra hge
      exact hnot ⟨lv, lu, hahead, hau, Nat.le_of_not_lt hge⟩
  · rintro ⟨l, m, hahead, -, -⟩
    exact hahead.exists_cycle hu'

/-! ## A node below a root and below a cycle -/

/-- The cycle of `A` and `B` has no way in, and `X` is below it as well as below `R`. -/
def belowCycleNodes : List Node :=
  ["R", "X", "A", "B"].map Node.implicit

def belowCycleEdges : List Edge :=
  [("R", "X"), ("A", "B"), ("B", "A"), ("B", "X")].map fun (source, target) =>
    { source, target, kind := .arrow }

theorem links_belowCycle :
    links belowCycleNodes belowCycleEdges = [(0, 1), (2, 3), (3, 2), (3, 1)] := by
  decide +kernel

theorem assignLayers_belowCycle :
    assignLayers belowCycleNodes belowCycleEdges = [0, 1, 0, 1] := by
  decide +kernel

/-- In the first stall `X` is placed below `R`, and `B` then reaches the layer of `X`. -/
theorem overtaken_belowCycle :
    Overtaken belowCycleNodes belowCycleEdges 3 1 ∧
      ∃ c, Relation.TransGen (Linked belowCycleNodes belowCycleEdges) c c ∧
        Relation.ReflTransGen (Linked belowCycleNodes belowCycleEdges) c 3 := by
  obtain ⟨lu, lv, hlu, hlv, hiff, hcycle⟩ :=
    @layer_lt_iff_not_overtaken belowCycleNodes belowCycleEdges
      { source := "B", target := "X", kind := .arrow } 3 1 _ _
      (by decide +kernel) (by simp [belowCycleEdges]) rfl rfl rfl rfl (by decide)
  rw [assignLayers_belowCycle] at hlu hlv
  cases hlu
  cases hlv
  have hover : Overtaken belowCycleNodes belowCycleEdges 3 1 := by
    by_contra hnot
    exact absurd (hiff.2 hnot) (by decide)
  exact ⟨hover, hcycle hover⟩

/-- Edges below a cycle need not lead to later layers, although they lie on no cycle. -/
theorem not_layer_lt_below_cycle :
    ¬ ∀ (nodes : List Node) (edges : List Edge), (nodes.map (·.id)).Nodup →
      ∀ e ∈ edges, ∀ (u v : Nat) (a b : Node), nodes[u]? = some a → nodes[v]? = some b →
        a.id = e.source → b.id = e.target → u ≠ v →
        ¬ Relation.ReflTransGen (Linked nodes edges) v u →
        ∃ lu lv, (assignLayers nodes edges)[u]? = some lu ∧
          (assignLayers nodes edges)[v]? = some lv ∧ lu < lv := by
  intro h
  have hend : ∀ j, ¬ Linked belowCycleNodes belowCycleEdges 1 j := by
    intro j hj
    rw [Linked, links_belowCycle] at hj
    simp at hj
  have hreach : ¬ Relation.ReflTransGen (Linked belowCycleNodes belowCycleEdges) 1 3 := by
    intro hreach
    rcases Relation.ReflTransGen.cases_head hreach with heq | ⟨j, hj, -⟩
    · cases heq
    · exact hend j hj
  obtain ⟨lu, lv, hlu, hlv, hlt⟩ := h belowCycleNodes belowCycleEdges (by decide +kernel)
    { source := "B", target := "X", kind := .arrow } (by simp [belowCycleEdges]) 3 1 _ _
    rfl rfl rfl rfl (by decide) hreach
  rw [assignLayers_belowCycle] at hlu hlv
  cases hlu
  cases hlv
  exact absurd hlt (by decide)

end FlowchartLayout
