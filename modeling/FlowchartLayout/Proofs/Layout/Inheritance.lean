import FlowchartLayout.Layout.Placement
import FlowchartLayout.Proofs.Flowchart.WellFormed
import Mathlib.Data.List.Perm.Subperm

/-!
# Inherited directions

A node follows the direction of the nearest subgraph around it that sets one. Whoever looks for it
climbs from parent to parent, and may climb for ever, since parents are only names: they may form a
cycle. A climb that gives up after as many subgraphs as there are misses nothing, because one that
finds a direction, or comes to an end otherwise, passes no subgraph twice.

## Main definitions

- `Flowchart.Climb` — a finished climb, with or without a limit

## Main statements

- `Flowchart.Climb.length_le` — a climb that ends without a limit passes no subgraph twice
- `Flowchart.effectiveDirection_exact` — the direction of a node is the one that an unlimited climb
  finds, and the one of the flowchart if that climb does not end
-/

namespace FlowchartLayout.Flowchart

/-- A finished climb. It starts at an id, or outside of all subgraphs, after `depth` subgraphs, goes
from subgraphs without a direction to their parents, and ends with a direction. The subgraphs that
it looks at are `passed`. A climb with a limit gives up after more subgraphs than that. -/
inductive Climb (fc : Flowchart) (limit : Option Nat) :
    Nat → Option String → List String → Direction → Prop where
  | outside {depth : Nat} : Climb fc limit depth none [] fc.direction
  | unknown {depth : Nat} {id : String} (hfind : fc.findSubgraph? id = none) :
      Climb fc limit depth (some id) [] fc.direction
  | override {depth : Nat} {id : String} {s : Subgraph} {d : Direction}
      (hfind : fc.findSubgraph? id = some s) (hdirection : s.direction = some d) :
      Climb fc limit depth (some id) [id] d
  | giveUp {depth bound : Nat} {id : String} {s : Subgraph}
      (hfind : fc.findSubgraph? id = some s) (hdirection : s.direction = none)
      (hbound : limit = some bound) (hdepth : bound < depth + 1) :
      Climb fc limit depth (some id) [id] fc.direction
  | parent {depth : Nat} {id : String} {s : Subgraph} {passed : List String} {d : Direction}
      (hfind : fc.findSubgraph? id = some s) (hdirection : s.direction = none)
      (hdepth : ∀ bound, limit = some bound → depth + 1 ≤ bound)
      (rest : Climb fc limit (depth + 1) s.parent passed d) :
      Climb fc limit depth (some id) (id :: passed) d

variable {fc : Flowchart} {limit : Option Nat} {depth : Nat} {start : Option String}
  {passed : List String} {id : String} {d : Direction}

namespace Climb

/-- A climb has one result. -/
theorem unique {passed' : List String} {d' : Direction} (h : fc.Climb limit depth start passed d)
    (h' : fc.Climb limit depth start passed' d') : passed = passed' ∧ d = d' := by
  induction h generalizing passed' d' with
  | outside =>
    cases h'
    exact ⟨rfl, rfl⟩
  | unknown hfind => cases h' <;> simp_all
  | override hfind hdirection => cases h' <;> simp_all
  | giveUp hfind hdirection hbound hdepth =>
    cases h' with
    | giveUp => exact ⟨rfl, rfl⟩
    | parent _ _ hdepth' =>
      have := hdepth' _ hbound
      omega
    | _ => simp_all
  | parent hfind hdirection hdepth rest ih =>
    cases h' with
    | giveUp _ _ hbound hdepth' =>
      have := hdepth _ hbound
      omega
    | parent hfind' _ _ rest' =>
      obtain rfl := Option.some.inj (hfind.symm.trans hfind')
      obtain ⟨rfl, rfl⟩ := ih rest'
      exact ⟨rfl, rfl⟩
    | _ => simp_all

/-- Without a limit it does not matter how many subgraphs came before. -/
theorem of_depth (h : fc.Climb none depth start passed d) (depth' : Nat) :
    fc.Climb none depth' start passed d := by
  induction h generalizing depth' with
  | outside => exact .outside
  | unknown hfind => exact .unknown hfind
  | override hfind hdirection => exact .override hfind hdirection
  | giveUp _ _ hbound => cases hbound
  | parent hfind hdirection _ _ ih => exact .parent hfind hdirection nofun (ih (depth' + 1))

/-- A climb goes on from each subgraph that it looks at. -/
theorem exists_of_mem (h : fc.Climb limit depth start passed d) (hid : id ∈ passed) :
    ∃ depth' later, fc.Climb limit depth' (some id) (id :: later) d ∧ id :: later <:+ passed := by
  induction h with
  | outside | unknown => cases hid
  | @override depth _ _ _ hfind hdirection =>
    obtain rfl := List.mem_singleton.1 hid
    exact ⟨depth, [], .override hfind hdirection, List.suffix_rfl⟩
  | @giveUp depth _ _ _ hfind hdirection hbound hdepth =>
    obtain rfl := List.mem_singleton.1 hid
    exact ⟨depth, [], .giveUp hfind hdirection hbound hdepth, List.suffix_rfl⟩
  | @parent depth _ _ passed _ hfind hdirection hdepth rest ih =>
    rcases List.mem_cons.1 hid with rfl | hid
    · exact ⟨depth, passed, .parent hfind hdirection hdepth rest, List.suffix_rfl⟩
    · obtain ⟨depth', later, hclimb, hsuffix⟩ := ih hid
      exact ⟨depth', later, hclimb, hsuffix.trans (List.suffix_cons _ _)⟩

theorem mem_subgraphIds (h : fc.Climb limit depth start passed d) (hid : id ∈ passed) :
    id ∈ fc.subgraphIds := by
  obtain ⟨_, _, hclimb, -⟩ := h.exists_of_mem hid
  rw [← findSubgraph?_isSome_iff, Option.isSome_iff_exists]
  cases hclimb with
  | override hfind | giveUp hfind | parent hfind => exact ⟨_, hfind⟩

/-- Without a limit no subgraph is looked at twice: the climb would go on from there as it did the
first time, and not end. -/
theorem nodup (h : fc.Climb none depth start passed d) : passed.Nodup := by
  induction h with
  | outside | unknown => exact List.nodup_nil
  | override | giveUp => exact List.nodup_singleton _
  | parent hfind hdirection hdepth rest ih =>
    refine List.nodup_cons.2 ⟨fun hid => ?_, ih⟩
    obtain ⟨depth', later, hclimb, hsuffix⟩ := rest.exists_of_mem hid
    obtain ⟨heq, -⟩ := hclimb.unique ((parent hfind hdirection hdepth rest).of_depth depth')
    have hlonger := hsuffix.length_le
    rw [heq, List.length_cons] at hlonger
    omega

theorem length_le (h : fc.Climb none depth start passed d) :
    passed.length ≤ fc.subgraphs.length := by
  have hsubset : passed ⊆ fc.subgraphIds := fun _ => h.mem_subgraphIds
  have hle := (h.nodup.subperm hsubset).length_le
  rwa [subgraphIds, List.length_map] at hle

/-- As many steps as subgraphs are looked at are enough to find what the climb finds. -/
theorem directionFrom_eq (h : fc.Climb none depth start passed d) {steps : Nat}
    (hsteps : passed.length ≤ steps) : fc.directionFrom steps start = d := by
  induction h generalizing steps with
  | outside => cases steps <;> rfl
  | unknown hfind =>
    cases steps with
    | zero => rfl
    | succ steps => simp only [directionFrom, hfind]
  | giveUp _ _ hbound => cases hbound
  | override hfind hdirection =>
    obtain ⟨steps, rfl⟩ := Nat.exists_eq_add_of_le' hsteps
    simp only [List.length_singleton, directionFrom, hfind, hdirection]
  | parent hfind hdirection _ _ ih =>
    obtain ⟨steps, rfl⟩ := Nat.exists_eq_add_of_le' hsteps
    rw [List.length_cons, ← Nat.add_assoc]
    simp only [directionFrom, hfind, hdirection]
    exact ih (Nat.le_add_left _ _)

end Climb

/-- Where no climb without a limit ends, no number of steps leads to a direction of a subgraph. -/
theorem directionFrom_of_endless (h : ∀ passed d, ¬ fc.Climb none depth start passed d)
    (steps : Nat) : fc.directionFrom steps start = fc.direction := by
  induction steps generalizing depth start with
  | zero => rfl
  | succ steps ih =>
    cases start with
    | none => rfl
    | some id =>
      rw [directionFrom]
      cases hfind : fc.findSubgraph? id with
      | none => rfl
      | some s =>
        cases hdirection : s.direction with
        | some d => exact absurd (.override hfind hdirection) (h [id] d)
        | none =>
          simp only [hdirection]
          exact ih fun passed d (hclimb : fc.Climb none (depth + 1) s.parent passed d) =>
            h (id :: passed) d (.parent hfind hdirection nofun hclimb)

/-- A climb that gives up after as many subgraphs as there are ends, and finds what is found in the
steps that it has left. -/
theorem exists_climb_directionFrom {steps : Nat} (hpos : 0 < steps)
    (hsteps : depth + steps = fc.subgraphs.length + 1) :
    ∃ passed, fc.Climb (some fc.subgraphs.length) depth start passed
      (fc.directionFrom steps start) := by
  fun_induction directionFrom fc steps start generalizing depth with
  | case1 => omega
  | case2 => exact ⟨[], .outside⟩
  | case3 _ id hfind => exact ⟨[], .unknown hfind⟩
  | case4 _ id s hfind d hdirection => exact ⟨[id], .override hfind hdirection⟩
  | case5 steps id s hfind hdirection ih =>
    cases steps with
    | zero => exact ⟨[id], .giveUp hfind hdirection rfl (by omega)⟩
    | succ steps =>
      have hleft : (depth + 1) + (steps + 1) = fc.subgraphs.length + 1 := by omega
      obtain ⟨passed, hclimb⟩ := ih (Nat.succ_pos steps) hleft
      refine ⟨id :: passed, .parent hfind hdirection ?_ hclimb⟩
      rintro _ ⟨⟩
      omega

/-- For any parents, cyclic and unknown ones included, and any node: the climb that gives up after
as many subgraphs as there are always ends, and with the effective direction. If the climb without a
limit ends, it ends with the effective direction too, and looks at no more subgraphs than there are;
if it does not end, the effective direction is that of the flowchart. -/
theorem effectiveDirection_exact (fc : Flowchart) (n : Node) :
    (∀ d, (∃ passed, fc.Climb (some fc.subgraphs.length) 0 n.subgraph passed d) ↔
      d = fc.effectiveDirection n) ∧
    (∀ passed d, fc.Climb none 0 n.subgraph passed d →
      d = fc.effectiveDirection n ∧ passed.length ≤ fc.subgraphs.length) ∧
    ((∀ passed d, ¬ fc.Climb none 0 n.subgraph passed d) →
      fc.effectiveDirection n = fc.direction) := by
  obtain ⟨passed, hlimited⟩ : ∃ passed, fc.Climb (some fc.subgraphs.length) 0 n.subgraph passed
      (fc.effectiveDirection n) :=
    exists_climb_directionFrom (Nat.succ_pos _) (Nat.zero_add _)
  refine ⟨fun d => ⟨?_, ?_⟩, fun passed d h => ⟨?_, h.length_le⟩, fun h => ?_⟩
  · rintro ⟨passed', h⟩
    exact (h.unique hlimited).2
  · rintro rfl
    exact ⟨passed, hlimited⟩
  · exact (h.directionFrom_eq (Nat.le_succ_of_le h.length_le)).symm
  · exact directionFrom_of_endless h _

/-- Three nested subgraphs, of which only the outermost sets a direction, and two subgraphs that are
each other's parents. -/
def nestedOverride : Flowchart :=
  { direction := .topToBottom
    subgraphs :=
      [{ id := "in", title := "in", parent := some "mid" },
        { id := "mid", title := "mid", parent := some "out" },
        { id := "out", title := "out", direction := some .leftToRight, parent := some "left" },
        { id := "left", title := "left", parent := some "right" },
        { id := "right", title := "right", parent := some "left" }] }

theorem climb_nestedOverride :
    nestedOverride.Climb none 0 (some "in") ["in", "mid", "out"] .leftToRight :=
  .parent rfl rfl nofun (.parent rfl rfl nofun (.override rfl rfl))

/-- The direction of the outermost subgraph reaches the innermost node. -/
theorem effectiveDirection_nestedOverride :
    nestedOverride.Climb none 0 (some "in") ["in", "mid", "out"] .leftToRight ∧
      .leftToRight =
        nestedOverride.effectiveDirection { Node.implicit "A" with subgraph := some "in" } ∧
      ["in", "mid", "out"].length ≤ nestedOverride.subgraphs.length :=
  ⟨climb_nestedOverride,
    (effectiveDirection_exact nestedOverride _).2.1 ["in", "mid", "out"] .leftToRight
      climb_nestedOverride⟩

/-- The climb around the cycle is given up. -/
example :
    nestedOverride.effectiveDirection { Node.implicit "B" with subgraph := some "left" } =
      .topToBottom := by
  decide

end FlowchartLayout.Flowchart
