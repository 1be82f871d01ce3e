import FlowchartLayout.Layout.Layers
import Mathlib.Data.List.Basic
import Mathlib.Logic.Function.Iterate

/-!
# Stages of a layering

Layers are given round by round, and a layer that was given stays. Every position that gets a layer
is put below those of its predecessors that have one: all of them in a pass, some of them or none
when a stall is broken. The run that assigns the layers is one long sequence of such stages, at the
end of which every position is placed.

## Main definitions

- `Layering.Extends` — one layering keeps all layers of another
- `Layering.depth` — the layer below the placed predecessors of a position
- `Layering.Stalled`, `Layering.breaker?` — a pass changes nothing, and what is placed then
- `Layering.stage` — the layers after a number of rounds

## Main statements

- `Layering.stage_induction` — what holds of the roots and is kept by every placement holds of
  every stage
- `Layering.exists_layer?_stage` — as many rounds as positions place everything
- `Layering.run_start` — the run ends with everything placed, however many more rounds it may take
- `assignLayers_eq_stage` — the layers that are assigned are those of a complete stage
-/

namespace FlowchartLayout

/-- The predecessors of every node, by position. -/
def predecessorTable (nodes : List Node) (edges : List Edge) : Array (List Nat) :=
  (Array.range nodes.length).map (predecessors (links nodes edges))

namespace Layering

variable {preds : Array (List Nat)} {ls later : Layering} {i j l : Nat}

/-! ## Single layers -/

theorem layer?_place (ls : Layering) (i l j : Nat) :
    (ls.place i l).layer? j = if i = j ∧ i < ls.size then some l else ls.layer? j := by
  unfold layer? place
  rw [Array.getElem?_setIfInBounds]
  by_cases hij : i = j
  · subst hij
    by_cases hi : i < ls.size
    · simp [hi]
    · simp [hi]
  · simp [hij]

theorem layer?_place_self (hi : i < ls.size) : (ls.place i l).layer? i = some l := by
  rw [layer?_place, if_pos ⟨rfl, hi⟩]

theorem layer?_place_of_ne (h : i ≠ j) : (ls.place i l).layer? j = ls.layer? j := by
  rw [layer?_place, if_neg (fun hij => h hij.1)]

theorem size_place (ls : Layering) (i l : Nat) : (ls.place i l).size = ls.size :=
  Array.size_setIfInBounds

theorem lt_size_of_layer? (h : ls.layer? i = some l) : i < ls.size := by
  by_contra hi
  rw [layer?, Array.getElem?_eq_none (Nat.le_of_not_lt hi)] at h
  cases h

theorem getElem?_of_lt_size (h : i < ls.size) : ls[i]? = some (ls.layer? i) := by
  rw [layer?, Array.getElem?_eq_getElem h]
  rfl

/-- Layerings that give the same layers are the same. -/
theorem ext_layer? (hsize : ls.size = later.size) (h : ∀ i, ls.layer? i = later.layer? i) :
    ls = later := by
  refine Array.ext_getElem? fun i => ?_
  by_cases hi : i < ls.size
  · rw [getElem?_of_lt_size hi, getElem?_of_lt_size (hsize ▸ hi), h i]
  · rw [Array.getElem?_eq_none (Nat.le_of_not_lt hi),
      Array.getElem?_eq_none (hsize ▸ Nat.le_of_not_lt hi)]

theorem isPlaced_iff : ls.isPlaced i = true ↔ ∃ l, ls.layer? i = some l :=
  Option.isSome_iff_exists

theorem isPlaced_eq_false_iff : ls.isPlaced i = false ↔ ls.layer? i = none := by
  rw [isPlaced, Option.isSome_eq_false_iff, Option.isNone_iff_eq_none]

/-! ## Layers that are kept -/

/-- All layers that `ls` gives are the same in `later`. -/
def Extends (ls later : Layering) : Prop :=
  ∀ i l, ls.layer? i = some l → later.layer? i = some l

theorem Extends.refl (ls : Layering) : ls.Extends ls := fun _ _ h => h

theorem Extends.trans {ls₁ ls₂ ls₃ : Layering} (h₁ : ls₁.Extends ls₂) (h₂ : ls₂.Extends ls₃) :
    ls₁.Extends ls₃ :=
  fun i l h => h₂ i l (h₁ i l h)

theorem Extends.isPlaced (h : ls.Extends later) (hi : ls.isPlaced i) : later.isPlaced i := by
  obtain ⟨l, hl⟩ := isPlaced_iff.1 hi
  exact isPlaced_iff.2 ⟨l, h i l hl⟩

theorem extends_place (h : ls.layer? i = none) : ls.Extends (ls.place i l) := by
  intro j m hj
  have hij : i ≠ j := by
    intro hij
    rw [hij, hj] at h
    cases h
  rw [layer?_place_of_ne hij, hj]

/-! ## Placements -/

/-- The layer below the deepest placed predecessor of a position. -/
def depth (preds : Array (List Nat)) (ls : Layering) (i : Nat) : Nat :=
  below ((preds.getD i []).filterMap ls.layer?)

theorem lt_below {layers : List Nat} (h : l ∈ layers) : l < below layers := by
  unfold below
  cases hm : layers.max? with
  | none => simp [List.max?_eq_none_iff.1 hm] at h
  | some deepest => exact Nat.lt_succ_of_le ((List.max?_eq_some_iff.1 hm).2 l h)

/-- If the layer below the given ones is not the first one, the layer right above it is given. -/
theorem mem_of_below_eq_succ {layers : List Nat} (h : below layers = l + 1) : l ∈ layers := by
  unfold below at h
  split at h
  · next deepest hmax =>
    cases h
    exact List.max?_mem hmax
  · cases h

/-- A placed predecessor lies above the layer that a placement gives. -/
theorem lt_depth (hp : j ∈ preds.getD i []) (hj : ls.layer? j = some l) :
    l < depth preds ls i :=
  lt_below (List.mem_filterMap.2 ⟨j, hp, hj⟩)

/-- A placement on a later layer than the first one is right below a placed predecessor. -/
theorem exists_of_depth_eq_succ (h : depth preds ls i = l + 1) :
    ∃ p ∈ preds.getD i [], ls.layer? p = some l :=
  List.mem_filterMap.1 (mem_of_below_eq_succ h)

theorem filterMap_of_mapM {α β : Type} {f : α → Option β} {xs : List α} {ys : List β}
    (h : xs.mapM f = some ys) : xs.filterMap f = ys ∧ ∀ x ∈ xs, (f x).isSome := by
  induction xs generalizing ys with
  | nil => simpa using h
  | cons x xs ih =>
    simp only [List.mapM_cons, Option.bind_eq_bind, Option.pure_def, Option.bind_eq_some_iff,
      Option.some.injEq] at h
    obtain ⟨y, hy, zs, hzs, rfl⟩ := h
    obtain ⟨hmap, hsome⟩ := ih hzs
    refine ⟨by rw [List.filterMap_cons_some hy, hmap], ?_⟩
    intro z hz
    rcases List.mem_cons.1 hz with rfl | hz
    · rw [hy]; rfl
    · exact hsome z hz

theorem exists_mapM_of_forall_isSome {α β : Type} {f : α → Option β} {xs : List α}
    (h : ∀ x ∈ xs, (f x).isSome) : ∃ ys, xs.mapM f = some ys := by
  induction xs with
  | nil => exact ⟨[], rfl⟩
  | cons x xs ih =>
    obtain ⟨y, hy⟩ := Option.isSome_iff_exists.1 (h x List.mem_cons_self)
    obtain ⟨ys, hys⟩ := ih fun z hz => h z (List.mem_cons_of_mem x hz)
    exact ⟨y :: ys, by simp [List.mapM_cons, hy, hys]⟩

/-- In a pass a position is left alone, or it is put below its predecessors, which are all
placed. -/
theorem settle_cases (preds : Array (List Nat)) (ls : Layering) (i : Nat) :
    ls.settle preds i = ls ∨
      (ls.layer? i = none ∧ (∀ p ∈ preds.getD i [], ls.isPlaced p) ∧
        ls.settle preds i = ls.place i (depth preds ls i)) := by
  unfold settle
  split
  · exact .inl rfl
  · next hi =>
    split
    · next layers hlayers =>
      obtain ⟨hmap, hsome⟩ := filterMap_of_mapM hlayers
      refine .inr ⟨isPlaced_eq_false_iff.1 (Bool.eq_false_iff.2 hi), hsome, ?_⟩
      rw [depth, hmap]
    · exact .inl rfl

/-- A position with placed predecessors is placed when the pass comes to it. -/
theorem isPlaced_settle (hi : i < ls.size) (h : ∀ p ∈ preds.getD i [], ls.isPlaced p) :
    (ls.settle preds i).isPlaced i := by
  unfold settle
  split
  · assumption
  · obtain ⟨layers, hlayers⟩ := exists_mapM_of_forall_isSome h
    rw [hlayers]
    exact isPlaced_iff.2 ⟨_, layer?_place_self hi⟩

/-! ## Passes -/

/-- What every placement of a pass keeps is kept by the pass, over whichever positions it goes. -/
theorem settleAll_induction {P : Layering → Prop}
    (hsettle : ∀ ls i, P ls → ls.layer? i = none → (∀ p ∈ preds.getD i [], ls.isPlaced p) →
      P (ls.place i (depth preds ls i))) (h : P ls) (is : List Nat) :
    P (is.foldl (settle preds) ls) := by
  refine List.foldlRecOn is _ h fun ls hls i _ => ?_
  rcases settle_cases preds ls i with heq | ⟨hnone, hall, heq⟩
  · rwa [heq]
  · rw [heq]
    exact hsettle ls i hls hnone hall

theorem extends_settleAll (preds : Array (List Nat)) (ls : Layering) (is : List Nat) :
    ls.Extends (is.foldl (settle preds) ls) :=
  settleAll_induction (P := ls.Extends) (fun _ _ h hnone _ => h.trans (extends_place hnone))
    (Extends.refl ls) is

theorem size_settleAll (preds : Array (List Nat)) (ls : Layering) (is : List Nat) :
    (is.foldl (settle preds) ls).size = ls.size :=
  settleAll_induction (P := fun ls' => ls'.size = ls.size)
    (fun _ _ h _ _ => (size_place ..).trans h) rfl is

/-- A position below placed ones is placed by a pass. -/
theorem isPlaced_sweep (hi : i < preds.size) (hsize : ls.size = preds.size)
    (h : ∀ p ∈ preds.getD i [], ls.isPlaced p) : (ls.sweep preds).isPlaced i := by
  obtain ⟨before, after, hsplit⟩ := List.append_of_mem (List.mem_range.2 hi)
  rw [sweep, hsplit, List.foldl_append, List.foldl_cons]
  -- when the pass comes to `i`, the predecessors are still placed
  have hbefore := extends_settleAll preds ls before
  have hplaced : (settle preds (before.foldl (settle preds) ls) i).isPlaced i :=
    isPlaced_settle (by rw [size_settleAll, hsize]; exact hi) fun p hp =>
      hbefore.isPlaced (h p hp)
  exact (extends_settleAll preds _ after).isPlaced hplaced

/-- A pass changes nothing. -/
def Stalled (preds : Array (List Nat)) (ls : Layering) : Prop :=
  ls.sweep preds = ls

/-- In a stall, whatever is not placed waits for a predecessor that is not placed either. -/
theorem Stalled.exists_unplaced (h : Stalled preds ls) (hi : i < preds.size)
    (hsize : ls.size = preds.size) (hnone : ls.layer? i = none) :
    ∃ p ∈ preds.getD i [], ls.layer? p = none := by
  by_contra hall
  have hplaced := isPlaced_sweep hi hsize fun p hp => by
    rw [← Bool.not_eq_false, isPlaced_eq_false_iff]
    exact fun hp' => hall ⟨p, hp, hp'⟩
  rw [h, isPlaced, hnone] at hplaced
  cases hplaced

/-! ## Stalls that are broken -/

/-- The positions without a layer. -/
def unplaced (preds : Array (List Nat)) (ls : Layering) : List Nat :=
  (List.range preds.size).filter fun i => !ls.isPlaced i

theorem mem_unplaced : i ∈ unplaced preds ls ↔ i < preds.size ∧ ls.layer? i = none := by
  rw [unplaced, List.mem_filter, List.mem_range, Bool.not_eq_true', isPlaced_eq_false_iff]

/-- The position that is placed when a pass can place none: the first one with a placed
predecessor, or else the first one without a layer. -/
def breaker? (preds : Array (List Nat)) (ls : Layering) : Option Nat :=
  ((unplaced preds ls).find? fun i => (preds.getD i []).any ls.isPlaced).or
    (unplaced preds ls).head?

theorem mem_unplaced_of_breaker? (h : breaker? preds ls = some i) : i ∈ unplaced preds ls := by
  rcases Option.or_eq_some_iff.1 h with h | ⟨-, h⟩
  · exact List.mem_of_find?_eq_some h
  · exact List.mem_of_mem_head? h

theorem exists_breaker? (h : unplaced preds ls ≠ []) : ∃ i, breaker? preds ls = some i := by
  obtain ⟨i, is, hcons⟩ := List.exists_cons_of_ne_nil h
  rw [breaker?, hcons]
  cases List.find? _ (i :: is) with
  | none => exact ⟨i, rfl⟩
  | some j => exact ⟨j, rfl⟩

/-- A stall is broken by a placement below the placed predecessors, of which there may be none. -/
theorem force_eq (preds : Array (List Nat)) (ls : Layering) :
    ls.force preds = (breaker? preds ls).elim ls fun i => ls.place i (depth preds ls i) := by
  unfold force
  simp only
  split
  · next i hfind =>
    have hfind : (unplaced preds ls).find? (fun i => (preds.getD i []).any ls.isPlaced) = some i :=
      hfind
    rw [breaker?, hfind]
    rfl
  · next hfind =>
    have hfind : (unplaced preds ls).find? (fun i => (preds.getD i []).any ls.isPlaced) = none :=
      hfind
    split
    · next i is hun =>
      have hun : unplaced preds ls = i :: is := hun
      have hmem : i ∈ unplaced preds ls := by rw [hun]; exact List.mem_cons_self
      -- no predecessor of `i` is placed, so that its depth is 0
      have hnone : (preds.getD i []).filterMap ls.layer? = [] := by
        rw [List.filterMap_eq_nil_iff]
        intro p hp
        have hany := List.find?_eq_none.1 hfind i hmem
        rw [Bool.not_eq_true, List.any_eq_false] at hany
        exact isPlaced_eq_false_iff.1 (Bool.eq_false_iff.2 (hany p hp))
      rw [breaker?, hfind, hun, Option.none_or, List.head?_cons, Option.elim_some, depth, hnone]
      rfl
    · next hun =>
      have hun : unplaced preds ls = [] := hun
      rw [breaker?, hfind, hun]
      rfl

/-! ## Rounds -/

/-- A round is a pass, or it breaks a stall. -/
theorem advance_cases (preds : Array (List Nat)) (ls : Layering) :
    (¬ Stalled preds ls ∧ ls.advance preds = ls.sweep preds) ∨
      (Stalled preds ls ∧ ls.advance preds = ls.force preds) := by
  unfold advance
  by_cases h : ls.sweep preds = ls
  · exact .inr ⟨h, by simp [h]⟩
  · exact .inl ⟨h, by simp [h]⟩

/-- What every placement of a round keeps is kept by the round. -/
theorem advance_induction {P : Layering → Prop}
    (hsettle : ∀ ls i, P ls → ls.layer? i = none → (∀ p ∈ preds.getD i [], ls.isPlaced p) →
      P (ls.place i (depth preds ls i)))
    (hbreak : ∀ i, Stalled preds ls → breaker? preds ls = some i →
      P (ls.place i (depth preds ls i)))
    (h : P ls) : P (ls.advance preds) := by
  rcases advance_cases preds ls with ⟨-, heq⟩ | ⟨hstalled, heq⟩
  · rw [heq]
    exact settleAll_induction hsettle h _
  · rw [heq, force_eq]
    cases hb : breaker? preds ls with
    | none => exact h
    | some i => exact hbreak i hstalled hb

theorem extends_advance (preds : Array (List Nat)) (ls : Layering) :
    ls.Extends (ls.advance preds) :=
  advance_induction (P := ls.Extends) (fun _ _ h hnone _ => h.trans (extends_place hnone))
    (fun _ _ hb => extends_place (mem_unplaced.1 (mem_unplaced_of_breaker? hb)).2)
    (Extends.refl ls)

theorem size_advance (preds : Array (List Nat)) (ls : Layering) :
    (ls.advance preds).size = ls.size :=
  advance_induction (P := fun ls' => ls'.size = ls.size)
    (fun _ _ h _ _ => (size_place ..).trans h) (fun _ _ _ => size_place ..) rfl

/-! ## Stages -/

/-- The layers before the first round: positions without predecessors are on layer 0. -/
def roots (preds : Array (List Nat)) : Layering :=
  preds.map fun p => if p.isEmpty then some 0 else none

/-- The layers after a number of rounds. -/
def stage (preds : Array (List Nat)) : Nat → Layering
  | 0 => roots preds
  | k + 1 => (stage preds k).advance preds

theorem layer?_roots (hi : i < preds.size) :
    (roots preds).layer? i = if (preds.getD i []).isEmpty then some 0 else none := by
  simp [layer?, roots, hi]

/-- A position with a layer before the first round has no predecessors. -/
theorem of_layer?_roots (h : (roots preds).layer? i = some l) :
    preds.getD i [] = [] ∧ l = 0 := by
  have hi := lt_size_of_layer? h
  rw [show (roots preds).size = preds.size from Array.size_map] at hi
  rw [layer?_roots hi] at h
  cases hp : preds.getD i [] with
  | nil =>
    rw [hp] at h
    cases h
    exact ⟨rfl, rfl⟩
  | cons p ps =>
    rw [hp] at h
    cases h

/-- What holds of the roots and is kept by every placement holds of every stage. -/
theorem stage_induction {P : Layering → Prop} (hroots : P (roots preds))
    (hsettle : ∀ ls i, P ls → ls.layer? i = none → (∀ p ∈ preds.getD i [], ls.isPlaced p) →
      P (ls.place i (depth preds ls i)))
    (hbreak : ∀ k i, P (stage preds k) → Stalled preds (stage preds k) →
      breaker? preds (stage preds k) = some i →
      P ((stage preds k).place i (depth preds (stage preds k) i)))
    (k : Nat) : P (stage preds k) := by
  induction k with
  | zero => exact hroots
  | succ k ih => exact advance_induction hsettle (fun i => hbreak k i ih) ih

theorem size_stage (preds : Array (List Nat)) (k : Nat) : (stage preds k).size = preds.size := by
  induction k with
  | zero => exact Array.size_map
  | succ k ih => exact (size_advance ..).trans ih

/-- A later stage keeps the layers of an earlier one. -/
theorem extends_stage (preds : Array (List Nat)) {j k : Nat} (h : j ≤ k) :
    (stage preds j).Extends (stage preds k) := by
  induction h with
  | refl => exact Extends.refl _
  | step _ ih => exact ih.trans (extends_advance _ _)

/-- A round places something, as long as something is not placed. -/
theorem exists_isPlaced_advance (hsize : ls.size = preds.size) (h : unplaced preds ls ≠ []) :
    ∃ i ∈ unplaced preds ls, (ls.advance preds).isPlaced i := by
  rcases advance_cases preds ls with ⟨hmoved, heq⟩ | ⟨-, heq⟩
  · -- a pass that changes something has given a layer to a position that had none
    by_contra hall
    refine hmoved (ext_layer? (size_settleAll ..) fun i => ?_)
    cases hi : ls.layer? i with
    | some l => exact extends_settleAll preds ls _ i l hi
    | none =>
      by_contra hne
      obtain ⟨l, hl⟩ := Option.ne_none_iff_exists'.1 hne
      have hlt := lt_size_of_layer? hl
      rw [sweep, size_settleAll, hsize] at hlt
      exact hall ⟨i, mem_unplaced.2 ⟨hlt, hi⟩, heq ▸ isPlaced_iff.2 ⟨l, hl⟩⟩
  · obtain ⟨i, hi⟩ := exists_breaker? h
    have hmem := mem_unplaced_of_breaker? hi
    have hlt : i < ls.size := hsize ▸ (mem_unplaced.1 hmem).1
    refine ⟨i, hmem, ?_⟩
    rw [heq, force_eq, hi]
    exact isPlaced_iff.2 ⟨_, layer?_place_self hlt⟩

theorem length_unplaced_advance_lt (hsize : ls.size = preds.size)
    (h : unplaced preds ls ≠ []) :
    (unplaced preds (ls.advance preds)).length < (unplaced preds ls).length := by
  have hsub : unplaced preds (ls.advance preds) =
      (unplaced preds ls).filter fun i => !(ls.advance preds).isPlaced i := by
    rw [unplaced, unplaced, List.filter_filter]
    refine List.filter_congr fun i _ => ?_
    cases hi : ls.isPlaced i with
    | true => simp [(extends_advance preds ls).isPlaced hi]
    | false => simp
  obtain ⟨i, hi, hadv⟩ := exists_isPlaced_advance hsize h
  rw [hsub, List.length_filter_lt_length_iff_exists]
  exact ⟨i, hi, by simp [hadv]⟩

theorem length_unplaced_stage_le (preds : Array (List Nat)) (k : Nat) :
    (unplaced preds (stage preds k)).length ≤ preds.size - k := by
  induction k with
  | zero =>
    have h := List.length_filter_le (fun i => !(stage preds 0).isPlaced i) (List.range preds.size)
    rwa [List.length_range] at h
  | succ k ih =>
    by_cases h : unplaced preds (stage preds k) = []
    · -- no layer is taken back
      have hnil : unplaced preds (stage preds (k + 1)) = [] := by
        refine List.eq_nil_iff_forall_not_mem.2 fun i hi => ?_
        obtain ⟨hlt, hnone⟩ := mem_unplaced.1 hi
        have hmem : i ∈ unplaced preds (stage preds k) := by
          refine mem_unplaced.2 ⟨hlt, ?_⟩
          rw [← isPlaced_eq_false_iff, Bool.eq_false_iff]
          intro hplaced
          have hlater := (extends_stage preds (Nat.le_succ k)).isPlaced hplaced
          rw [isPlaced, hnone] at hlater
          cases hlater
        rw [h] at hmem
        cases hmem
      rw [hnil]
      exact Nat.zero_le _
    · have hlt := length_unplaced_advance_lt (size_stage preds k) h
      change (unplaced preds ((stage preds k).advance preds)).length ≤ _
      omega

/-- As many rounds as positions place everything. -/
theorem exists_layer?_stage {k : Nat} (hk : preds.size ≤ k) (hi : i < preds.size) :
    ∃ l, (stage preds k).layer? i = some l := by
  have hle := length_unplaced_stage_le preds k
  have hnil : unplaced preds (stage preds k) = [] := List.eq_nil_of_length_eq_zero (by omega)
  rw [← isPlaced_iff]
  by_contra hnot
  have hmem : i ∈ unplaced preds (stage preds k) :=
    mem_unplaced.2 ⟨hi, isPlaced_eq_false_iff.1 (Bool.eq_false_iff.2 hnot)⟩
  rw [hnil] at hmem
  cases hmem

/-! ## The run -/

theorem isComplete_iff : ls.isComplete = true ↔ ∀ i < ls.size, ∃ l, ls.layer? i = some l := by
  rw [isComplete, Array.all_eq_true]
  refine forall₂_congr fun i hi => ?_
  rw [Option.isSome_iff_exists, layer?, Array.getElem?_eq_getElem hi]
  rfl

/-- With everything placed, a further round changes nothing. -/
theorem advance_of_isComplete (h : ls.isComplete) : ls.advance preds = ls := by
  refine ext_layer? (size_advance preds ls) fun i => ?_
  cases hi : ls.layer? i with
  | some l => exact extends_advance preds ls i l hi
  | none =>
    by_contra hne
    obtain ⟨l, hl⟩ := Option.ne_none_iff_exists'.1 hne
    have hlt := lt_size_of_layer? hl
    rw [size_advance] at hlt
    obtain ⟨m, hm⟩ := isComplete_iff.1 h i hlt
    rw [hi] at hm
    cases hm

theorem stage_add_of_isComplete {k : Nat} (h : (stage preds k).isComplete) (n : Nat) :
    stage preds (k + n) = stage preds k := by
  induction n with
  | zero => rfl
  | succ n ih =>
    change (stage preds (k + n)).advance preds = _
    rw [ih, advance_of_isComplete h]

/-- A run goes from stage to stage. -/
theorem run_stage (preds : Array (List Nat)) (k n : Nat) :
    run preds n (stage preds k) = stage preds (k + n) := by
  induction n generalizing k with
  | zero => rfl
  | succ n ih =>
    unfold run
    split
    · next h => exact (stage_add_of_isComplete h (n + 1)).symm
    · change run preds n (stage preds (k + 1)) = _
      rw [ih, Nat.add_assoc, Nat.add_comm 1 n]

/-- Without roots no pass can place anything, and the first position is placed. -/
theorem advance_roots (h : ∀ i, (roots preds).layer? i = none) :
    (roots preds).advance preds = (roots preds).place 0 0 := by
  have hstalled : Stalled preds (roots preds) := by
    refine settleAll_induction (P := (· = roots preds)) ?_ rfl _
    rintro ls i rfl hnone hall
    refine ext_layer? (size_place ..) fun j => ?_
    by_cases hi : i < preds.size
    · exfalso
      have hroot := layer?_roots hi
      rw [hnone] at hroot
      cases hp : preds.getD i [] with
      | nil => simp [hp] at hroot
      | cons p ps =>
        obtain ⟨l, hl⟩ := isPlaced_iff.1 (hall p (hp ▸ List.mem_cons_self))
        rw [h] at hl
        cases hl
    · have hsize : (roots preds).size = preds.size := size_stage preds 0
      rw [layer?_place, if_neg (fun hij => hi (hsize ▸ hij.2))]
  have hdepth : ∀ i, depth preds (roots preds) i = 0 := by
    intro i
    have hnil : (preds.getD i []).filterMap (roots preds).layer? = [] :=
      List.filterMap_eq_nil_iff.2 fun p _ => h p
    rw [depth, hnil]
    rfl
  have hfree : ∀ i, (roots preds).isPlaced i = false := fun i => isPlaced_eq_false_iff.2 (h i)
  have hunplaced : unplaced preds (roots preds) = List.range preds.size :=
    List.filter_eq_self.2 fun i _ => by rw [hfree]; rfl
  have hfind : (unplaced preds (roots preds)).find?
      (fun i => (preds.getD i []).any (roots preds).isPlaced) = none :=
    List.find?_eq_none.2 fun i _ => by simp [hfree]
  rcases advance_cases preds (roots preds) with ⟨hmoved, -⟩ | ⟨-, heq⟩
  · exact absurd hstalled hmoved
  · rw [heq, force_eq, breaker?, hfind, hunplaced, Option.none_or, List.head?_range]
    by_cases hsize : preds.size = 0
    · have hroots : (roots preds).size = 0 := (size_stage preds 0).trans hsize
      rw [if_pos hsize]
      refine ext_layer? (size_place ..).symm fun j => ?_
      rw [Option.elim_none, layer?_place, if_neg]
      omega
    · rw [if_neg hsize]
      change (roots preds).place 0 (depth preds (roots preds) 0) = _
      rw [hdepth]

/-- If no position is without predecessors, the run starts with the first round already made. -/
theorem start_eq (preds : Array (List Nat)) :
    start preds = stage preds 0 ∨ start preds = stage preds 1 := by
  have hstart : start preds =
      if (roots preds).all (·.isNone) then (roots preds).place 0 0 else roots preds := rfl
  rw [hstart]
  by_cases h : (roots preds).all (·.isNone)
  · refine .inr ?_
    rw [if_pos h]
    refine (advance_roots fun i => ?_).symm
    by_cases hi : i < (roots preds).size
    · have hnone := Array.all_eq_true.1 h i hi
      rw [layer?, Array.getElem?_eq_getElem hi]
      exact Option.isNone_iff_eq_none.1 hnone
    · rw [layer?, Array.getElem?_eq_none (Nat.le_of_not_lt hi)]
      rfl
  · refine .inl ?_
    rw [if_neg h]
    rfl

theorem isComplete_stage {k : Nat} (hk : preds.size ≤ k) : (stage preds k).isComplete = true :=
  isComplete_iff.2 fun _ hi => exists_layer?_stage hk (size_stage preds k ▸ hi)

/-- A run of at least as many rounds as positions ends with everything placed, and always with the
same layers. -/
theorem run_start {n : Nat} (hn : preds.size ≤ n) :
    run preds n (start preds) = stage preds preds.size := by
  obtain ⟨m, rfl⟩ := Nat.exists_eq_add_of_le hn
  have hcomplete : (stage preds preds.size).isComplete := isComplete_stage (Nat.le_refl _)
  rcases start_eq preds with h | h
  · rw [h, run_stage, Nat.zero_add, stage_add_of_isComplete hcomplete]
  · rw [h, run_stage, Nat.add_comm, Nat.add_assoc, stage_add_of_isComplete hcomplete]

end Layering

theorem size_predecessorTable (nodes : List Node) (edges : List Edge) :
    (predecessorTable nodes edges).size = nodes.length := by
  rw [predecessorTable, Array.size_map, Array.size_range]

/-- The assigned layers are those of the stage at which every position is placed. -/
theorem assignLayers_eq_stage (nodes : List Node) (edges : List Edge) :
    assignLayers nodes edges =
      (Layering.stage (predecessorTable nodes edges) nodes.length).toList.map (·.getD 0) := by
  have hsize := size_predecessorTable nodes edges
  change (Layering.run (predecessorTable nodes edges) (2 * nodes.length)
    (Layering.start (predecessorTable nodes edges))).toList.map (·.getD 0) = _
  rw [Layering.run_start (by omega), hsize]

/-- Every position has its layer from a stage at which every position is placed. -/
theorem exists_assignLayers_eq_stage (nodes : List Node) (edges : List Edge) :
    ∃ k, ∀ i < nodes.length, ∃ l,
      (Layering.stage (predecessorTable nodes edges) k).layer? i = some l ∧
        (assignLayers nodes edges)[i]? = some l := by
  refine ⟨nodes.length, fun i hi => ?_⟩
  have hsize := size_predecessorTable nodes edges
  obtain ⟨l, hl⟩ := Layering.exists_layer?_stage (Nat.le_of_eq hsize) (hsize ▸ hi)
  refine ⟨l, hl, ?_⟩
  rw [assignLayers_eq_stage, List.getElem?_map, Array.getElem?_toList,
    Layering.getElem?_of_lt_size (Layering.lt_size_of_layer? hl), hl]
  rfl

theorem length_assignLayers (nodes : List Node) (edges : List Edge) :
    (assignLayers nodes edges).length = nodes.length := by
  rw [assignLayers_eq_stage, List.length_map, Array.length_toList, Layering.size_stage,
    size_predecessorTable]

end FlowchartLayout
