import FlowchartLayout.Proofs.Document.Faithful

/-!
# Members in any order

A record is read from the members of an object one after another. Each gives a value to the field of
its name, or none, so they may come in any order; and a field without a member has its default.

## Main definitions

- `Fields.Takes` — what a member changes in the values that were read
- `Fields.reset?` — a row with the default of one field

## Main statements

- `foldlM_eq_ok_of_perm` — steps that commute may come in any order
- `Fields.readMember_swap`, `Fields.takes_of_not_mem` — members commute, and may be passed over
- `Record.decode_without` — a record without a member
- `Record.skipProblem?_of_decode` — a record ends where it should
-/

namespace FlowchartLayout

/-! ## Steps that may fail -/

theorem bind_eq_ok_iff {ε α β : Type} {x : Except ε α} {f : α → Except ε β} {b : β} :
    x >>= f = .ok b ↔ ∃ a, x = .ok a ∧ f a = .ok b := by
  cases x with
  | error e => exact ⟨nofun, nofun⟩
  | ok a => exact ⟨fun h => ⟨a, rfl, h⟩, fun ⟨_, ha, h⟩ => by cases ha; exact h⟩

section Steps

variable {ε α β : Type} {f : β → α → Except ε β}

theorem foldlM_cons_eq_ok_iff {x : α} {xs : List α} {b b' : β} :
    (x :: xs).foldlM f b = .ok b' ↔ ∃ b₁, f b x = .ok b₁ ∧ xs.foldlM f b₁ = .ok b' := by
  rw [List.foldlM_cons, bind_eq_ok_iff]

theorem foldlM_append_eq_ok_iff {xs ys : List α} {b b' : β} :
    (xs ++ ys).foldlM f b = .ok b' ↔
      ∃ b₁, xs.foldlM f b = .ok b₁ ∧ ys.foldlM f b₁ = .ok b' := by
  rw [List.foldlM_append, bind_eq_ok_iff]

/-- Steps that can change places with their neighbours may come in any order. -/
theorem foldlM_eq_ok_of_perm
    (hswap : ∀ b b₁ b₂ x y, f b x = .ok b₁ → f b₁ y = .ok b₂ →
      ∃ b₁', f b y = .ok b₁' ∧ f b₁' x = .ok b₂)
    {xs ys : List α} (hperm : xs.Perm ys) {b b' : β} (h : xs.foldlM f b = .ok b') :
    ys.foldlM f b = .ok b' := by
  induction hperm generalizing b with
  | nil => exact h
  | cons x _ ih =>
    obtain ⟨b₁, hx, hrest⟩ := foldlM_cons_eq_ok_iff.1 h
    exact foldlM_cons_eq_ok_iff.2 ⟨b₁, hx, ih hrest⟩
  | swap x y xs =>
    obtain ⟨b₁, hy, hrest⟩ := foldlM_cons_eq_ok_iff.1 h
    obtain ⟨b₂, hx, hrest⟩ := foldlM_cons_eq_ok_iff.1 hrest
    obtain ⟨b₁', hx', hy'⟩ := hswap b b₁ b₂ y x hy hx
    exact foldlM_cons_eq_ok_iff.2 ⟨b₁', hx', foldlM_cons_eq_ok_iff.2 ⟨b₂, hy', hrest⟩⟩
  | trans _ _ ih ih' => exact ih' (ih h)

/-- Steps may be replaced one by one by others that lead from the same to the same. -/
theorem foldlM_eq_ok_of_forall₂ {r : α → α → Prop}
    (hstep : ∀ x y, r x y → ∀ b b', f b x = .ok b' → f b y = .ok b')
    {xs ys : List α} (h : List.Forall₂ r xs ys) {b b' : β} (hxs : xs.foldlM f b = .ok b') :
    ys.foldlM f b = .ok b' := by
  induction h generalizing b with
  | nil => exact hxs
  | cons hxy _ ih =>
    obtain ⟨b₁, hx, hrest⟩ := foldlM_cons_eq_ok_iff.1 hxs
    exact foldlM_cons_eq_ok_iff.2 ⟨b₁, hstep _ _ hxy b b₁ hx, ih hrest⟩

/-- Steps that lead nowhere may be left out. -/
theorem foldlM_eq_ok_self {xs : List α} {b : β} (h : ∀ x ∈ xs, f b x = .ok b) :
    xs.foldlM f b = .ok b := by
  induction xs with
  | nil => rfl
  | cons x xs ih =>
    obtain ⟨hx, hxs⟩ := List.forall_mem_cons.1 h
    exact foldlM_cons_eq_ok_iff.2 ⟨b, hx, ih hxs⟩

end Steps

/-! ## Members -/

namespace Fields

/-- The values that were read before a member of the given name and value, and after it. -/
def Takes : {αs : List Type} → Fields αs → Slots αs → String → Json → Slots αs → Prop
  | _, nil, _, _, j, _ => j.skipProblem? = none
  | _, cons f fs, (slot, slots), name, j, (slot', slots') =>
    if f.name = name then
      slot = none ∧ slots' = slots ∧ ∃ a, f.codec.decode j = .ok a ∧ slot' = some a
    else slot' = slot ∧ fs.Takes slots name j slots'

section Cons

variable {α : Type} {αs : List Type} {f : Field α} {fs : Fields αs} {slot slot' : Option α}
  {slots slots' : Slots αs} {name : String} {j : Json}

/-- The first field takes a member of its name, once. -/
theorem takes_cons_of_eq (h : f.name = name) :
    (cons f fs).Takes (extend slot slots) name j (extend slot' slots') ↔
      slot = none ∧ slots' = slots ∧ ∃ a, f.codec.decode j = .ok a ∧ slot' = some a := by
  simp only [Takes, extend, if_pos h]

/-- Members of other names are left to the other fields. -/
theorem takes_cons_of_ne (h : f.name ≠ name) :
    (cons f fs).Takes (extend slot slots) name j (extend slot' slots') ↔
      slot' = slot ∧ fs.Takes slots name j slots' := by
  simp only [Takes, extend, if_neg h]

/-- A field is not read twice. -/
theorem readMember_of_some (a : α) :
    (cons f fs).readMember (extend (some a) slots) (.ok f.name, j) =
      .error (.repeatedField f.name) := by
  simp only [readMember, extend, put?, beq_self_eq_true, if_true, Option.isSome_some]

end Cons

variable {αs : List Type} {fs : Fields αs}

theorem readMember_eq_ok_iff {name : String} {j : Json} {slots slots' : Slots αs} :
    fs.readMember slots (.ok name, j) = .ok slots' ↔ fs.Takes slots name j slots' := by
  induction fs with
  | nil =>
    simp only [readMember, put?, Takes]
    cases j.skipProblem? with
    | none => exact iff_of_true rfl rfl
    | some p => simp
  | cons f fs ih =>
    obtain ⟨slot, slots⟩ := slots
    obtain ⟨slot', slots'⟩ := slots'
    change (cons f fs).readMember (extend slot slots) _ = .ok (extend slot' slots') ↔ _
    by_cases hname : f.name = name
    · refine Iff.trans ?_ (takes_cons_of_eq hname).symm
      subst hname
      cases slot with
      | some a =>
        rw [readMember_of_some]
        constructor
        · intro h
          cases h
        · intro h
          exact absurd h.1 (Option.some_ne_none a)
      | none =>
        rw [readMember_self, Json.map_eq_ok_iff]
        constructor
        · rintro ⟨a, ha, h⟩
          cases h
          exact ⟨rfl, rfl, a, ha, rfl⟩
        · rintro ⟨-, rfl, a, ha, rfl⟩
          exact ⟨a, ha, rfl⟩
    · refine Iff.trans ?_ (takes_cons_of_ne hname).symm
      rw [readMember_of_ne hname, Json.map_eq_ok_iff, ← ih]
      constructor
      · rintro ⟨slots₁, h, heq⟩
        cases heq
        exact ⟨rfl, h⟩
      · rintro ⟨rfl, h⟩
        exact ⟨slots', h, rfl⟩

theorem exists_name_of_readMember {m : Json.Literal × Json} {slots slots' : Slots αs}
    (h : fs.readMember slots m = .ok slots') : ∃ name, m.1 = .ok name := by
  obtain ⟨key, j⟩ := m
  cases key with
  | error p => cases h
  | ok name => exact ⟨name, rfl⟩

/-- Members can change places. -/
theorem Takes.swap {slots slots₁ slots₂ : Slots αs} {name name' : String} {j j' : Json}
    (h : fs.Takes slots name j slots₁) (h' : fs.Takes slots₁ name' j' slots₂) :
    ∃ slots₁', fs.Takes slots name' j' slots₁' ∧ fs.Takes slots₁' name j slots₂ := by
  induction fs with
  | nil => exact ⟨(), h', h⟩
  | cons f fs ih =>
    obtain ⟨slot, slots⟩ := slots
    obtain ⟨slot₁, slots₁⟩ := slots₁
    obtain ⟨slot₂, slots₂⟩ := slots₂
    by_cases hname : f.name = name
    · obtain ⟨rfl, rfl, a, ha, rfl⟩ := (takes_cons_of_eq hname).1 h
      by_cases hname' : f.name = name'
      -- two members of one name are not read in any order
      · exact absurd ((takes_cons_of_eq hname').1 h').1 (Option.some_ne_none a)
      · obtain ⟨rfl, hrest⟩ := (takes_cons_of_ne hname').1 h'
        exact ⟨extend none slots₂, (takes_cons_of_ne hname').2 ⟨rfl, hrest⟩,
          (takes_cons_of_eq hname).2 ⟨rfl, rfl, a, ha, rfl⟩⟩
    · obtain ⟨rfl, hrest⟩ := (takes_cons_of_ne hname).1 h
      by_cases hname' : f.name = name'
      · obtain ⟨rfl, rfl, a, ha, rfl⟩ := (takes_cons_of_eq hname').1 h'
        exact ⟨extend (some a) slots, (takes_cons_of_eq hname').2 ⟨rfl, rfl, a, ha, rfl⟩,
          (takes_cons_of_ne hname).2 ⟨rfl, hrest⟩⟩
      · obtain ⟨rfl, hrest'⟩ := (takes_cons_of_ne hname').1 h'
        obtain ⟨slots₁', hfirst, hsecond⟩ := ih hrest hrest'
        exact ⟨extend slot₂ slots₁', (takes_cons_of_ne hname').2 ⟨rfl, hfirst⟩,
          (takes_cons_of_ne hname).2 ⟨rfl, hsecond⟩⟩

theorem readMember_swap (slots slots₁ slots₂ : Slots αs) (m m' : Json.Literal × Json)
    (h : fs.readMember slots m = .ok slots₁) (h' : fs.readMember slots₁ m' = .ok slots₂) :
    ∃ slots₁', fs.readMember slots m' = .ok slots₁' ∧ fs.readMember slots₁' m = .ok slots₂ := by
  obtain ⟨key, j⟩ := m
  obtain ⟨key', j'⟩ := m'
  obtain ⟨name, rfl⟩ := exists_name_of_readMember h
  obtain ⟨name', rfl⟩ := exists_name_of_readMember h'
  simp only [readMember_eq_ok_iff] at h h' ⊢
  exact h.swap h'

/-- A member with another name than the fields is passed over. -/
theorem takes_of_not_mem {name : String} (hname : name ∉ fs.names) {j : Json}
    (hj : j.skipProblem? = none) (slots : Slots αs) : fs.Takes slots name j slots := by
  induction fs with
  | nil => exact hj
  | cons f fs ih =>
    obtain ⟨slot, slots⟩ := slots
    rw [names, List.mem_cons, not_or] at hname
    exact (takes_cons_of_ne (Ne.symm hname.1)).2 ⟨rfl, ih hname.2 slots⟩

/-! ## Members that are left out -/

/-- The row with the default of the named field, if there is such a field, and it has one. -/
def reset? : {αs : List Type} → Fields αs → String → Row αs → Option (Row αs)
  | _, nil, _, _ => none
  | _, cons f fs, name, (a, row) =>
    if f.name = name then f.ifUnnamed.map fun b => (b, row)
    else (fs.reset? name row).map fun row => (a, row)

theorem close_cons_eq_ok_iff {α : Type} {f : Field α} {slot : Option α} {slots : Slots αs}
    {a : α} {row : Row αs} : (cons f fs).close (extend slot slots) = .ok (a, row) ↔
      (slot <|> f.ifUnnamed) = some a ∧ fs.close slots = .ok row := by
  simp only [close, extend]
  cases slot <|> f.ifUnnamed with
  | none =>
    constructor
    · intro h
      cases h
    · intro h
      exact absurd h.1.symm (Option.some_ne_none a)
  | some b =>
    refine Json.map_eq_ok_iff.trans ⟨?_, ?_⟩
    · rintro ⟨row', hrow, h⟩
      cases h
      exact ⟨rfl, hrow⟩
    · rintro ⟨h, hrow⟩
      cases h
      exact ⟨row, hrow, rfl⟩

/-- Without its member, a field has its default. -/
theorem Takes.close {name : String} {j : Json} {slots slots' : Slots αs}
    (h : fs.Takes slots name j slots') {row row' : Row αs} (hclose : fs.close slots' = .ok row)
    (hreset : fs.reset? name row = some row') : fs.close slots = .ok row' := by
  induction fs with
  | nil => cases hreset
  | cons f fs ih =>
    obtain ⟨slot, slots⟩ := slots
    obtain ⟨slot', slots'⟩ := slots'
    obtain ⟨a, row⟩ := row
    obtain ⟨b, row'⟩ := row'
    obtain ⟨hslot, hrow⟩ := close_cons_eq_ok_iff.1 hclose
    refine close_cons_eq_ok_iff.2 ?_
    rw [reset?] at hreset
    by_cases hname : f.name = name
    · rw [if_pos hname] at hreset
      obtain ⟨rfl, rfl, -⟩ := (takes_cons_of_eq hname).1 h
      obtain ⟨_, hdefault, heq⟩ := Option.map_eq_some_iff.1 hreset
      cases heq
      exact ⟨hdefault, hrow⟩
    · rw [if_neg hname] at hreset
      obtain ⟨rfl, hothers⟩ := (takes_cons_of_ne hname).1 h
      obtain ⟨_, hrest, heq⟩ := Option.map_eq_some_iff.1 hreset
      cases heq
      exact ⟨hslot, ih hothers hrow hrest⟩

end Fields

/-! ## Records -/

namespace Record

variable {ρ : Type} {r : Record ρ}

theorem decode_object_iff {members : List (Json.Literal × Json)} {a : ρ} :
    r.codec.decode (.object members .closed) = .ok a ↔ ∃ slots row,
      members.foldlM r.fields.readMember (Slots.empty r.types) = .ok slots ∧
        r.fields.close slots = .ok row ∧ r.ofRow row = a := by
  simp only [codec, Json.map_eq_ok_iff, rowOfMembers, Json.Ending.objectProblem?]
  cases members.foldlM r.fields.readMember (Slots.empty r.types) with
  | error p => simp
  | ok slots => simp

/-- Without the member of a field, a record has the default of that field. -/
theorem decode_without {name : String} (g : ρ → ρ)
    (hreset : ∀ row, ∃ row', r.fields.reset? name row = some row' ∧ r.ofRow row' = g (r.ofRow row))
    {before after : List (Json.Literal × Json)} {j : Json} {a : ρ}
    (h : r.codec.decode (.object (before ++ (.ok name, j) :: after) .closed) = .ok a) :
    r.codec.decode (.object (before ++ after) .closed) = .ok (g a) := by
  obtain ⟨slots', row, hread, hclose, rfl⟩ := decode_object_iff.1 h
  obtain ⟨row', hrow', hg⟩ := hreset row
  -- read last, the member changes nothing but its own field
  have hlast : (before ++ (.ok name, j) :: after).Perm (before ++ after ++ [(.ok name, j)]) :=
    List.perm_middle.trans (List.perm_append_singleton ..).symm
  obtain ⟨slots, hothers, hmember⟩ := foldlM_append_eq_ok_iff.1
    (foldlM_eq_ok_of_perm Fields.readMember_swap hlast hread)
  obtain ⟨slots₁, hmember, hend⟩ := foldlM_cons_eq_ok_iff.1 hmember
  cases hend
  rw [Fields.readMember_eq_ok_iff] at hmember
  exact decode_object_iff.2 ⟨slots, row', hothers, hmember.close hclose hrow', hg⟩

end Record

/-! ## The end of a record -/

namespace Json

theorem Ending.eq_closed_of_objectProblem? {ending : Ending} (h : ending.objectProblem? = none) :
    ending = .closed := by
  unfold objectProblem? at h
  split at h
  · rfl
  all_goals cases h

theorem Ending.eq_closed_of_arrayProblem? {ending : Ending} (h : ending.arrayProblem? = none) :
    ending = .closed := by
  unfold arrayProblem? at h
  split at h
  · rfl
  all_goals cases h

end Json

theorem Fields.eq_closed_of_endProblem? {items : List Json} {ending : Json.Ending}
    (h : endProblem? items ending = none) : ending = .closed := by
  unfold endProblem? at h
  split at h
  · rfl
  all_goals cases h

theorem Fields.eq_closed_of_ofItems {tooShort : Nat → Problem} {αs : List Type} {fs : Fields αs}
    {i : Nat} {items : List Json} {ending : Json.Ending} {row : Row αs}
    (h : fs.ofItems tooShort i items ending = .ok row) : ending = .closed := by
  induction fs generalizing i items with
  | nil =>
    rw [ofItems] at h
    split at h
    · cases h
    · next hend => exact eq_closed_of_endProblem? hend
  | cons f fs ih =>
    cases items with
    | nil =>
      rw [ofItems] at h
      split at h
      · cases h
      · next hend _ => exact Json.Ending.eq_closed_of_arrayProblem? hend
      · cases h
    | cons item items =>
      rw [ofItems] at h
      split at h
      · cases h
      · obtain ⟨row, hrow, -⟩ := Json.map_eq_ok_iff.1 h
        exact ih hrow

/-- A record ends where it should. -/
theorem Record.skipProblem?_of_decode {ρ : Type} {r : Record ρ} {j : Json} {a : ρ}
    (h : r.codec.decode j = .ok a) : j.skipProblem? = none := by
  cases j with
  | object members ending =>
    obtain ⟨row, hrow, -⟩ := Json.map_eq_ok_iff.1 h
    rw [rowOfMembers] at hrow
    split at hrow
    · cases hrow
    · split at hrow
      · cases hrow
      · next hend =>
        rw [Json.Ending.eq_closed_of_objectProblem? hend]
        rfl
  | array items ending =>
    obtain ⟨row, hrow, -⟩ := Json.map_eq_ok_iff.1 h
    rw [Fields.eq_closed_of_ofItems hrow]
    rfl
  | _ => cases h

end FlowchartLayout
