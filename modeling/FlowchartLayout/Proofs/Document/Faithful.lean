import FlowchartLayout.Document.Record
import FlowchartLayout.Proofs.Color
import FlowchartLayout.Proofs.Json.RoundTrip

/-!
# Faithful codecs

A codec is faithful if a value is read back as soon as its numbers are, and if a number that is not
finite is noticed. Codecs made from faithful ones are faithful.

## Main definitions

- `ReadsBack` — a number is written as a numeral that stands for it
- `Codec.Faithful` — a codec, with the numbers in the values that it writes
- `Fields.Faithful` — fields with faithful codecs and different names

## Main statements

- `Codec.Faithful.option`, `Codec.Faithful.list` — codecs made from others
- `Record.faithful` — records
-/

namespace FlowchartLayout

/-- The numeral that is written for the number stands for it. -/
def ReadsBack (x : Float32) : Prop :=
  (Numeral.ofSingle? x).bind Numeral.toSingle? = some x

instance (x : Float32) : Decidable (ReadsBack x) :=
  inferInstanceAs (Decidable (_ = _))

/-- Only finite numbers have a numeral. -/
theorem ofSingle?_eq_none_iff (x : Float32) :
    Numeral.ofSingle? x = none ↔ x.isFinite = false := by
  change Numeral.ofUnpacked? .binary32 Numeral.singleRange x.toModel.unpack = none ↔
    x.toModel.unpack.isFinite = false
  cases x.toModel.unpack with
  | finite | zero => exact ⟨nofun, nofun⟩
  | infinity | notANumber => exact ⟨fun _ => rfl, fun _ => rfl⟩

/-- Written values are whole; they are read back if all their numbers are; and they cannot be read
if one of their numbers is not finite. -/
structure Codec.Faithful {α : Type} (c : Codec α) (numbers : α → List Float32) : Prop where
  whole : ∀ a, (c.encode a).Whole
  decode_encode : ∀ a, (∀ x ∈ numbers a, ReadsBack x) → c.decode (c.encode a) = .ok a
  exists_problem : ∀ a, (∃ x ∈ numbers a, x.isFinite = false) →
    ∃ p, c.decode (c.encode a) = .error p

/-! ## Scalars -/

namespace Codec

theorem faithful_text : text.Faithful fun _ => [] where
  whole s := .string s
  decode_encode _ _ := rfl
  exists_problem _ h := by simp at h

theorem faithful_flag : flag.Faithful fun _ => [] where
  whole b := .bool b
  decode_encode _ _ := rfl
  exists_problem _ h := by simp at h

theorem faithful_color : color.Faithful fun _ => [] where
  whole c := .string _
  decode_encode c _ := by
    simp only [color, text, String.toList_ofList, Color.ofHex?_hex]
  exists_problem _ h := by simp at h

/-- Names are faithful if no two values share one. -/
theorem faithful_named {α : Type} [Named α] (h : ∀ a : α, Named.ofName? (Named.name a) = some a) :
    (named : Codec α).Faithful fun _ => [] where
  whole a := .string _
  decode_encode a _ := by
    simp only [named, ofLiteral, h]
  exists_problem _ h := by simp at h

theorem encode_single_of_some {x : Float32} {n : Numeral} (h : Numeral.ofSingle? x = some n) :
    single.encode x = .number n := by
  simp only [single, h, Option.map_some, Option.getD_some]

theorem encode_single_of_none {x : Float32} (h : Numeral.ofSingle? x = none) :
    single.encode x = .null := by
  simp only [single, h, Option.map_none, Option.getD_none]

theorem faithful_single : single.Faithful fun x => [x] where
  whole x := by
    cases h : Numeral.ofSingle? x with
    | none => exact encode_single_of_none h ▸ .null
    | some n => exact encode_single_of_some h ▸ .number (Numeral.regular_of_ofSingle? h)
  decode_encode x h := by
    have hx : (Numeral.ofSingle? x).bind Numeral.toSingle? = some x :=
      h x (List.mem_singleton_self x)
    obtain ⟨n, hn, hread⟩ := Option.bind_eq_some_iff.1 hx
    rw [encode_single_of_some hn]
    simp only [single, hread]
  exists_problem x h := by
    obtain ⟨y, hy, hfinite⟩ := h
    rw [List.mem_singleton.1 hy] at hfinite
    rw [encode_single_of_none ((ofSingle?_eq_none_iff x).2 hfinite)]
    exact ⟨_, rfl⟩

/-! ## Options and lists -/

section Made

variable {α : Type} {c : Codec α} {numbers : α → List Float32}

theorem decode_option {j : Json} (hj : j.Whole) (hne : j ≠ .null) :
    c.option.decode j = (c.decode j).map some := by
  cases hj with
  | null => exact absurd rfl hne
  | _ => rfl

/-- An option can be told from none if no value is written as `null`. -/
theorem Faithful.option (hc : c.Faithful numbers) (hne : ∀ a, c.encode a ≠ .null) :
    c.option.Faithful fun o => o.toList.flatMap numbers where
  whole
    | none => .null
    | some a => hc.whole a
  decode_encode
    | none, _ => rfl
    | some a, h => by
      change c.option.decode (c.encode a) = _
      rw [decode_option (hc.whole a) (hne a), hc.decode_encode a (by simpa using h)]
      rfl
  exists_problem
    | none, h => by simp at h
    | some a, h => by
      obtain ⟨p, hp⟩ := hc.exists_problem a (by simpa using h)
      refine ⟨p, ?_⟩
      change c.option.decode (c.encode a) = _
      rw [decode_option (hc.whole a) (hne a), hp]
      rfl

theorem Faithful.option_of_no_numbers (hc : c.Faithful fun _ => [])
    (hne : ∀ a, c.encode a ≠ .null) : c.option.Faithful fun _ => [] := by
  have hnone : (fun o : Option α => o.toList.flatMap fun _ => ([] : List Float32)) =
      fun _ => [] := by
    funext o
    cases o <;> rfl
  exact hnone ▸ hc.option hne

theorem mapM_decode_encode {as : List α} (h : ∀ a ∈ as, c.decode (c.encode a) = .ok a) :
    (as.map c.encode).mapM c.decode = .ok as := by
  induction as with
  | nil => rfl
  | cons a as ih =>
    rw [List.map_cons, List.mapM_cons, h a (List.mem_cons_self ..),
      ih fun b hb => h b (List.mem_cons_of_mem _ hb)]
    rfl

theorem exists_mapM_error {as : List α}
    (h : ∃ a ∈ as, ∃ p, c.decode (c.encode a) = .error p) :
    ∃ p, (as.map c.encode).mapM c.decode = .error p := by
  induction as with
  | nil => simp at h
  | cons a as ih =>
    rw [List.map_cons, List.mapM_cons]
    cases ha : c.decode (c.encode a) with
    | error p => exact ⟨p, rfl⟩
    | ok b =>
      obtain ⟨a', hmem, p, hp⟩ := h
      rcases List.mem_cons.1 hmem with rfl | hmem
      · rw [ha] at hp
        cases hp
      · obtain ⟨q, hq⟩ := ih ⟨a', hmem, p, hp⟩
        rw [hq]
        exact ⟨q, rfl⟩

theorem Faithful.list (hc : c.Faithful numbers) :
    c.list.Faithful fun as => as.flatMap numbers where
  whole as := by
    refine .array fun j hj => ?_
    obtain ⟨a, -, rfl⟩ := List.mem_map.1 hj
    exact hc.whole a
  decode_encode as h := by
    have hall : ∀ a ∈ as, c.decode (c.encode a) = .ok a := fun a ha =>
      hc.decode_encode a fun x hx => h x (List.mem_flatMap.2 ⟨a, ha, hx⟩)
    simp only [Codec.list, mapM_decode_encode hall, Json.Ending.arrayProblem?]
  exists_problem as h := by
    obtain ⟨x, hx, hfinite⟩ := h
    obtain ⟨a, ha, hx⟩ := List.mem_flatMap.1 hx
    obtain ⟨p, hp⟩ := exists_mapM_error ⟨a, ha, hc.exists_problem a ⟨x, hx, hfinite⟩⟩
    exact ⟨p, by simp only [Codec.list, hp]⟩

end Made

end Codec

/-! ## Records -/

namespace Fields

/-- The names of the fields, in order. -/
def names : {αs : List Type} → Fields αs → List String
  | _, nil => []
  | _, cons f fs => f.name :: fs.names

/-- The codecs of all fields are faithful, and their names differ. -/
inductive Faithful : {αs : List Type} → Fields αs → (Row αs → List Float32) → Prop where
  | nil : Faithful .nil fun _ => []
  | cons {α : Type} {αs : List Type} {f : Field α} {fs : Fields αs} {numbers : α → List Float32}
      {rest : Row αs → List Float32} (hf : f.codec.Faithful numbers) (hfs : fs.Faithful rest)
      (hname : f.name ∉ fs.names) :
      Faithful (.cons f fs) fun (row : α × Row αs) => numbers row.1 ++ rest row.2

/-- The value of a first field, if it was read, before those of other fields. -/
def extend {α : Type} {αs : List Type} (slot : Option α) (slots : Slots αs) : Slots (α :: αs) :=
  (slot, slots)

/-- All values of a row. -/
def fill : {αs : List Type} → Row αs → Slots αs
  | [], () => ()
  | _ :: _, (a, row) => extend (some a) (fill row)

theorem close_fill {αs : List Type} (fs : Fields αs) (row : Row αs) :
    fs.close (fill row) = .ok row := by
  induction fs with
  | nil => rfl
  | cons f fs ih =>
    obtain ⟨a, row⟩ := row
    change (fs.close (fill row)).map (fun row => ((a, row) : Row (_ :: _))) = _
    rw [ih]
    rfl

theorem exists_name_of_mem_members {αs : List Type} {fs : Fields αs} {row : Row αs}
    {m : Json.Literal × Json} (hm : m ∈ fs.members row) : ∃ name ∈ fs.names, m.1 = .ok name := by
  induction fs with
  | nil => simp [members] at hm
  | cons f fs ih =>
    obtain ⟨a, row⟩ := row
    rcases List.mem_cons.1 hm with rfl | hm
    · exact ⟨f.name, List.mem_cons_self .., rfl⟩
    · obtain ⟨name, hname, h⟩ := ih hm
      exact ⟨name, List.mem_cons_of_mem _ hname, h⟩

section Cons

variable {α : Type} {αs : List Type} {f : Field α} {fs : Fields αs}

/-- A member with another name is left to the other fields. -/
theorem readMember_of_ne {name : String} (h : f.name ≠ name) (slot : Option α) (slots : Slots αs)
    (j : Json) :
    (cons f fs).readMember (extend slot slots) (.ok name, j) =
      (fs.readMember slots (.ok name, j)).map (extend slot) := by
  have hname : (f.name == name) = false := beq_false_of_ne h
  simp only [readMember, extend, put?, hname, Bool.false_eq_true, if_false]
  cases fs.put? slots name j with
  | some r => rfl
  | none =>
    cases j.skipProblem? with
    | some p => rfl
    | none => rfl

theorem foldlM_readMember_of_ne {ms : List (Json.Literal × Json)}
    (h : ∀ m ∈ ms, ∃ name, f.name ≠ name ∧ m.1 = .ok name) (slot : Option α) (slots : Slots αs) :
    ms.foldlM (cons f fs).readMember (extend slot slots) =
      (ms.foldlM fs.readMember slots).map (extend slot) := by
  induction ms generalizing slots with
  | nil => rfl
  | cons m ms ih =>
    obtain ⟨key, j⟩ := m
    obtain ⟨name, hname, rfl⟩ := h (key, j) (List.mem_cons_self ..)
    rw [List.foldlM_cons, List.foldlM_cons, readMember_of_ne hname]
    cases fs.readMember slots (.ok name, j) with
    | error p => rfl
    | ok slots => exact ih (fun m hm => h m (List.mem_cons_of_mem _ hm)) slots

/-- The first field is read by its own codec. -/
theorem readMember_self (slots : Slots αs) (j : Json) :
    (cons f fs).readMember (extend none slots) (.ok f.name, j) =
      (f.codec.decode j).map fun a => extend (some a) slots := by
  simp only [readMember, extend, put?, beq_self_eq_true, if_true, Option.isSome_none,
    Bool.false_eq_true, if_false]

/-- The members of a row are read field by field: first the one of the first field, and then, if it
can be read, the others by the other fields. -/
theorem foldlM_members_cons (hname : f.name ∉ fs.names) (a : α) (row : Row αs) :
    ((cons f fs).members (a, row)).foldlM (cons f fs).readMember (Slots.empty (α :: αs)) =
      (f.codec.decode (f.codec.encode a)).bind fun b =>
        ((fs.members row).foldlM fs.readMember (Slots.empty αs)).map (extend (some b)) := by
  have hothers : ∀ m ∈ fs.members row, ∃ name, f.name ≠ name ∧ m.1 = .ok name := by
    intro m hm
    obtain ⟨name, hmem, h⟩ := exists_name_of_mem_members hm
    exact ⟨name, fun heq => hname (heq ▸ hmem), h⟩
  rw [members, List.foldlM_cons]
  change (cons f fs).readMember (extend none (Slots.empty αs)) _ >>= _ = _
  rw [readMember_self]
  cases f.codec.decode (f.codec.encode a) with
  | error p => rfl
  | ok b => exact foldlM_readMember_of_ne hothers (some b) (Slots.empty αs)

end Cons

variable {αs : List Type} {fs : Fields αs} {numbers : Row αs → List Float32}

theorem Faithful.whole (h : fs.Faithful numbers) (row : Row αs) :
    ∀ m ∈ fs.members row, m.2.Whole := by
  induction h with
  | nil => simp [members]
  | cons hf _ _ ih =>
    obtain ⟨a, row⟩ := row
    intro m hm
    rcases List.mem_cons.1 hm with rfl | hm
    · exact hf.whole a
    · exact ih row m hm

/-- The members of a row are read into a row. -/
theorem Faithful.foldlM_members (h : fs.Faithful numbers) (row : Row αs)
    (hrow : ∀ x ∈ numbers row, ReadsBack x) :
    (fs.members row).foldlM fs.readMember (Slots.empty αs) = .ok (fill row) := by
  induction h with
  | nil => rfl
  | cons hf _ hname ih =>
    obtain ⟨a, row⟩ := row
    rw [foldlM_members_cons hname,
      hf.decode_encode a fun x hx => hrow x (List.mem_append_left _ hx),
      ih row fun x hx => hrow x (List.mem_append_right _ hx)]
    rfl

/-- A number that is not finite stops the reading of the members. -/
theorem Faithful.exists_foldlM_error (h : fs.Faithful numbers) (row : Row αs)
    (hrow : ∃ x ∈ numbers row, x.isFinite = false) :
    ∃ p, (fs.members row).foldlM fs.readMember (Slots.empty αs) = .error p := by
  induction h with
  | nil => simp at hrow
  | @cons _ _ f _ _ _ hf _ hname ih =>
    obtain ⟨a, row⟩ := row
    obtain ⟨x, hx, hfinite⟩ := hrow
    rw [foldlM_members_cons hname]
    cases ha : f.codec.decode (f.codec.encode a) with
    | error p => exact ⟨p, rfl⟩
    | ok b =>
      rcases List.mem_append.1 hx with hx | hx
      · obtain ⟨p, hp⟩ := hf.exists_problem a ⟨x, hx, hfinite⟩
        rw [ha] at hp
        cases hp
      · obtain ⟨p, hp⟩ := ih row ⟨x, hx, hfinite⟩
        rw [hp]
        exact ⟨p, rfl⟩

end Fields

namespace Record

variable {ρ : Type} {r : Record ρ} {numbers : ρ → List Float32}
  {rowNumbers : Row r.types → List Float32}

theorem encode_ne_null (r : Record ρ) (a : ρ) : r.codec.encode a ≠ .null := by
  rintro ⟨⟩

/-- A record is faithful if its fields are, and if its row holds all there is in it. -/
theorem faithful (hfields : r.fields.Faithful rowNumbers) (hrow : ∀ a, r.ofRow (r.toRow a) = a)
    (hnumbers : ∀ a, rowNumbers (r.toRow a) = numbers a) : r.codec.Faithful numbers where
  whole a := by
    refine .object (fun m hm => ?_) (hfields.whole _)
    obtain ⟨name, -, h⟩ := Fields.exists_name_of_mem_members hm
    exact ⟨name, h⟩
  decode_encode a h := by
    have hread := hfields.foldlM_members (r.toRow a) (by rwa [hnumbers])
    simp only [codec, rowOfMembers, hread, Json.Ending.objectProblem?, Fields.close_fill]
    exact congrArg Except.ok (hrow a)
  exists_problem a h := by
    obtain ⟨p, hp⟩ := hfields.exists_foldlM_error (r.toRow a) (by rwa [hnumbers])
    exact ⟨p, by simp only [codec, rowOfMembers, hp]; rfl⟩

end Record

end FlowchartLayout
