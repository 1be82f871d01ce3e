import FlowchartLayout.Proofs.Document.Members
import FlowchartLayout.Proofs.Document.RoundTrip

/-!
# Documents that are written in other ways

A record is read from its members in any order, and members with other names are passed over,
whatever their values. So a document reads as the same flowchart as any other that differs in
blanks, in the order of members or in such further members, in any records of it.

## Main definitions

- `Json.VariedRecord`, `Json.VariedList` — how records and lists of records may vary
- `Codec.Respects` — a value that varies is read as the same
- `Flowchart.Varied` — how the value of a document may vary

## Main statements

- `Record.respects` — a record reads as the same however it varies
- `Flowchart.ofDocument_of_varied` — so does a document, and what becomes of it without a member
-/

namespace FlowchartLayout

open Codec

/-! ## How values vary -/

namespace Json

/-- A list of which each item varies. -/
inductive VariedList (v : Json → Json → Prop) : Json → Json → Prop where
  | same (j : Json) : VariedList v j j
  | array {items items' : List Json} (h : List.Forall₂ v items items') :
      VariedList v (.array items .closed) (.array items' .closed)

section Records

variable (names : List String) (inner : String → Json → Json → Prop)

/-- A member that stays the same, or whose value varies as values of its name do. -/
inductive VariedMember : Literal × Json → Literal × Json → Prop where
  | same (m : Literal × Json) : VariedMember m m
  | field {name : String} {j j' : Json} (hname : name ∈ names) (h : inner name j j') :
      VariedMember (.ok name, j) (.ok name, j')

/-- Items that vary as the values of the names do, in order. -/
inductive VariedItems : List String → List Json → List Json → Prop where
  | nil (names : List String) : VariedItems names [] []
  | cons {name : String} {names : List String} {j j' : Json} {items items' : List Json}
      (h : inner name j j') (hrest : VariedItems names items items') :
      VariedItems (name :: names) (j :: items) (j' :: items')

/-- A record with fields of the given names. Its members may come in another order, with members of
other names among them, and the values of its fields may vary. -/
inductive VariedRecord : Json → Json → Prop where
  | same (j : Json) : VariedRecord j j
  | object {members varied inserted members' : List (Literal × Json)}
      (hvaried : List.Forall₂ (VariedMember names inner) members varied)
      (hinserted : ∀ m ∈ inserted, ∃ name, m.1 = .ok name ∧ name ∉ names ∧ IsJson m.2)
      (hperm : members'.Perm (varied ++ inserted)) :
      VariedRecord (.object members .closed) (.object members' .closed)
  | array {items items' : List Json} (h : VariedItems inner names items items') :
      VariedRecord (.array items .closed) (.array items' .closed)

end Records

end Json

/-! ## Codecs that respect a variation -/

/-- A value that can be read is read as the same when it varies. -/
def Codec.Respects {α : Type} (c : Codec α) (v : Json → Json → Prop) : Prop :=
  ∀ (j j' : Json) (a : α), v j j' → c.decode j = .ok a → c.decode j' = .ok a

namespace Codec

variable {α : Type} {c : Codec α}

theorem respects_eq (c : Codec α) : c.Respects Eq := by
  rintro j j' a rfl h
  exact h

theorem decode_list_closed_iff {items : List Json} {as : List α} :
    c.list.decode (.array items .closed) = .ok as ↔ items.mapM c.decode = .ok as := by
  simp only [Codec.list, Json.Ending.arrayProblem?]
  cases items.mapM c.decode <;> rfl

theorem Respects.mapM {v : Json → Json → Prop} (hc : c.Respects v) {items items' : List Json}
    (h : List.Forall₂ v items items') {as : List α} (hitems : items.mapM c.decode = .ok as) :
    items'.mapM c.decode = .ok as := by
  induction h generalizing as with
  | nil => exact hitems
  | cons hj _ ih =>
    rw [List.mapM_cons, bind_eq_ok_iff] at hitems ⊢
    obtain ⟨a, ha, hrest⟩ := hitems
    obtain ⟨as', has, heq⟩ := bind_eq_ok_iff.1 hrest
    exact ⟨a, hc _ _ a hj ha, bind_eq_ok_iff.2 ⟨as', ih has, heq⟩⟩

theorem Respects.list {v : Json → Json → Prop} (hc : c.Respects v) :
    c.list.Respects (Json.VariedList v) := by
  rintro j j' as (_ | h) hdecode
  · exact hdecode
  · rw [decode_list_closed_iff] at hdecode ⊢
    exact hc.mapM h hdecode

/-- A record does not turn into `null`. -/
theorem Respects.option {names : List String} {inner : String → Json → Json → Prop}
    (hc : c.Respects (Json.VariedRecord names inner)) :
    c.option.Respects (Json.VariedRecord names inner) := by
  intro j j' o h hdecode
  -- an option looks for `null` first, and objects and arrays are left to the record
  have hsome {a : α} (hj : c.decode j = .ok a) : c.decode j' = .ok a := hc j j' a h hj
  cases h with
  | same => exact hdecode
  | object | array =>
    obtain ⟨a, ha, rfl⟩ := Json.map_eq_ok_iff.1 hdecode
    exact Json.map_eq_ok_iff.2 ⟨a, hsome ha, rfl⟩

end Codec

/-! ## Records -/

namespace Fields

variable {αs : List Type} {fs : Fields αs}

/-- The codec of each field respects how its value may vary. -/
def Respect (inner : String → Json → Json → Prop) : {αs : List Type} → Fields αs → Prop
  | _, nil => True
  | _, cons f fs => f.codec.Respects (inner f.name) ∧ fs.Respect inner

theorem respect_eq (fs : Fields αs) : fs.Respect fun _ => Eq := by
  induction fs with
  | nil => trivial
  | cons f fs ih => exact ⟨respects_eq f.codec, ih⟩

section Varied

variable {inner : String → Json → Json → Prop} (hfs : fs.Respect inner)

include hfs

theorem Takes.varied {name : String} (hname : name ∈ fs.names) {j j' : Json}
    (hj : inner name j j') {slots slots' : Slots αs} (h : fs.Takes slots name j slots') :
    fs.Takes slots name j' slots' := by
  induction fs with
  | nil => exact absurd hname List.not_mem_nil
  | cons f fs ih =>
    obtain ⟨slot, slots⟩ := slots
    obtain ⟨slot', slots'⟩ := slots'
    obtain ⟨hf, hfs⟩ := hfs
    by_cases heq : f.name = name
    · obtain ⟨hslot, hslots, a, ha, hslot'⟩ := (takes_cons_of_eq heq).1 h
      refine (takes_cons_of_eq heq).2 ⟨hslot, hslots, a, ?_, hslot'⟩
      exact hf j j' a (heq ▸ hj) ha
    · obtain ⟨hslot, hothers⟩ := (takes_cons_of_ne heq).1 h
      rw [names, List.mem_cons, or_iff_right (Ne.symm heq)] at hname
      exact (takes_cons_of_ne heq).2 ⟨hslot, ih hfs hname hothers⟩

theorem readMember_varied {m m' : Json.Literal × Json}
    (hm : Json.VariedMember fs.names inner m m') {slots slots' : Slots αs}
    (h : fs.readMember slots m = .ok slots') : fs.readMember slots m' = .ok slots' := by
  cases hm with
  | same => exact h
  | field hname hj =>
    rw [readMember_eq_ok_iff] at h ⊢
    exact h.varied hfs hname hj

/-- The fields are read from a varied object as they are from the object. -/
theorem foldlM_readMember_varied {members varied inserted members' : List (Json.Literal × Json)}
    (hvaried : List.Forall₂ (Json.VariedMember fs.names inner) members varied)
    (hinserted : ∀ m ∈ inserted, ∃ name, m.1 = .ok name ∧ name ∉ fs.names ∧ Json.IsJson m.2)
    (hperm : members'.Perm (varied ++ inserted)) {slots slots' : Slots αs}
    (h : members.foldlM fs.readMember slots = .ok slots') :
    members'.foldlM fs.readMember slots = .ok slots' := by
  have hstep (m m' : Json.Literal × Json) (hm : Json.VariedMember fs.names inner m m')
      (slots slots' : Slots αs) : fs.readMember slots m = .ok slots' →
        fs.readMember slots m' = .ok slots' := readMember_varied hfs hm
  have hpassed (m : Json.Literal × Json) (hm : m ∈ inserted) :
      fs.readMember slots' m = .ok slots' := by
    obtain ⟨key, j⟩ := m
    obtain ⟨name, rfl, hname, hj⟩ := hinserted _ hm
    exact readMember_eq_ok_iff.2 (takes_of_not_mem hname hj.skipProblem?_eq_none slots')
  refine foldlM_eq_ok_of_perm readMember_swap hperm.symm ?_
  rw [foldlM_append_eq_ok_iff]
  exact ⟨slots', foldlM_eq_ok_of_forall₂ hstep hvaried h, foldlM_eq_ok_self hpassed⟩

theorem ofItems_varied {tooShort : Nat → Problem} {i : Nat} {items items' : List Json}
    (hitems : Json.VariedItems inner fs.names items items') {row : Row αs}
    (h : fs.ofItems tooShort i items .closed = .ok row) :
    fs.ofItems tooShort i items' .closed = .ok row := by
  induction fs generalizing i items items' with
  | nil =>
    cases hitems
    exact h
  | cons f fs ih =>
    cases hitems with
    | nil => exact h
    | @cons _ _ j j' items items' hj hrest =>
      obtain ⟨hf, hfs⟩ := hfs
      rw [ofItems] at h ⊢
      split at h
      · cases h
      · next a ha =>
        obtain ⟨row, hrow, rfl⟩ := Json.map_eq_ok_iff.1 h
        rw [hf j j' a hj ha]
        exact Json.map_eq_ok_iff.2 ⟨row, ih hfs hrest hrow, rfl⟩

end Varied

end Fields

namespace Record

variable {ρ : Type} {r : Record ρ}

/-- A record reads as the same however it varies. -/
theorem respects {inner : String → Json → Json → Prop} (h : r.fields.Respect inner) :
    r.codec.Respects (Json.VariedRecord r.fields.names inner) := by
  rintro j j' a (_ | ⟨hvaried, hinserted, hperm⟩ | hitems) hdecode
  · exact hdecode
  · rw [decode_object_iff] at hdecode ⊢
    obtain ⟨slots, row, hread, hclose⟩ := hdecode
    exact ⟨slots, row, Fields.foldlM_readMember_varied h hvaried hinserted hperm hread, hclose⟩
  · obtain ⟨row, hrow, rfl⟩ := Json.map_eq_ok_iff.1 hdecode
    exact Json.map_eq_ok_iff.2 ⟨row, Fields.ofItems_varied h hitems hrow, rfl⟩

/-- How a record may vary, given how the values of its fields may. -/
def Varied (r : Record ρ) (inner : String → Json → Json → Prop) : Json → Json → Prop :=
  Json.VariedRecord r.fields.names inner

/-- A record whose fields hold no other records reads as the same however it varies. -/
theorem respects_plain (r : Record ρ) : r.codec.Respects (r.Varied fun _ => Eq) :=
  respects r.fields.respect_eq

end Record

/-! ## Documents -/

/-- How a point may vary. -/
def Point.Varied : Json → Json → Prop :=
  Point.record.Varied fun _ => Eq

def Node.Varied : Json → Json → Prop :=
  Node.record.Varied fun _ => Eq

/-- How the values of the fields of an edge may vary. -/
def Edge.inner : String → Json → Json → Prop
  | "path" => Json.VariedList Point.Varied
  | "label_position" => Point.Varied
  | _ => Eq

def Edge.Varied : Json → Json → Prop :=
  Edge.record.Varied Edge.inner

def Subgraph.Varied : Json → Json → Prop :=
  Subgraph.record.Varied fun _ => Eq

def Spacing.Varied : Json → Json → Prop :=
  Spacing.record.Varied fun _ => Eq

def Metrics.Varied : Json → Json → Prop :=
  Metrics.record.Varied fun _ => Eq

/-- How the values of the fields of a flowchart may vary. -/
def Flowchart.inner : String → Json → Json → Prop
  | "config" => Spacing.Varied
  | "nodes" => Json.VariedList Node.Varied
  | "edges" => Json.VariedList Edge.Varied
  | "subgraphs" => Json.VariedList Subgraph.Varied
  | "metrics" => Metrics.Varied
  | _ => Eq

def Flowchart.Varied : Json → Json → Prop :=
  Flowchart.record.Varied Flowchart.inner

theorem Edge.respects : Edge.record.codec.Respects Edge.Varied :=
  Record.respects ⟨respects_eq _, respects_eq _, respects_eq _, respects_eq _, respects_eq _,
    respects_eq _, Point.record.respects_plain.list, Point.record.respects_plain.option, trivial⟩

namespace Flowchart

/-- A flowchart is read as the same from every variation of its value. -/
theorem respects : record.codec.Respects Varied :=
  Record.respects ⟨respects_eq _, Spacing.record.respects_plain, Node.record.respects_plain.list,
    Edge.respects.list, Subgraph.record.respects_plain.list, Metrics.record.respects_plain, trivial⟩

/-- The flowcharts of texts are the flowcharts of the values that they stand for. -/
theorem ofDocument_eq_ok_iff {text : String} {fc : Flowchart} :
    ofDocument text = .ok fc ↔
      ∃ j, Json.Spells j text.toList ∧ record.codec.decode j = .ok fc := by
  constructor
  · intro h
    rw [ofDocument] at h
    rcases hread : Json.ofText text.toList with ⟨j, followed⟩
    rw [hread] at h
    cases hdecode : record.codec.decode j with
    | error p => simp [hdecode] at h
    | ok fc' =>
      cases followed with
      | true => simp [hdecode] at h
      | false =>
        simp only [hdecode, Bool.false_eq_true, if_false] at h
        cases h
        exact ⟨j, Json.spells_of_ofText hread (Record.skipProblem?_of_decode hdecode), hdecode⟩
  · rintro ⟨j, hj, hdecode⟩
    rw [ofDocument, hj.ofText_eq]
    simp only [hdecode, Bool.false_eq_true, if_false]

theorem decode_of_spells {text : String} {fc : Flowchart} (h : ofDocument text = .ok fc) {j : Json}
    (hj : Json.Spells j text.toList) : record.codec.decode j = .ok fc := by
  obtain ⟨j', hj', hdecode⟩ := ofDocument_eq_ok_iff.1 h
  have heq := hj.ofText_eq.symm.trans hj'.ofText_eq
  cases heq
  exact hdecode

theorem reset?_config (row : Row record.types) : ∃ row',
    record.fields.reset? "config" row = some row' ∧
      record.ofRow row' = { record.ofRow row with spacing := {} } := by
  obtain ⟨direction, spacing, nodes, edges, subgraphs, metrics, ⟨⟩⟩ := row
  exact ⟨_, rfl, rfl⟩

theorem reset?_metrics (row : Row record.types) : ∃ row',
    record.fields.reset? "metrics" row = some row' ∧
      record.ofRow row' = { record.ofRow row with metrics := {} } := by
  obtain ⟨direction, spacing, nodes, edges, subgraphs, metrics, ⟨⟩⟩ := row
  exact ⟨_, rfl, rfl⟩

/-- A text of which a flowchart is read stands for one value. Any text that stands for a variation
of that value reads as the same flowchart: with other blanks, with the members of records in another
order, and with further members in records, whose names are not those of fields and whose values are
any. And without the member for the configuration or for the metrics, the flowchart is the same but
for the default configuration, or for the metrics of a flowchart without a layout. -/
theorem ofDocument_of_varied {text : String} {fc : Flowchart} (h : ofDocument text = .ok fc) :
    (∃ j, Json.Spells j text.toList) ∧
      ∀ (j : Json) (text' : String), Json.Spells j text.toList →
        (∀ j', Varied j j' → Json.Spells j' text'.toList → ofDocument text' = .ok fc) ∧
        ∀ (before : List (Json.Literal × Json)) (value : Json)
          (after : List (Json.Literal × Json)),
          Json.Spells (.object (before ++ after) .closed) text'.toList →
            (j = .object (before ++ (.ok "config", value) :: after) .closed →
              ofDocument text' = .ok { fc with spacing := {} }) ∧
            (j = .object (before ++ (.ok "metrics", value) :: after) .closed →
              ofDocument text' = .ok { fc with metrics := { computed := false } }) := by
  obtain ⟨j₀, hj₀, -⟩ := ofDocument_eq_ok_iff.1 h
  refine ⟨⟨j₀, hj₀⟩, fun j text' hj => ⟨fun j' hvaried hj' => ?_, ?_⟩⟩
  · exact ofDocument_eq_ok_iff.2 ⟨j', hj', respects j j' fc hvaried (decode_of_spells h hj)⟩
  · intro before value after htext'
    have hdecode := decode_of_spells h hj
    refine ⟨fun heq => ?_, fun heq => ?_⟩
    · subst heq
      exact ofDocument_eq_ok_iff.2
        ⟨_, htext', Record.decode_without (fun fc => { fc with spacing := {} }) reset?_config hdecode⟩
    · subst heq
      exact ofDocument_eq_ok_iff.2
        ⟨_, htext', Record.decode_without (fun fc => { fc with metrics := {} }) reset?_metrics hdecode⟩

/-! ### Members in the other order -/

def edgeMembers : List (Json.Literal × Json) :=
  [(.ok "from", .string (.ok "A")), (.ok "to", .string (.ok "B")), (.ok "label", .null),
    (.ok "edge_type", .string (.ok "arrow")), (.ok "start_marker", .string (.ok "none")),
    (.ok "end_marker", .string (.ok "arrow")), (.ok "path", .array [] .closed)]

/-- The members of a flowchart with one edge, but for its configuration. -/
def pairMembers (edge : List (Json.Literal × Json)) : List (Json.Literal × Json) :=
  [(.ok "direction", .string (.ok "LR")), (.ok "nodes", .array [] .closed),
    (.ok "edges", .array [.object edge .closed] .closed), (.ok "subgraphs", .array [] .closed)]

def digit (c : Char) : Json :=
  .number ⟨false, [c], [], none⟩

def configMember : Json.Literal × Json :=
  (.ok "config", .object [(.ok "node_spacing", digit '3'), (.ok "rank_spacing", digit '4'),
    (.ok "subgraph_padding", digit '5'), (.ok "font_size", digit '6')] .closed)

/-- A member whose name belongs to no field, though names within its value do. -/
def strangeMember : Json.Literal × Json :=
  (.ok "nodes ", .array [.array [.object [(.ok "nodes", .null)] .closed] .closed, .null] .closed)

/-- The members in the other order, after a strange one. -/
def shuffled (members : List (Json.Literal × Json)) : List (Json.Literal × Json) :=
  strangeMember :: members.reverse

def configuredPair : Flowchart :=
  { direction := .leftToRight
    spacing := ⟨3, 4, 5, 6⟩
    edges := [{ source := "A", target := "B", kind := .arrow }] }

theorem decode_configuredPair : record.codec.decode
    (.object (pairMembers edgeMembers ++ [configMember]) .closed) = .ok configuredPair := by
  rfl

/-- The members of a whole object. -/
def WholeMembers (members : List (Json.Literal × Json)) : Prop :=
  ∀ m ∈ members, (∃ key, m.1 = .ok key) ∧ m.2.Whole

theorem WholeMembers.whole {members : List (Json.Literal × Json)} (h : WholeMembers members) :
    (Json.object members .closed).Whole :=
  .object (fun m hm => (h m hm).1) fun m hm => (h m hm).2

theorem wholeMembers_edgeMembers : WholeMembers edgeMembers := by
  simp [WholeMembers, edgeMembers, Json.Whole.string, Json.Whole.null, Json.Whole.array]

theorem WholeMembers.pairMembers {edge : List (Json.Literal × Json)} (h : WholeMembers edge) :
    WholeMembers (pairMembers edge) := by
  simp [WholeMembers, Flowchart.pairMembers, Json.Whole.string, Json.Whole.array, h.whole]

theorem whole_digit {c : Char} (h : c.isDigit = true) (hzero : c ≠ '0') : (digit c).Whole :=
  .number ⟨by simpa using h, by simp, by simp [hzero], by simp, nofun⟩

theorem wholeMembers_configMember : WholeMembers [configMember] := by
  simp [WholeMembers, configMember, Json.Whole.object, whole_digit]

theorem whole_strangeMember : strangeMember.2.Whole := by
  have hobject : (Json.object [(.ok "nodes", .null)] .closed).Whole := by
    simp [Json.Whole.object, Json.Whole.null]
  simp [strangeMember, Json.Whole.array, hobject, Json.Whole.null]

theorem WholeMembers.shuffled {members : List (Json.Literal × Json)} (h : WholeMembers members) :
    WholeMembers (shuffled members) :=
  List.forall_mem_cons.2
    ⟨⟨⟨_, rfl⟩, whole_strangeMember⟩, fun m hm => h m (List.mem_reverse.1 hm)⟩

/-- Shuffled members are a variation, if the name of the strange one belongs to no field. -/
theorem variedRecord_shuffled {names : List String} {inner : String → Json → Json → Prop}
    (hnames : "nodes " ∉ names) {members varied : List (Json.Literal × Json)}
    (h : List.Forall₂ (Json.VariedMember names inner) members varied) :
    Json.VariedRecord names inner (.object members .closed) (.object (shuffled varied) .closed) := by
  refine .object h (List.forall_mem_singleton.2 ⟨_, rfl, hnames, whole_strangeMember.isJson⟩) ?_
  exact ((List.reverse_perm varied).cons strangeMember).trans
    (List.perm_append_singleton strangeMember varied).symm

theorem varied_shuffled : Varied (.object (pairMembers edgeMembers ++ [configMember]) .closed)
    (.object (shuffled (pairMembers (shuffled edgeMembers) ++ [configMember])) .closed) := by
  have hedge : Edge.Varied (.object edgeMembers .closed) (.object (shuffled edgeMembers) .closed) :=
    variedRecord_shuffled (by decide) (List.forall₂_same.2 fun m _ => .same m)
  refine variedRecord_shuffled (by decide) ?_
  exact .cons (.same _) (.cons (.same _) (.cons (.field (by decide)
    (.array (.cons hedge .nil))) (.cons (.same _) (.cons (.same _) .nil))))

/-- The document of the pair. -/
def configuredText : String :=
  (Json.object (pairMembers edgeMembers ++ [configMember]) .closed).write .compact

/-- The document with all members in the other order and strange ones among them, indented. -/
def shuffledText : String :=
  (Json.object (shuffled (pairMembers (shuffled edgeMembers) ++ [configMember])) .closed).write
    .indented

/-- The document without the configuration. -/
def unconfiguredText : String :=
  (Json.object (pairMembers edgeMembers) .closed).write .compact

theorem ofDocument_shuffledText : ofDocument shuffledText = .ok configuredPair ∧
    ofDocument unconfiguredText = .ok { configuredPair with spacing := {} } := by
  have hedge := wholeMembers_edgeMembers
  have hplain : Json.Spells (.object (pairMembers edgeMembers ++ [configMember]) .closed)
      configuredText.toList := Json.spells_write Json.isBlank_compact
    (WholeMembers.whole (List.forall_mem_append.2 ⟨hedge.pairMembers, wholeMembers_configMember⟩))
  have hshuffled : Json.Spells
      (.object (shuffled (pairMembers (shuffled edgeMembers) ++ [configMember])) .closed)
      shuffledText.toList := Json.spells_write Json.isBlank_indented
    (WholeMembers.shuffled (List.forall_mem_append.2
      ⟨hedge.shuffled.pairMembers, wholeMembers_configMember⟩)).whole
  have hunconfigured : Json.Spells (.object (pairMembers edgeMembers ++ []) .closed)
      unconfiguredText.toList := Json.spells_write Json.isBlank_compact hedge.pairMembers.whole
  have hread := ofDocument_of_varied (ofDocument_eq_ok_iff.2 ⟨_, hplain, decode_configuredPair⟩)
  exact ⟨(hread.2 _ _ hplain).1 _ varied_shuffled hshuffled,
    ((hread.2 _ _ hplain).2 _ _ _ hunconfigured).1 rfl⟩

end Flowchart

end FlowchartLayout
