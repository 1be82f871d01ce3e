import FlowchartLayout.Document.Codec

/-!
# Records in documents

A record is written as an object with a member for each of its fields. It is read from an object
with its members in any order, among others that are passed over, or from an array of its fields in
order.

## Main definitions

- `Field`, `Fields` — the fields of a record: their names, codecs and defaults
- `Row`, `Slots` — the values of all fields, and of those that were read so far
- `Record`, `Record.codec` — a record type with its fields, and its codec
-/

namespace FlowchartLayout

structure Field (α : Type) where
  name : String
  codec : Codec α
  /-- The value where an object lacks the field, if it may. -/
  ifUnnamed : Option α := none
  /-- The value where an array ends before the field, if it may. -/
  ifUnlisted : Option α := none

/-- Fields of the given types. -/
inductive Fields : List Type → Type 1 where
  | nil : Fields []
  | cons {α : Type} {αs : List Type} (f : Field α) (fs : Fields αs) : Fields (α :: αs)

/-- A value of each of the given types. -/
def Row : List Type → Type
  | [] => Unit
  | α :: αs => α × Row αs

/-- Values of some of the given types. -/
def Slots : List Type → Type
  | [] => Unit
  | α :: αs => Option α × Slots αs

/-- No values yet. -/
def Slots.empty : (αs : List Type) → Slots αs
  | [] => ()
  | _ :: αs => (none, Slots.empty αs)

namespace Fields

/-- The members of the object that stands for a row. -/
def members : {αs : List Type} → Fields αs → Row αs → List (Json.Literal × Json)
  | _, nil, _ => []
  | _, cons f fs, (a, row) => (.ok f.name, f.codec.encode a) :: fs.members row

/-! ## Objects -/

/-- Reads the value of the field with the given name; none if there is no such field. -/
def put? : {αs : List Type} → Fields αs → Slots αs → String → Json →
    Option (Except Problem (Slots αs))
  | _, nil, _, _, _ => none
  | _, cons f fs, (slot, slots), name, j =>
    if f.name == name then
      some <|
        if slot.isSome then .error (.repeatedField name)
        else (f.codec.decode j).map fun a => (some a, slots)
    else (fs.put? slots name j).map fun r => r.map fun slots => (slot, slots)

/-- Reads a member of an object, which may belong to no field. -/
def readMember {αs : List Type} (fs : Fields αs) (slots : Slots αs) :
    Json.Literal × Json → Except Problem (Slots αs)
  | (.error p, _) => .error p
  | (.ok name, j) =>
    match fs.put? slots name j, j.skipProblem? with
    | some r, _ => r
    | none, some p => .error p
    | none, none => .ok slots

/-- The row of the values that an object has given. The first field without a value is missing. -/
def close : {αs : List Type} → Fields αs → Slots αs → Except Problem (Row αs)
  | _, nil, _ => .ok ()
  | _, cons f fs, (slot, slots) =>
    match slot <|> f.ifUnnamed with
    | some a => (fs.close slots).map fun row => (a, row)
    | none => .error (.missingField f.name)

/-! ## Arrays -/

/-- What is wrong at the end of an array of which all fields have been read. -/
def endProblem? : List Json → Json.Ending → Option Problem
  | [], .closed => none
  | [], .broken .endOfText _ => some .endInArray
  | [], .broken (.afterComma (some .closeBracket)) _ => some .trailingComma
  | _, _ => some .trailingCharacters

/-- Reads the fields from the items of an array. `tooShort` is the problem of an array that ends
before a field, given the number of the field. -/
def ofItems (tooShort : Nat → Problem) : {αs : List Type} → Fields αs → Nat → List Json →
    Json.Ending → Except Problem (Row αs)
  | _, nil, _, items, ending =>
    match endProblem? items ending with
    | some p => .error p
    | none => .ok ()
  | _, cons f fs, i, item :: items, ending =>
    match f.codec.decode item with
    | .error p => .error p
    | .ok a => (fs.ofItems tooShort (i + 1) items ending).map fun row => (a, row)
  | _, cons f fs, i, [], ending =>
    match ending.arrayProblem?, f.ifUnlisted with
    | some p, _ => .error p
    | none, some a => (fs.ofItems tooShort (i + 1) [] ending).map fun row => (a, row)
    | none, none => .error (tooShort i)

end Fields

/-- A record type and its fields. -/
structure Record (ρ : Type) where
  name : String
  types : List Type
  fields : Fields types
  toRow : ρ → Row types
  ofRow : Row types → ρ

namespace Json

/-- What is wrong at the end of an object for a reader of members in any order. -/
def Ending.objectProblem? : Ending → Option Problem
  | closed => none
  | broken .endOfText _ => some .endInObject
  | broken .unseparated _ => some .noCommaOrBrace
  | broken (.afterComma none) _ => some .endInValue
  | broken (.afterComma (some .closeBrace)) _ => some .trailingComma
  | broken (.afterComma (some _)) _ | broken (.noKey _) _ => some .keyNotString
  | broken .inside p => some p

end Json

namespace Record

variable {ρ : Type}

/-- What a record is called where something else was found. -/
def title (r : Record ρ) : String :=
  "struct " ++ r.name

def rowOfMembers (r : Record ρ) (members : List (Json.Literal × Json)) (ending : Json.Ending) :
    Except Problem (Row r.types) :=
  match members.foldlM r.fields.readMember (Slots.empty r.types) with
  | .error p => .error p
  | .ok slots =>
    match ending.objectProblem? with
    | some p => .error p
    | none => r.fields.close slots

def rowOfItems (r : Record ρ) (items : List Json) (ending : Json.Ending) :
    Except Problem (Row r.types) :=
  r.fields.ofItems (fun i => .tooShort i r.title r.types.length) 0 items ending

def codec (r : Record ρ) : Codec ρ where
  encode a := .object (r.fields.members (r.toRow a)) .closed
  decode
    | .object members ending => (r.rowOfMembers members ending).map r.ofRow
    | .array items ending => (r.rowOfItems items ending).map r.ofRow
    | j => .error (j.mismatch r.title)

end Record

end FlowchartLayout
