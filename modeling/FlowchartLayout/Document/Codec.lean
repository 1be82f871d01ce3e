import FlowchartLayout.Json.Value

/-!
# Codecs

How plain values are written in documents and read from them.

## Main definitions

- `Codec` — a way to write the values of a type and to read them
- `Codec.text`, `Codec.flag`, `Codec.single`, `Codec.color`, `Codec.named` — codecs of scalars
- `Codec.option`, `Codec.list` — codecs made from others
-/

namespace FlowchartLayout

/-- Writes values of a type as JSON and reads them back. -/
structure Codec (α : Type) where
  encode : α → Json
  decode : Json → Except Problem α

namespace Json

/-- What is wrong with a value of which another kind was expected. -/
def mismatch (expected : String) : Json → Problem
  | null => .mismatch .null expected
  | bool b => .mismatch (.bool b) expected
  | number n =>
    match n.quantity? with
    | some (.natural k) => .mismatch (.integer (toString k)) expected
    | some (.negative k) => .mismatch (.integer ("-" ++ toString k)) expected
    | some (.real x) =>
      .mismatch (.real (((Numeral.ofDouble? x).map (String.ofList ·.text)).getD "")) expected
    | none => .numberOutOfRange
  | string (.ok s) => .mismatch (.text s) expected
  | string (.error p) => p
  | array .. => .mismatch .array expected
  | object .. => .mismatch .object expected
  | broken b => b.asValue

/-- What is wrong at the end of an array for a reader of arbitrarily many items. -/
def Ending.arrayProblem? : Ending → Option Problem
  | closed => none
  | broken .endOfText _ => some .endInArray
  | broken .unseparated _ => some .noCommaOrBracket
  | broken (.afterComma _) _ => some .trailingComma
  | broken _ p => some p

end Json

namespace Codec

def text : Codec String where
  encode s := .string (.ok s)
  decode
    | .string l => l
    | j => .error (j.mismatch "a string")

def flag : Codec Bool where
  encode := .bool
  decode
    | .bool b => .ok b
    | j => .error (j.mismatch "a boolean")

/-- Numbers that are not finite have no numeral and are written as `null`, which does not read
back. -/
def single : Codec Float32 where
  encode x := ((Numeral.ofSingle? x).map .number).getD .null
  decode
    | .number n =>
      match n.toSingle? with
      | some x => .ok x
      | none => .error .numberOutOfRange
    | j => .error (j.mismatch "f32")

def color : Codec Color where
  encode c := .string (.ok (String.ofList c.hex))
  decode j :=
    match text.decode j with
    | .ok s =>
      match Color.ofHex? s.toList with
      | some c => .ok c
      | none => .error (.badColor s)
    | .error p => .error p

/-! ## Names -/

section Named

variable {α : Type} [Named α]

/-- The value that a string literal names. -/
def ofLiteral (l : Json.Literal) : Except Problem α :=
  match l with
  | .ok s =>
    match Named.ofName? s with
    | some a => .ok a
    | none => .error (.unknownName s (Named.names α))
  | .error p => .error p

/-- Why an object without members is no name. -/
def noNameProblem : Json.Ending → Problem
  | .broken .endOfText _ => .endInValue
  | .broken (.noKey t) _ => (Json.read [t]).1.mismatch "variant identifier"
  | _ => .noValue

/-- The value named by the one key of an object, which must belong to a `null`. -/
def ofMembers (key : Json.Literal) (value : Json) (others : List (Json.Literal × Json))
    (ending : Json.Ending) : Except Problem α :=
  match ofLiteral key with
  | .error p => .error p
  | .ok a =>
    match value, others, ending with
    | .null, [], .closed => .ok a
    | .null, [], .broken .endOfText _ => .error .endInObject
    | .null, _, _ => .error .noValue
    | j, _, _ => .error (j.mismatch "unit")

/-- Values with names are strings. An object with the name as its only key and `null` for its value
is read too. -/
def named : Codec α where
  encode a := .string (.ok (Named.name a))
  decode
    | .string l => ofLiteral l
    | .object [] ending => .error (noNameProblem ending)
    | .object ((key, value) :: others) ending => ofMembers key value others ending
    | .broken b => .error b.asName
    | _ => .error .noValue

end Named

/-! ## Codecs made from others -/

variable {α : Type}

/-- None is written as `null`. -/
def option (c : Codec α) : Codec (Option α) where
  encode
    | some a => c.encode a
    | none => .null
  decode
    | .null => .ok none
    | .broken b => if b.inNull then .error b.asValue else (c.decode (.broken b)).map some
    | j => (c.decode j).map some

def list (c : Codec α) : Codec (List α) where
  encode as := .array (as.map c.encode) .closed
  decode
    | .array items ending =>
      match items.mapM c.decode with
      | .error p => .error p
      | .ok as =>
        match ending.arrayProblem? with
        | some p => .error p
        | none => .ok as
    | j => .error (j.mismatch "a sequence")

end Codec

end FlowchartLayout
