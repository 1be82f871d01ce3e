import FlowchartLayout.Number.Binary32
import FlowchartLayout.Number.Shortest

/-!
# Numerals

The written form of numbers in documents: an optional minus sign, digits, and optionally a fraction
and a power of ten.

## Main definitions

- `Numeral` — the parts of a written number, and `Numeral.text`
- `Numeral.ofSingle?`, `Numeral.ofDouble?` — the shortest numeral of a finite binary number
- `Quantity`, `Numeral.quantity?` — the number that a numeral stands for, as readers take it
- `Numeral.toSingle?` — that number in single precision

## Design notes

Reading keeps as many digits as fit into 64 bits and drops the rest. Integers that fit are exact;
everything else is scaled in double precision, one multiplication or division by a power of ten at
a time, and is out of range if that overflows.
-/

namespace FlowchartLayout

/-- A power of ten: the sign as written, and the digits. -/
structure PowerOfTen where
  sign : Option Char
  digits : List Char
  deriving DecidableEq

/-- A written number. The fraction is empty if there is no point. -/
structure Numeral where
  negative : Bool
  whole : List Char
  fraction : List Char
  power : Option PowerOfTen
  deriving DecidableEq

namespace PowerOfTen

def text (p : PowerOfTen) : List Char :=
  'e' :: p.sign.toList ++ p.digits

def value (p : PowerOfTen) : Int :=
  let n : Int := p.digits.foldl (fun n d => 10 * n + (d.toNat - '0'.toNat : Nat)) 0
  if p.sign = some '-' then -n else n

end PowerOfTen

namespace Numeral

/-- The characters of the numeral. -/
def text (n : Numeral) : List Char :=
  (if n.negative then ['-'] else []) ++ n.whole ++
    (if n.fraction.isEmpty then [] else '.' :: n.fraction) ++
    (n.power.map PowerOfTen.text).getD []

/-! ## Writing -/

/-- The numbers that are written without a power of ten: those `0.d₁d₂… * 10 ^ p` with
`above < p ≤ upTo`. -/
structure PlainRange where
  above : Int
  upTo : Int

/-- Single precision numbers are plain from 0.000001 up to 10 ^ 13. -/
def singleRange : PlainRange := ⟨-6, 13⟩

/-- Double precision numbers are plain from 0.00001 up to 10 ^ 16. -/
def doubleRange : PlainRange := ⟨-5, 16⟩

/-- The numeral of a decimal. A plain numeral always has a fraction; otherwise one digit stands
before the point and the power of ten has a sign. -/
def ofDecimal (range : PlainRange) (negative : Bool) (d : Decimal) : Numeral :=
  let digits := Decimal.digitsOf d.digits
  let point : Int := digits.length + d.exponent
  if range.above < point && point ≤ range.upTo then
    if 0 ≤ d.exponent then
      ⟨negative, digits ++ List.replicate d.exponent.toNat '0', ['0'], none⟩
    else if 0 < point then
      ⟨negative, digits.take point.toNat, digits.drop point.toNat, none⟩
    else
      ⟨negative, ['0'], List.replicate (-point).toNat '0' ++ digits, none⟩
  else
    let power := point - 1
    ⟨negative, digits.take 1, digits.drop 1,
      some ⟨some (if 0 ≤ power then '+' else '-'), Decimal.digitsOf power.natAbs⟩⟩

/-- The numeral of an unpacked binary number of the given format; none for infinities and NaN. -/
def ofUnpacked? (format : Float.Model.Format) (range : PlainRange) :
    Float.Model.UnpackedFloat → Option Numeral
  | .finite sign m q _ =>
    let narrowBelow := m == Nat.pow 2 format.mantissaBitsWithoutImplicit && q != format.minExponent
    some (ofDecimal range (sign == .negative) (Decimal.shortest m q narrowBelow))
  | .zero sign => some ⟨sign == .negative, ['0'], ['0'], none⟩
  | _ => none

/-- The shortest numeral that reads back as `x`, if `x` is finite. -/
def ofSingle? (x : Float32) : Option Numeral :=
  ofUnpacked? .binary32 singleRange x.toModel.unpack

/-- The shortest numeral that reads back as `x`, if `x` is finite. -/
def ofDouble? (x : Float) : Option Numeral :=
  ofUnpacked? .binary64 doubleRange x.toModel.unpack

/-! ## Reading -/

/-- The number made of `acc` and of as many further digits as fit into 64 bits, and how many those
are. -/
def gather (acc : Nat) : List Char → Nat × Nat
  | [] => (acc, 0)
  | d :: ds =>
    let next := 10 * acc + (d.toNat - '0'.toNat)
    if next < Nat.pow 2 64 then
      let (n, taken) := gather next ds
      (n, taken + 1)
    else (acc, 0)

/-- `x * 10 ^ e`, in steps of at most 308 decimal places; none if it overflows. -/
def scale (x : Float) (e : Int) : Option Float :=
  if e.natAbs ≤ 308 then
    if 0 ≤ e then
      let y := x * doubleOfDecimal 1 e
      if y.isInf then none else some y
    else some (x / doubleOfDecimal 1 (-e))
  else if x == 0 then some x
  else if 0 ≤ e then none
  else scale (x / doubleOfDecimal 1 308) (e + 308)
termination_by e.natAbs
decreasing_by omega

/-- A number as readers of documents take it: an integer of 64 bits, or a double. -/
inductive Quantity where
  | natural (n : Nat)
  | negative (n : Nat)
  | real (x : Float)

/-- The number that the numeral stands for; none if it is out of range. -/
def quantity? (n : Numeral) : Option Quantity :=
  let (whole, taken) := gather 0 n.whole
  let dropped := n.whole.length - taken
  let signed (x : Float) : Float := if n.negative then -x else x
  if dropped = 0 && n.fraction.isEmpty && n.power.isNone then
    if !n.negative then some (.natural whole)
    else if 0 < whole && whole ≤ Nat.pow 2 63 then some (.negative whole)
    else some (.real (-whole.toFloat))
  else
    let (digits, places) := gather whole n.fraction
    let start : Int := (dropped : Int) - places
    match n.power with
    | none => (scale digits.toFloat start).map fun x => .real (signed x)
    | some p =>
      if p.value.natAbs < Nat.pow 2 31 then
        (scale digits.toFloat (start + p.value)).map fun x => .real (signed x)
      else if digits ≠ 0 && 0 ≤ p.value then none
      else some (.real (signed 0))

/-- The quantity in single precision. Integers are rounded once; a number beyond all single
precision numbers becomes an infinity. -/
def Quantity.toSingle : Quantity → Float32
  | .natural n => n.toFloat32
  | .negative n => -n.toFloat32
  | .real x => narrow x

/-- The numeral's number in single precision; none if it is out of range. -/
def toSingle? (n : Numeral) : Option Float32 :=
  n.quantity?.map Quantity.toSingle

end Numeral

end FlowchartLayout
