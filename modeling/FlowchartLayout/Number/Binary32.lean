/-!
# Single precision numbers

All geometry is computed in binary32, each step rounded to the nearest number, a tie to the even
one. The operations here complete those of `Float32`.

## Main definitions

- `larger`, `smaller` — the larger or smaller of two numbers, where NaN gives way
- `narrow` — a double precision number rounded to single precision
- `ofDecimal`, `doubleOfDecimal` — a decimal number rounded to either precision
-/

namespace FlowchartLayout

/-- The larger of two numbers. If one is not a number, the other one. -/
def larger (x y : Float32) : Float32 :=
  if x.isNaN then y else if x < y then y else x

/-- The smaller of two numbers. If one is not a number, the other one. -/
def smaller (x y : Float32) : Float32 :=
  if x.isNaN then y else if y < x then y else x

/-- The nearest single precision number. -/
def narrow (x : Float) : Float32 :=
  match x.toModel.unpack with
  | .finite sign m e _ => .ofModel (.pack (.round .binary32 sign m e))
  | special => .ofModel (.pack special)

/-- The number nearest to `m * 10 ^ e`. -/
def ofDecimal (m : Nat) (e : Int) : Float32 :=
  match e with
  | .ofNat e => OfScientific.ofScientific m false e
  | .negSucc e => OfScientific.ofScientific m true (e + 1)

/-- The double precision number nearest to `m * 10 ^ e`. -/
def doubleOfDecimal (m : Nat) (e : Int) : Float :=
  match e with
  | .ofNat e => OfScientific.ofScientific m false e
  | .negSucc e => OfScientific.ofScientific m true (e + 1)

end FlowchartLayout
