import FlowchartLayout.Number.Binary32

/-!
# Reading numbers typed by hand

Numbers in style lines and on the command line: an optional sign and then digits with an optional
point and power of ten, or the words `inf`, `infinity` and `nan` in any case. The result is rounded
once.

## Main definitions

- `readDigits?` — an unsigned decimal number
- `readSingle?` — a number with everything that the command line admits
-/

namespace FlowchartLayout

/-- The natural number that a run of digits stands for. -/
def natOfDigits (digits : List Char) : Nat :=
  digits.foldl (fun n d => 10 * n + (d.toNat - '0'.toNat)) 0

/-- A power of ten with its sign, after the letter `e`. -/
def readPower? (s : List Char) : Option Int :=
  let (negative, digits) :=
    match s with
    | '-' :: s => (true, s)
    | '+' :: s => (false, s)
    | s => (false, s)
  if digits.isEmpty || !digits.all Char.isDigit then none
  else
    let n : Int := natOfDigits digits
    some (if negative then -n else n)

/-- Digits with an optional point, at least one digit in all, and an optional power of ten. -/
def readDigits? (s : List Char) : Option Float32 :=
  let (whole, rest) := s.span Char.isDigit
  let (fraction, rest) :=
    match rest with
    | '.' :: rest => rest.span Char.isDigit
    | rest => ([], rest)
  if whole.isEmpty && fraction.isEmpty then none
  else
    let power? :=
      match rest with
      | [] => some 0
      | c :: rest => if c == 'e' || c == 'E' then readPower? rest else none
    power?.map fun power => ofDecimal (natOfDigits (whole ++ fraction)) (power - fraction.length)

/-- The number that is written, if it is one. -/
def readSingle? (s : List Char) : Option Float32 :=
  let (negative, s) :=
    match s with
    | '-' :: s => (true, s)
    | '+' :: s => (false, s)
    | s => (false, s)
  let word := String.ofList (s.map Char.toLower)
  let size? :=
    if word = "inf" || word = "infinity" then some (1 / 0)
    else if word = "nan" then some (0 / 0)
    else readDigits? s
  size?.map fun x => if negative then -x else x

end FlowchartLayout
