/-!
# Colours

A colour is a word of 32 bits: red, green, blue and opacity, eight bits each.

## Main definitions

- `Color` — a colour, with the ones that records start with
- `Color.ofHex?` — the colour written as `#rgb`, `#rrggbb` or `#rrggbbaa`
- `Color.hex` — the full written form
-/

namespace FlowchartLayout

structure Color where
  rgba : UInt32
  deriving DecidableEq

namespace Color

def white : Color := ⟨0xFFFFFFFF⟩

def black : Color := ⟨0x000000FF⟩

def lightGray : Color := ⟨0xF0F0F0FF⟩

/-- Stands in for a colour that cannot be read. -/
def gray : Color := ⟨0xE0E0E0FF⟩

def isHexDigit (c : Char) : Bool :=
  c.isDigit || ('a' ≤ c && c ≤ 'f') || ('A' ≤ c && c ≤ 'F')

def hexDigitValue (c : Char) : Nat :=
  if c.isDigit then c.toNat - '0'.toNat else c.toLower.toNat - 'a'.toNat + 10

/-- The number that a run of hexadecimal digits stands for. -/
def hexValue (digits : List Char) : Nat :=
  digits.foldl (fun n d => 16 * n + hexDigitValue d) 0

/-- The colour of four components. -/
def ofComponents (red green blue opacity : Nat) : Color :=
  ⟨UInt32.ofNat (((256 * red + green) * 256 + blue) * 256 + opacity)⟩

/-- Reads `#rgb`, `#rrggbb` or `#rrggbbaa`. A single digit stands for two of it, and colours
without an opacity are opaque. -/
def ofHex? : List Char → Option Color
  | '#' :: digits =>
    if digits.all isHexDigit then
      match digits, digits.length with
      | [r, g, b], _ =>
        some (ofComponents (17 * hexDigitValue r) (17 * hexDigitValue g) (17 * hexDigitValue b) 255)
      | _, 6 => some ⟨UInt32.ofNat (256 * hexValue digits + 255)⟩
      | _, 8 => some ⟨UInt32.ofNat (hexValue digits)⟩
      | _, _ => none
    else none
  | _ => none

/-- The written form with eight small digits. -/
def hex (c : Color) : List Char :=
  let digits := Nat.toDigits 16 c.rgba.toNat
  '#' :: List.replicate (8 - digits.length) '0' ++ digits

end Color

end FlowchartLayout
