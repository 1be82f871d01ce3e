import FlowchartLayout.Text.Markup

/-!
# Markup in encoded texts

A text is kept as the bytes of its UTF-8 encoding, and a place in it is a number of bytes. A place
may lie within a character, where the text cannot be cut. Markup is dealt with in a single pass over
the bytes, which copies what is kept in slices, as long as they can be.

## Main definitions

- `encoded` — the bytes of a text
- `isBoundary`, `slice?` — a place between characters, and the bytes between two such places
- `encodedMarkupAt` — the tag at the start of encoded text
- `scanMarkup?`, `withoutMarkupInBytes?` — encoded text with its tags dealt with
-/

namespace FlowchartLayout

/-- The bytes of a text. -/
def encoded (s : List Char) : List UInt8 :=
  s.flatMap String.utf8EncodeChar

/-- The byte is not the first one of its character. -/
def continuesChar (b : UInt8) : Bool :=
  0x80 ≤ b && b < 0xC0

/-- The place is the end of the bytes, or a character starts there. -/
def isBoundary (bytes : List UInt8) (i : Nat) : Bool :=
  match bytes[i]? with
  | some b => !continuesChar b
  | none => i == bytes.length

/-- The bytes between two places, none if one of them lies within a character. -/
def slice? (bytes : List UInt8) (start stop : Nat) : Option (List UInt8) :=
  if start ≤ stop && isBoundary bytes start && isBoundary bytes stop then
    some ((bytes.take stop).drop start)
  else none

/-- The small letter for a capital ASCII letter. -/
def smallByte (b : UInt8) : UInt8 :=
  if 0x41 ≤ b && b ≤ 0x5A then b + 0x20 else b

/-- A letter or a slash after `<` makes it the start of a tag. -/
def opensTagInBytes : List UInt8 → Bool
  | b :: _ => (0x41 ≤ b && b ≤ 0x5A) || (0x61 ≤ b && b ≤ 0x7A) || b == '/'.toUInt8
  | [] => false

/-- The tag with which encoded text begins, in bytes. The text starts with `<` and has no capital
ASCII letters. -/
def encodedMarkupAt (bytes : List UInt8) : Option Markup :=
  match (lineBreakTags.map encoded).find? fun tag => tag.isPrefixOf bytes with
  | some tag => some ⟨true, tag.length⟩
  | none =>
    if opensTagInBytes bytes.tail && bytes.contains '>'.toUInt8 then
      some ⟨false, (bytes.takeWhile (· != '>'.toUInt8)).length + 1⟩
    else none

theorem length_encodedMarkupAt_pos {bytes : List UInt8} {m : Markup}
    (h : encodedMarkupAt bytes = some m) : 0 < m.length := by
  unfold encodedMarkupAt at h
  split at h
  · next tag hfind =>
    cases h
    have hall : ∀ tag ∈ lineBreakTags.map encoded, 0 < tag.length := by decide
    exact hall tag (List.mem_of_find?_eq_some hfind)
  · split at h
    · cases h
      exact Nat.succ_pos _
    · cases h

/-- Goes over the text from the place `i` on, where `small` is the text in small letters. What
stands between `start` and `i` is kept, and is not yet in `out`. -/
def scanMarkup? (bytes small out : List UInt8) (start i : Nat) : Option (List UInt8) :=
  match hbyte : small[i]? with
  | none => (slice? bytes start bytes.length).map (out ++ ·)
  | some b =>
    if b = '<'.toUInt8 then
      match slice? small i small.length with
      | none => none
      | some rest =>
        match hmarkup : encodedMarkupAt rest with
        | some m =>
          match slice? bytes start i with
          | none => none
          | some kept =>
            let newline := if m.breaksLine then ['\n'.toUInt8] else []
            scanMarkup? bytes small (out ++ (kept ++ newline)) (i + m.length) (i + m.length)
        | none => scanMarkup? bytes small out start (i + 1)
    else scanMarkup? bytes small out start (i + 1)
termination_by small.length - i
decreasing_by
  · have hlt := (List.getElem?_eq_some_iff.1 hbyte).1
    have hpos := length_encodedMarkupAt_pos hmarkup
    omega
  · have hlt := (List.getElem?_eq_some_iff.1 hbyte).1
    omega
  · have hlt := (List.getElem?_eq_some_iff.1 hbyte).1
    omega

/-- Encoded text with line breaks for line break tags and without all other tags; none if it were
cut within a character. -/
def withoutMarkupInBytes? (bytes : List UInt8) : Option (List UInt8) :=
  scanMarkup? bytes (bytes.map smallByte) [] 0 0

end FlowchartLayout
