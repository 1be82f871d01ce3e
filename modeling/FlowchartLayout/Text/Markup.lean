import FlowchartLayout.Text.Blank

/-!
# Inline markup in labels

Labels may hold HTML tags. A line break tag becomes a line feed; every other tag is dropped and what
it encloses is kept. A `<` that opens no tag is text.

## Main definitions

- `Markup` — what a tag at the start of a text amounts to
- `markupAt` — the tag at the start of a text, if there is one
- `withoutMarkup` — a text with its tags dealt with
-/

namespace FlowchartLayout

/-- What follows `word` at the start of a text, capitals and small ASCII letters being the same. -/
def dropWordIgnoringCase (word s : List Char) : Option (List Char) :=
  match word, s with
  | [], s => some s
  | _ :: _, [] => none
  | w :: word, c :: s => if c.toLower = w.toLower then dropWordIgnoringCase word s else none

/-- A tag: whether it breaks the line, and how many characters it is long. -/
structure Markup where
  breaksLine : Bool
  length : Nat
  deriving DecidableEq

/-- The spellings of the tag that breaks a line. -/
def lineBreakTags : List (List Char) :=
  ["<br/>".toList, "<br />".toList, "<br>".toList]

/-- A letter or a slash after `<` makes it the start of a tag. -/
def opensTag : List Char → Bool
  | c :: _ => c.isAlpha || c == '/'
  | [] => false

/-- The tag with which a text begins. Other tags than line breaks reach up to the first `>`. -/
def markupAt (s : List Char) : Option Markup :=
  match lineBreakTags.find? fun tag => (dropWordIgnoringCase tag s).isSome with
  | some tag => some ⟨true, tag.length⟩
  | none =>
    if s.head? = some '<' && opensTag s.tail && s.contains '>' then
      some ⟨false, (s.takeWhile (· != '>')).length + 1⟩
    else none

/-- The text after its first `skipped` characters, with its tags dealt with. -/
def withoutMarkupAfter : Nat → List Char → List Char
  | _, [] => []
  | skipped + 1, _ :: s => withoutMarkupAfter skipped s
  | 0, c :: s =>
    match markupAt (c :: s) with
    | some ⟨true, n⟩ => '\n' :: withoutMarkupAfter (n - 1) s
    | some ⟨false, n⟩ => withoutMarkupAfter (n - 1) s
    | none => c :: withoutMarkupAfter 0 s

/-- The text with line breaks for line break tags and without all other tags. -/
def withoutMarkup (s : List Char) : List Char :=
  withoutMarkupAfter 0 s

end FlowchartLayout
