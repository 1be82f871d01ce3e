import FlowchartLayout.Text.Markup

/-!
# Labels

The text of a label stands between brackets. It either is quoted, and then goes up to the closing
quote, or goes up to the bracket that closes the opening one, inner brackets being part of the
label. Labels are trimmed, and their markup is dealt with.

## Main definitions

- `cleanLabel` — a label as it is kept
- `readQuoted?` — a quoted label
- `scanBracketed` — the text up to the closing bracket
- `readLabel` — a label up to the character that closes it
-/

namespace FlowchartLayout.Source

/-- A label as it is kept: trimmed and without markup. -/
def cleanLabel (s : List Char) : String :=
  String.ofList (withoutMarkup (trim s))

/-- A quoted label and what follows it. The closing quote may be missing at the end of the text. -/
def readQuoted? : List Char → Option (String × List Char)
  | '"' :: s =>
    some (cleanLabel (s.takeWhile (· != '"')),
      skipInlineBlanks (s.dropWhile (· != '"')).tail)
  | _ => none

/-- Splits a text before the `stop` that closes `depth` open brackets and one more. Each `nest`
opens a bracket. Without such a `stop` all of the text comes before it. -/
def scanBracketed (nest : Option Char) (stop : Char) : Nat → List Char → List Char × List Char
  | _, [] => ([], [])
  | depth, c :: s =>
    let continued (depth : Nat) :=
      let (inside, rest) := scanBracketed nest stop depth s
      (c :: inside, rest)
    if c = stop then
      match depth with
      | 0 => ([], c :: s)
      | depth + 1 => continued depth
    else if some c = nest then continued (depth + 1)
    else continued depth

/-- A label up to the `stop` that closes it, and what follows, from the `stop` on. -/
def readLabel (nest : Option Char) (stop : Char) (s : List Char) : String × List Char :=
  let s := skipInlineBlanks s
  match readQuoted? s with
  | some r => r
  | none =>
    let (inside, rest) := scanBracketed nest stop 0 s
    (cleanLabel inside, rest)

theorem length_scanBracketed_le (nest : Option Char) (stop : Char) (depth : Nat) (s : List Char) :
    (scanBracketed nest stop depth s).2.length ≤ s.length := by
  induction s generalizing depth with
  | nil => simp [scanBracketed]
  | cons c s ih =>
    unfold scanBracketed
    split
    · cases depth with
      | zero => simp
      | succ depth => exact Nat.le_succ_of_le (ih depth)
    · split
      · exact Nat.le_succ_of_le (ih (depth + 1))
      · exact Nat.le_succ_of_le (ih depth)

theorem length_readQuoted_le {s rest : List Char} {label : String}
    (h : readQuoted? s = some (label, rest)) : rest.length ≤ s.length := by
  unfold readQuoted? at h
  split at h
  · simp only [Option.some.injEq, Prod.mk.injEq] at h
    rw [← h.2]
    refine Nat.le_trans (length_skipInlineBlanks_le _) ?_
    have := length_dropWhile_le (· != '"') ‹List Char›
    simp only [List.length_tail, List.length_cons]
    omega
  · simp at h

theorem length_readLabel_le (nest : Option Char) (stop : Char) (s : List Char) :
    (readLabel nest stop s).2.length ≤ s.length := by
  dsimp only [readLabel]
  split
  · next r h =>
    exact Nat.le_trans (length_readQuoted_le h) (length_skipInlineBlanks_le s)
  · exact Nat.le_trans (length_scanBracketed_le nest stop 0 _) (length_skipInlineBlanks_le s)

end FlowchartLayout.Source
