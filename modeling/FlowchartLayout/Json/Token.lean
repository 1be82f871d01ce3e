import FlowchartLayout.Color
import FlowchartLayout.Json.Problem
import FlowchartLayout.Number.Numeral
import FlowchartLayout.Text.Start

/-!
# Tokens of JSON texts

A text is cut into punctuation, words, numbers and strings. The cutting stops at the first place
where no token can be read; what is wrong there depends on what was expected, so that all of it is
recorded.

## Main definitions

- `Literal` — a string literal, read
- `Break` — a place where a text cannot be read
- `Token`, `tokens` — the tokens of a text
-/

namespace FlowchartLayout.Json

/-- What a closed string literal says, or what is wrong with its escapes. -/
abbrev Literal := Except Problem String

/-- A place where no token can be read: the problem for a reader that expects a value, one that
expects one of a few names, and one that passes over the value. -/
structure Break where
  asValue : Problem
  asName : Problem
  asSkipped : Problem
  /-- The text has a misspelt `null` here. -/
  inNull : Bool := false
  deriving DecidableEq

/-- A break that is the same problem for every reader. -/
def Break.uniform (p : Problem) : Break :=
  ⟨p, p, p, false⟩

inductive Token where
  | openBrace
  | closeBrace
  | openBracket
  | closeBracket
  | colon
  | comma
  | null
  | bool (b : Bool)
  | number (n : Numeral)
  | string (l : Literal)
  /-- A string literal that cannot be read to its end. -/
  | brokenString (b : Break)
  /-- Anything else that is no token. -/
  | broken (b : Break)

/-! ## Strings -/

/-- A string literal as far as it was read: its characters, the last one first, or what is wrong
with them; and a leading half of a character whose other half is to follow. -/
structure PartialLiteral where
  text : Except Problem (List Char) := .ok []
  lead : Option Nat := none

namespace PartialLiteral

/-- The literal has the problem, unless it had another one before. -/
def fail (l : PartialLiteral) (p : Problem) : PartialLiteral :=
  { text := l.text.bind fun _ => .error p }

/-- The literal with one more character. A leading half before it stays without its other half. -/
def push (l : PartialLiteral) (c : Char) : PartialLiteral :=
  if l.lead.isSome then l.fail .unfinishedSurrogate else { l with text := l.text.map (c :: ·) }

/-- The literal with one more unit of sixteen bits, which may be half of a character. -/
def pushUnit (l : PartialLiteral) (unit : Nat) : PartialLiteral :=
  let isLead := decide (0xD800 ≤ unit) && decide (unit < 0xDC00)
  let isTrail := decide (0xDC00 ≤ unit) && decide (unit < 0xE000)
  match l.lead with
  | some lead =>
    if isTrail then
      { text := l.text.map
          (Char.ofNat (0x10000 + 0x400 * (lead - 0xD800) + (unit - 0xDC00)) :: ·) }
    else l.fail .loneSurrogate
  | none =>
    if isLead then { l with lead := some unit }
    else if isTrail then l.fail .loneSurrogate
    else l.push (Char.ofNat unit)

/-- The literal that ends here. -/
def close (l : PartialLiteral) : Literal :=
  (if l.lead.isSome then l.fail .unfinishedSurrogate else l).text.map
    fun cs => String.ofList cs.reverse

/-- The break at which reading the literal stops for every reader with problem `p`. -/
def stop (l : PartialLiteral) (p : Problem) : Break :=
  let strict := match l.text with
    | .ok _ => p
    | .error q => q
  ⟨strict, strict, p, false⟩

end PartialLiteral

/-- The character that a backslash and the given character stand for. -/
def shortEscape? : Char → Option Char
  | '"' => some '"'
  | '\\' => some '\\'
  | '/' => some '/'
  | 'b' => some '\x08'
  | 'f' => some '\x0c'
  | 'n' => some '\n'
  | 'r' => some '\r'
  | 't' => some '\t'
  | _ => none

/-- The number of bytes of some characters. -/
def byteCount (s : List Char) : Nat :=
  s.foldl (fun n c => n + c.utf8Size) 0

/-- Reads a string literal after its opening quote, up to and including the closing one. -/
def readString (l : PartialLiteral) : List Char → Except Break (Literal × List Char)
  | [] => .error (l.stop .endInString)
  | '"' :: s => .ok (l.close, s)
  | '\\' :: [] => .error (l.stop .endInString)
  | '\\' :: 'u' :: a :: b :: c :: d :: s =>
    if [a, b, c, d].all Color.isHexDigit then
      readString (l.pushUnit (Color.hexValue [a, b, c, d])) s
    else .error (l.stop .badEscape)
  | '\\' :: 'u' :: s =>
    -- An escape needs four more bytes.
    .error (l.stop (if byteCount s < 4 then .endInString else .badEscape))
  | '\\' :: e :: s =>
    match shortEscape? e with
    | some c => readString (l.push c) s
    | none =>
      let l := if l.lead.isSome then l.fail .unfinishedSurrogate else l
      .error (l.stop .badEscape)
  | c :: s =>
    if c < ' ' then
      let l := if l.lead.isSome then l.fail .unfinishedSurrogate else l
      .error (l.stop .controlCharacter)
    else readString (l.push c) s

/-! ## Numbers -/

/-- The break in a number. A text that ends within a number is no other problem for a reader that
passes over it. -/
def numberBreak (rest : List Char) : Break :=
  ⟨if rest.isEmpty then .endInValue else .badNumber, .noValue, .badNumber, false⟩

/-- Reads a run of at least one digit. -/
def readDigits (s : List Char) : Except Break (List Char × List Char) :=
  if (s.takeWhile Char.isDigit).isEmpty then .error (numberBreak s)
  else .ok (s.takeWhile Char.isDigit, s.dropWhile Char.isDigit)

/-- The sign at the start of a text, if there is one, and what follows it. -/
def readSign : List Char → Option Char × List Char
  | '+' :: s => (some '+', s)
  | '-' :: s => (some '-', s)
  | s => (none, s)

/-- Reads the digits before the point: a zero, or a run of digits that starts otherwise. -/
def readWhole : List Char → Except Break (List Char × List Char)
  | '0' :: s => if s.head?.any Char.isDigit then .error (numberBreak s) else .ok (['0'], s)
  | s => readDigits s

/-- Reads a fraction, which is empty if there is no point. -/
def readFraction : List Char → Except Break (List Char × List Char)
  | '.' :: s => readDigits s
  | s => .ok ([], s)

/-- Reads a power of ten, if there is one. -/
def readPower : List Char → Except Break (Option PowerOfTen × List Char)
  | [] => .ok (none, [])
  | e :: s =>
    if e == 'e' || e == 'E' then
      (readDigits (readSign s).2).map fun r => (some ⟨(readSign s).1, r.1⟩, r.2)
    else .ok (none, e :: s)

/-- Reads a number without its minus sign. -/
def readUnsigned (negative : Bool) (s : List Char) : Except Break (Numeral × List Char) :=
  match readWhole s with
  | .error b => .error b
  | .ok (whole, s) =>
    match readFraction s with
    | .error b => .error b
    | .ok (fraction, s) =>
      match readPower s with
      | .error b => .error b
      | .ok (power, s) => .ok (⟨negative, whole, fraction, power⟩, s)

/-- Reads a number. -/
def readNumeral : List Char → Except Break (Numeral × List Char)
  | '-' :: s => readUnsigned true s
  | s => readUnsigned false s

/-! ## Texts -/

/-- The blanks between tokens. -/
def isSpace (c : Char) : Bool :=
  c == ' ' || c == '\n' || c == '\t' || c == '\r'

/-- Reads the rest of a word of which the first character has been read. -/
def readWord (isNull : Bool) (word : List Char) (t : Token) (s : List Char) : Token × List Char :=
  match afterStart? word s with
  | some rest => (t, rest)
  | none =>
    let p := if s.isPrefixOf word then Problem.endInValue else .misspeltWord
    (.broken ⟨p, .noValue, p, isNull⟩, [])

/-- The first token of a text that starts with `c`, and what follows it. -/
def readToken (c : Char) (s : List Char) : Token × List Char :=
  match c with
  | '\x7b' => (.openBrace, s)
  | '\x7d' => (.closeBrace, s)
  | '[' => (.openBracket, s)
  | ']' => (.closeBracket, s)
  | ':' => (.colon, s)
  | ',' => (.comma, s)
  | 'n' => readWord true ['u', 'l', 'l'] .null s
  | 't' => readWord false ['r', 'u', 'e'] (.bool true) s
  | 'f' => readWord false ['a', 'l', 's', 'e'] (.bool false) s
  | '"' =>
    match readString {} s with
    | .ok (l, rest) => (.string l, rest)
    | .error b => (.brokenString b, [])
  | c =>
    if c.isDigit || c == '-' then
      match readNumeral (c :: s) with
      | .ok (n, rest) => (.number n, rest)
      | .error b => (.broken b, [])
    else (.broken (.uniform .noValue), [])

theorem length_readString_lt {l : PartialLiteral} {s rest : List Char} {r : Literal}
    (h : readString l s = .ok (r, rest)) : rest.length < s.length := by
  fun_induction readString l s <;>
    simp_all only [reduceCtorEq, Except.ok.injEq, Prod.mk.injEq, List.length_cons,
      forall_const] <;>
    omega

theorem length_readDigits_lt {s rest digits : List Char}
    (h : readDigits s = .ok (digits, rest)) : rest.length < s.length := by
  have hsum := congrArg List.length
    (List.takeWhile_append_dropWhile (p := Char.isDigit) (l := s))
  rw [List.length_append] at hsum
  unfold readDigits at h
  split at h
  · simp at h
  · next hne =>
    simp only [Except.ok.injEq, Prod.mk.injEq] at h
    have hpos := List.length_pos_iff.2 (mt List.isEmpty_iff.2 hne)
    rw [← h.2]
    omega

theorem length_readSign_le (s : List Char) : (readSign s).2.length ≤ s.length := by
  unfold readSign
  split <;> simp

theorem length_readWhole_lt {s rest digits : List Char}
    (h : readWhole s = .ok (digits, rest)) : rest.length < s.length := by
  unfold readWhole at h
  split at h
  · split at h
    · simp at h
    · simp only [Except.ok.injEq, Prod.mk.injEq] at h
      simp [h.2]
  · exact length_readDigits_lt h

theorem length_readFraction_le {s rest digits : List Char}
    (h : readFraction s = .ok (digits, rest)) : rest.length ≤ s.length := by
  unfold readFraction at h
  split at h
  · exact Nat.le_succ_of_le (Nat.le_of_lt (length_readDigits_lt h))
  · simp only [Except.ok.injEq, Prod.mk.injEq] at h
    simp [h.2]

theorem length_readPower_le {s rest : List Char} {p : Option PowerOfTen}
    (h : readPower s = .ok (p, rest)) : rest.length ≤ s.length := by
  unfold readPower at h
  split at h
  · simp only [Except.ok.injEq, Prod.mk.injEq] at h
    simp [← h.2]
  · next e s =>
    split at h
    · cases hd : readDigits (readSign s).2 with
      | error b => simp [hd, Except.map] at h
      | ok r =>
        obtain ⟨digits, rest'⟩ := r
        simp only [hd, Except.map, Except.ok.injEq, Prod.mk.injEq] at h
        have h₁ := length_readDigits_lt hd
        have h₂ := length_readSign_le s
        rw [← h.2, List.length_cons]
        omega
    · simp only [Except.ok.injEq, Prod.mk.injEq] at h
      simp [← h.2]

theorem length_readUnsigned_lt {negative : Bool} {s rest : List Char} {n : Numeral}
    (h : readUnsigned negative s = .ok (n, rest)) : rest.length < s.length := by
  unfold readUnsigned at h
  split at h
  · simp at h
  · next hw =>
    split at h
    · simp at h
    · next hf =>
      split at h
      · simp at h
      · next hp =>
        have h₁ := length_readWhole_lt hw
        have h₂ := length_readFraction_le hf
        have h₃ := length_readPower_le hp
        simp only [Except.ok.injEq, Prod.mk.injEq] at h
        rw [← h.2]
        omega

theorem length_readNumeral_lt {s rest : List Char} {n : Numeral}
    (h : readNumeral s = .ok (n, rest)) : rest.length < s.length := by
  unfold readNumeral at h
  split at h
  · exact Nat.lt_succ_of_lt (length_readUnsigned_lt h)
  · exact length_readUnsigned_lt h

theorem length_readWord_le (isNull : Bool) (word : List Char) (t : Token) (s : List Char) :
    (readWord isNull word t s).2.length ≤ s.length := by
  unfold readWord
  split
  · next rest h =>
    have := length_of_afterStart? h
    simp only
    omega
  · simp

theorem length_readToken_le (c : Char) (s : List Char) :
    (readToken c s).2.length ≤ s.length := by
  fun_cases readToken c s <;> simp only [Nat.le_refl, length_readWord_le, List.length_nil,
    Nat.zero_le]
  · next h => exact Nat.le_of_lt (length_readString_lt h)
  · next h => exact Nat.le_of_lt_succ (length_readNumeral_lt h)

/-- The tokens of a text. -/
def tokens (s : List Char) : List Token :=
  match _h : s.dropWhile isSpace with
  | [] => []
  | c :: s => (readToken c s).1 :: tokens (readToken c s).2
termination_by s.length
decreasing_by
  rename_i s₀
  have h₁ := (List.dropWhile_sublist isSpace (l := s₀)).length_le
  have h₂ := length_readToken_le c s
  rw [_h, List.length_cons] at h₁
  omega

end FlowchartLayout.Json
