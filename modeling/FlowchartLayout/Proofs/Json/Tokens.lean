import FlowchartLayout.Json.Printer
import FlowchartLayout.Proofs.Color
import FlowchartLayout.Proofs.Number.Numeral
import FlowchartLayout.Proofs.Text.Runs
import Mathlib.Data.List.TakeWhile

/-!
# The texts of tokens

How a token is written. Each written token is read back, whatever follows it; only a number must not
be followed by what could belong to it. And what is read without a break is a written token.

## Main definitions

- `LiteralText`, `Numeral.textWith`, `TokenText` — how literals, numbers and tokens are written
- `EndsNumber` — what may follow a number
- `Token.IsProper` — a token that is no break

## Main statements

- `LiteralText.readString_append`, `exists_literalText` — string literals
- `readNumeral_textWith`, `exists_textWith_of_readNumeral` — numbers
- `TokenText.tokens_append`, `isFirst_readToken` — tokens
- `literalText_flatMap_escape` — a printed string is a literal
-/

namespace FlowchartLayout

/-- The characters of a power of ten that begins with a small or a capital letter. -/
def PowerOfTen.textWith (e : Char) (p : PowerOfTen) : List Char :=
  e :: p.sign.toList ++ p.digits

/-- The characters of a numeral, given the letter of its power of ten. -/
def Numeral.textWith (e : Char) (n : Numeral) : List Char :=
  (if n.negative then ['-'] else []) ++ (n.whole ++
    ((if n.fraction.isEmpty then [] else '.' :: n.fraction) ++
      (n.power.map (PowerOfTen.textWith e)).getD []))

theorem Numeral.textWith_e (n : Numeral) : n.textWith 'e' = n.text := by
  rw [textWith, text, List.append_assoc, List.append_assoc]
  rfl

namespace Json

theorem map_eq_ok_iff {ε α β : Type} {f : α → β} {x : Except ε α} {b : β} :
    x.map f = .ok b ↔ ∃ a, x = .ok a ∧ f a = b := by
  cases x <;> simp [Except.map]

/-! ## Strings -/

/-- What follows a part of a string literal, up to the closing quote, and the literal as a whole. -/
inductive LiteralText : PartialLiteral → List Char → Literal → Prop where
  | close (l : PartialLiteral) : LiteralText l ['"'] l.close
  | plain {l : PartialLiteral} {c : Char} {text : List Char} {r : Literal} (hquote : c ≠ '"')
      (hslash : c ≠ '\\') (hcontrol : ¬ c < ' ') (h : LiteralText (l.push c) text r) :
      LiteralText l (c :: text) r
  | short {l : PartialLiteral} {e c : Char} {text : List Char} {r : Literal}
      (he : shortEscape? e = some c) (h : LiteralText (l.push c) text r) :
      LiteralText l ('\\' :: e :: text) r
  | unit {l : PartialLiteral} {a b c d : Char} {text : List Char} {r : Literal}
      (hhex : [a, b, c, d].all Color.isHexDigit = true)
      (h : LiteralText (l.pushUnit (Color.hexValue [a, b, c, d])) text r) :
      LiteralText l ('\\' :: 'u' :: a :: b :: c :: d :: text) r

theorem readString_push {l : PartialLiteral} {c : Char} (hquote : c ≠ '"') (hslash : c ≠ '\\')
    (hcontrol : ¬ c < ' ') (s : List Char) : readString l (c :: s) = readString (l.push c) s := by
  rw [readString.eq_def]
  split <;> simp_all

theorem readString_short {l : PartialLiteral} {e c : Char} (he : shortEscape? e = some c)
    (s : List Char) : readString l ('\\' :: e :: s) = readString (l.push c) s := by
  have hu : e ≠ 'u' := by
    rintro rfl
    cases he
  rw [readString]
  · rw [he]
  · rintro a b c' d s' rfl
    exact absurd rfl hu
  · rintro rfl
    exact hu rfl

theorem LiteralText.readString_append {l : PartialLiteral} {text : List Char} {r : Literal}
    (h : LiteralText l text r) (s : List Char) : readString l (text ++ s) = .ok (r, s) := by
  induction h with
  | close l => rw [List.singleton_append, readString]
  | plain hquote hslash hcontrol _ ih =>
    rw [List.cons_append, readString_push hquote hslash hcontrol, ih]
  | short he _ ih => rw [List.cons_append, List.cons_append, readString_short he, ih]
  | unit hhex _ ih =>
    simp only [List.cons_append]
    rw [readString, if_pos hhex, ih]

theorem exists_literalText {l : PartialLiteral} {s rest : List Char} {r : Literal}
    (h : readString l s = .ok (r, rest)) : ∃ text, s = text ++ rest ∧ LiteralText l text r := by
  fun_induction readString l s with
  | case2 l s =>
    cases h
    exact ⟨['"'], rfl, .close l⟩
  | case4 l a b c d s hhex ih =>
    obtain ⟨text, rfl, htext⟩ := ih h
    exact ⟨_, rfl, .unit hhex htext⟩
  | case7 l e s hunit hu c he ih =>
    obtain ⟨text, rfl, htext⟩ := ih h
    exact ⟨_, rfl, .short he htext⟩
  | case10 l c s hquote hend hunit hu hshort hcontrol ih =>
    have hslash : c ≠ '\\' := by
      rintro rfl
      cases s with
      | nil => exact hend rfl rfl
      | cons e s => exact hshort e s rfl rfl
    obtain ⟨text, rfl, htext⟩ := ih h
    exact ⟨_, rfl, .plain hquote hslash hcontrol htext⟩
  | _ => cases h

/-! ## Printed strings -/

/-- The state after the characters `acc`, the last one first, with no half of a character. -/
abbrev readSoFar (acc : List Char) : PartialLiteral :=
  { text := .ok acc }

theorem push_readSoFar (acc : List Char) (c : Char) :
    (readSoFar acc).push c = readSoFar (c :: acc) := rfl

/-- Units below the halves of characters are characters. -/
theorem pushUnit_readSoFar (acc : List Char) {c : Char} (h : c < ' ') :
    (readSoFar acc).pushUnit c.toNat = readSoFar (c :: acc) := by
  have hlt : c.toNat < 32 := h
  have hlead : ¬ 0xD800 ≤ c.toNat := by omega
  have htrail : ¬ 0xDC00 ≤ c.toNat := by omega
  simp only [PartialLiteral.pushUnit, hlead, htrail, decide_false, Bool.false_and,
    Bool.false_eq_true, if_false, Char.ofNat_toNat, push_readSoFar]

theorem literalText_controlEscape {acc : List Char} {c : Char} (hc : c < ' ') {text : List Char}
    {r : Literal} (h : LiteralText (readSoFar (c :: acc)) text r) :
    LiteralText (readSoFar acc) ('\\' :: 'u' :: '0' :: '0' :: Nat.digitChar (c.toNat / 16) ::
      Nat.digitChar (c.toNat % 16) :: text) r := by
  have hlt : c.toNat < 32 := hc
  have hhigh : c.toNat / 16 < 16 := by omega
  have hlow : c.toNat % 16 < 16 := by omega
  have hvalue : Color.hexValue ['0', '0', Nat.digitChar (c.toNat / 16),
      Nat.digitChar (c.toNat % 16)] = c.toNat := by
    simp only [Color.hexValue, List.foldl_cons, List.foldl_nil,
      Color.hexDigitValue_digitChar hhigh, Color.hexDigitValue_digitChar hlow,
      show Color.hexDigitValue '0' = 0 from rfl]
    omega
  refine .unit ?_ ?_
  · simp [Color.isHexDigit_digitChar hhigh, Color.isHexDigit_digitChar hlow,
      show Color.isHexDigit '0' = true from rfl]
  · rwa [hvalue, pushUnit_readSoFar acc hc]

/-- A printed character stands for itself. -/
theorem literalText_escape {acc : List Char} (c : Char) {text : List Char} {r : Literal}
    (h : LiteralText (readSoFar (c :: acc)) text r) :
    LiteralText (readSoFar acc) (escape c ++ text) r := by
  have hshort {e d : Char} (he : shortEscape? e = some d) (hd : (c == d) = true) :
      LiteralText (readSoFar acc) ('\\' :: e :: text) r := by
    rw [← eq_of_beq hd] at he
    exact .short he h
  unfold escape
  split_ifs with hquote hslash hback htab hline hfeed hreturn hcontrol
  · exact hshort (e := '"') rfl hquote
  · exact hshort (e := '\\') rfl hslash
  · exact hshort (e := 'b') rfl hback
  · exact hshort (e := 't') rfl htab
  · exact hshort (e := 'n') rfl hline
  · exact hshort (e := 'f') rfl hfeed
  · exact hshort (e := 'r') rfl hreturn
  · exact literalText_controlEscape hcontrol h
  · exact .plain (fun heq => hquote (beq_iff_eq.2 heq)) (fun heq => hslash (beq_iff_eq.2 heq))
      hcontrol h

/-- What stands between the quotes of a printed string stands for the string. -/
theorem literalText_flatMap_escape (acc cs : List Char) :
    LiteralText (readSoFar acc) (cs.flatMap escape ++ ['"'])
      (.ok (String.ofList (acc.reverse ++ cs))) := by
  induction cs generalizing acc with
  | nil =>
    rw [List.append_nil]
    exact .close (readSoFar acc)
  | cons c cs ih =>
    have hrest := ih (c :: acc)
    rw [List.reverse_cons, List.append_assoc, List.singleton_append] at hrest
    rw [List.flatMap_cons, List.append_assoc]
    exact literalText_escape c hrest

/-! ## Written numbers are read -/

/-- A number ends before the text: no digit, point or power of ten follows. -/
def EndsNumber (s : List Char) : Prop :=
  ∀ c ∈ s.head?, c.isDigit = false ∧ c ≠ '.' ∧ c ≠ 'e' ∧ c ≠ 'E'

theorem readDigits_append {digits s : List Char} (hdigits : ∀ c ∈ digits, c.isDigit = true)
    (hne : digits ≠ []) (hs : ∀ c ∈ s.head?, c.isDigit = false) :
    readDigits (digits ++ s) = .ok (digits, s) := by
  unfold readDigits
  rw [takeWhile_run hdigits hs, dropWhile_run hdigits hs, if_neg]
  simpa using hne

theorem readSign_digits {s : List Char} (h : ∀ c ∈ s.head?, c.isDigit = true) :
    readSign s = (none, s) := by
  unfold readSign
  split
  · exact absurd (h '+' rfl) (by decide)
  · exact absurd (h '-' rfl) (by decide)
  · rfl

section Letter

variable {e : Char} (he : e = 'e' ∨ e = 'E')

include he

theorem readPower_textWith {p : PowerOfTen} (hp : p.Regular) {s : List Char}
    (hs : ∀ c ∈ s.head?, c.isDigit = false) : readPower (p.textWith e ++ s) = .ok (some p, s) := by
  obtain ⟨sign, digits⟩ := p
  have hread : readDigits (digits ++ s) = .ok (digits, s) :=
    readDigits_append hp.digits hp.digits_ne_nil hs
  have hsign : readSign (sign.toList ++ (digits ++ s)) = (sign, digits ++ s) := by
    cases sign with
    | none =>
      refine readSign_digits fun c hc => hp.digits c (List.mem_of_mem_head? ?_)
      rwa [Option.toList_none, List.nil_append, head?_append_of_ne_nil hp.digits_ne_nil] at hc
    | some c =>
      rcases hp.sign c rfl with rfl | rfl
      · rfl
      · rfl
  have hletter : (e == 'e' || e == 'E') = true := by
    rcases he with rfl | rfl <;> rfl
  change readPower (e :: (sign.toList ++ digits ++ s)) = _
  rw [List.append_assoc, readPower, if_pos hletter, hsign, hread]
  rfl

omit he in
theorem readPower_none {s : List Char} (h : EndsNumber s) : readPower s = .ok (none, s) := by
  cases s with
  | nil => rfl
  | cons c s =>
    obtain ⟨-, -, he, hE⟩ := h c rfl
    rw [readPower, if_neg]
    simp [he, hE]

omit he in
theorem readFraction_append {digits s : List Char} (hdigits : ∀ c ∈ digits, c.isDigit = true)
    (hs : ∀ c ∈ s.head?, c.isDigit = false ∧ c ≠ '.') :
    readFraction ((if digits.isEmpty then [] else '.' :: digits) ++ s) = .ok (digits, s) := by
  split_ifs with hempty
  · rw [List.isEmpty_iff.1 hempty, List.nil_append]
    cases s with
    | nil => rfl
    | cons c s =>
      rw [readFraction]
      rintro s' ⟨⟩
      exact (hs '.' rfl).2 rfl
  · rw [List.cons_append, readFraction]
    exact readDigits_append hdigits (by simpa using hempty) fun c hc => (hs c hc).1

omit he in
theorem readWhole_append {digits s : List Char} (hdigits : ∀ c ∈ digits, c.isDigit = true)
    (hne : digits ≠ []) (hlead : digits = ['0'] ∨ digits.head? ≠ some '0')
    (hs : ∀ c ∈ s.head?, c.isDigit = false) : readWhole (digits ++ s) = .ok (digits, s) := by
  obtain ⟨c, cs, rfl⟩ := List.exists_cons_of_ne_nil hne
  rcases hlead with hzero | hhead
  · rw [hzero, List.singleton_append, readWhole, if_neg]
    cases h : s.head? with
    | none => simp
    | some d => simp [hs d h]
  · rw [List.cons_append, readWhole]
    · exact readDigits_append hdigits hne hs
    · rintro s' ⟨⟩
      exact hhead rfl

/-- The character in front of what follows the digits of a number. -/
theorem head?_power_textWith {p : Option PowerOfTen} {s : List Char} (hs : EndsNumber s) :
    ∀ c ∈ ((p.map (PowerOfTen.textWith e)).getD [] ++ s).head?, c.isDigit = false ∧ c ≠ '.' := by
  intro c hc
  cases p with
  | none => exact ⟨(hs c hc).1, (hs c hc).2.1⟩
  | some p =>
    cases hc
    rcases he with rfl | rfl <;> exact ⟨rfl, by decide⟩

theorem readUnsigned_textWith (negative : Bool) {whole fraction : List Char}
    {power : Option PowerOfTen} (h : (Numeral.mk negative whole fraction power).Regular)
    {s : List Char} (hs : EndsNumber s) :
    readUnsigned negative (whole ++ ((if fraction.isEmpty then [] else '.' :: fraction) ++
      ((power.map (PowerOfTen.textWith e)).getD [] ++ s))) =
        .ok (⟨negative, whole, fraction, power⟩, s) := by
  have hpower := head?_power_textWith he (p := power) hs
  have hfraction : ∀ c ∈ ((if fraction.isEmpty then [] else '.' :: fraction) ++
      ((power.map (PowerOfTen.textWith e)).getD [] ++ s)).head?, c.isDigit = false := by
    split_ifs
    · exact fun c hc => (hpower c hc).1
    · rintro c ⟨⟩
      rfl
  have hread : readPower ((power.map (PowerOfTen.textWith e)).getD [] ++ s) = .ok (power, s) := by
    cases power with
    | none => exact readPower_none hs
    | some p => exact readPower_textWith he (h.power p rfl) fun c hc => (hs c hc).1
  rw [readUnsigned, readWhole_append h.whole h.whole_ne_nil h.leading hfraction]
  simp only
  rw [readFraction_append h.fraction hpower]
  simp only
  rw [hread]

/-- A regular numeral is read back. -/
theorem readNumeral_textWith {n : Numeral} (h : n.Regular) {s : List Char} (hs : EndsNumber s) :
    readNumeral (n.textWith e ++ s) = .ok (n, s) := by
  obtain ⟨negative, whole, fraction, power⟩ := n
  have hread := readUnsigned_textWith he negative h hs
  rw [Numeral.textWith, List.append_assoc, List.append_assoc, List.append_assoc]
  cases negative with
  | true => exact hread
  | false =>
    rw [if_neg Bool.false_ne_true, List.nil_append, readNumeral]
    · exact hread
    · -- digits start with no sign
      obtain ⟨c, cs, rfl⟩ := List.exists_cons_of_ne_nil h.whole_ne_nil
      rintro s' ⟨⟩
      exact absurd (h.whole '-' (List.mem_cons_self ..)) (by decide)

end Letter

/-! ## Read numbers are written -/

theorem of_readDigits {s digits rest : List Char} (h : readDigits s = .ok (digits, rest)) :
    s = digits ++ rest ∧ (∀ c ∈ digits, c.isDigit = true) ∧ digits ≠ [] ∧
      ∀ c ∈ rest.head?, c.isDigit = false := by
  unfold readDigits at h
  split at h
  · cases h
  · next hne =>
    cases h
    refine ⟨List.takeWhile_append_dropWhile.symm, fun c hc => List.mem_takeWhile_imp hc,
      fun hnil => hne (List.isEmpty_iff.2 hnil), fun c hc => ?_⟩
    have hnot := List.head?_dropWhile_not Char.isDigit s
    rw [hc] at hnot
    simpa using hnot

theorem of_readSign (s : List Char) :
    s = (readSign s).1.toList ++ (readSign s).2 ∧ ∀ c ∈ (readSign s).1, c = '+' ∨ c = '-' := by
  unfold readSign
  split
  · exact ⟨rfl, by rintro c ⟨⟩; exact .inl rfl⟩
  · exact ⟨rfl, by rintro c ⟨⟩; exact .inr rfl⟩
  · exact ⟨rfl, nofun⟩

theorem of_readWhole {s whole rest : List Char} (h : readWhole s = .ok (whole, rest)) :
    s = whole ++ rest ∧ (∀ c ∈ whole, c.isDigit = true) ∧ whole ≠ [] ∧
      (whole = ['0'] ∨ whole.head? ≠ some '0') ∧ ∀ c ∈ rest.head?, c.isDigit = false := by
  unfold readWhole at h
  split at h
  · split at h
    · cases h
    · next hnot =>
      cases h
      refine ⟨rfl, by simp, by simp, .inl rfl, fun c hc => ?_⟩
      rw [Option.mem_def.1 hc] at hnot
      simpa using hnot
  · next hzero =>
    obtain ⟨rfl, hdigits, hne, hrest⟩ := of_readDigits h
    refine ⟨rfl, hdigits, hne, .inr fun hhead => ?_, hrest⟩
    obtain ⟨ds, rfl⟩ := List.head?_eq_some_iff.1 hhead
    exact hzero (ds ++ rest) rfl

theorem of_readFraction {s fraction rest : List Char} (h : readFraction s = .ok (fraction, rest))
    (hs : ∀ c ∈ s.head?, c.isDigit = false) :
    s = (if fraction.isEmpty then [] else '.' :: fraction) ++ rest ∧
      (∀ c ∈ fraction, c.isDigit = true) ∧ ∀ c ∈ rest.head?, c.isDigit = false := by
  unfold readFraction at h
  split at h
  · obtain ⟨rfl, hdigits, hne, hrest⟩ := of_readDigits h
    refine ⟨?_, hdigits, hrest⟩
    rw [if_neg (by simpa using hne), List.cons_append]
  · cases h
    exact ⟨rfl, by simp, hs⟩

theorem of_readPower {s rest : List Char} {power : Option PowerOfTen}
    (h : readPower s = .ok (power, rest)) (hs : ∀ c ∈ s.head?, c.isDigit = false) :
    (∀ p ∈ power, p.Regular) ∧ (∀ c ∈ rest.head?, c.isDigit = false) ∧
      ∃ e, (e = 'e' ∨ e = 'E') ∧ s = (power.map (PowerOfTen.textWith e)).getD [] ++ rest := by
  unfold readPower at h
  split at h
  · cases h
    exact ⟨nofun, nofun, 'e', .inl rfl, rfl⟩
  · next e s =>
    split at h
    · next hletter =>
      obtain ⟨⟨digits, rest⟩, hdigits, hpower⟩ := map_eq_ok_iff.1 h
      cases hpower
      obtain ⟨htext, hsign⟩ := of_readSign s
      obtain ⟨hrest, hregular, hne, hends⟩ := of_readDigits hdigits
      refine ⟨?_, hends, e, by simpa using hletter, ?_⟩
      · rintro p ⟨⟩
        exact ⟨hsign, hregular, hne⟩
      · show e :: s = e :: ((readSign s).1.toList ++ digits) ++ rest
        rw [List.cons_append, List.append_assoc, ← hrest, ← htext]
    · cases h
      exact ⟨nofun, hs, 'e', .inl rfl, rfl⟩

theorem of_readUnsigned {negative : Bool} {s rest : List Char} {n : Numeral}
    (h : readUnsigned negative s = .ok (n, rest)) :
    n.Regular ∧ n.negative = negative ∧ (∀ c ∈ rest.head?, c.isDigit = false) ∧
      ∃ e, (e = 'e' ∨ e = 'E') ∧ s = n.whole ++
        ((if n.fraction.isEmpty then [] else '.' :: n.fraction) ++
          ((n.power.map (PowerOfTen.textWith e)).getD [] ++ rest)) := by
  unfold readUnsigned at h
  split at h
  · cases h
  · next whole s₁ hw =>
    split at h
    · cases h
    · next fraction s₂ hf =>
      split at h
      · cases h
      · next power s₃ hp =>
        cases h
        obtain ⟨rfl, hwhole, hne, hlead, h₁⟩ := of_readWhole hw
        obtain ⟨rfl, hfraction, h₂⟩ := of_readFraction hf h₁
        obtain ⟨hpower, h₃, e, he, rfl⟩ := of_readPower hp h₂
        exact ⟨⟨hwhole, hne, hlead, hfraction, hpower⟩, rfl, h₃, e, he, rfl⟩

/-- A number that is read is the text of a regular numeral. -/
theorem exists_textWith_of_readNumeral {s rest : List Char} {n : Numeral}
    (h : readNumeral s = .ok (n, rest)) :
    n.Regular ∧ (∀ c ∈ rest.head?, c.isDigit = false) ∧
      ∃ e, (e = 'e' ∨ e = 'E') ∧ s = n.textWith e ++ rest := by
  unfold readNumeral at h
  split at h
  · obtain ⟨hn, hnegative, hrest, e, he, rfl⟩ := of_readUnsigned h
    refine ⟨hn, hrest, e, he, ?_⟩
    simp only [Numeral.textWith, hnegative, if_true, List.append_assoc, List.cons_append,
      List.nil_append]
  · obtain ⟨hn, hnegative, hrest, e, he, rfl⟩ := of_readUnsigned h
    refine ⟨hn, hrest, e, he, ?_⟩
    simp only [Numeral.textWith, hnegative, Bool.false_eq_true, if_false, List.append_assoc,
      List.nil_append]

/-! ## Tokens -/

/-- How a token is written. -/
inductive TokenText : Token → List Char → Prop where
  | openBrace : TokenText .openBrace ['\x7b']
  | closeBrace : TokenText .closeBrace ['\x7d']
  | openBracket : TokenText .openBracket ['[']
  | closeBracket : TokenText .closeBracket [']']
  | colon : TokenText .colon [':']
  | comma : TokenText .comma [',']
  | null : TokenText .null "null".toList
  | bool (b : Bool) : TokenText (.bool b) (if b then "true" else "false").toList
  | number {n : Numeral} {e : Char} (h : n.Regular) (he : e = 'e' ∨ e = 'E') :
      TokenText (.number n) (n.textWith e)
  | string {text : List Char} {l : Literal} (h : LiteralText {} text l) :
      TokenText (.string l) ('"' :: text)

/-- What follows the token does not go on with it. -/
def EndsToken : Token → List Char → Prop
  | .number _, s => EndsNumber s
  | _, _ => True

theorem tokens_eq (s : List Char) : tokens s =
    match s.dropWhile isSpace with
    | [] => []
    | c :: s => (readToken c s).1 :: tokens (readToken c s).2 := by
  rw [tokens]
  split
  · next h => rw [h]
  · next h => rw [h]

/-- A text that starts with a token starts with that token. -/
theorem tokens_cons {c : Char} (hc : isSpace c = false) (s : List Char) :
    tokens (c :: s) = (readToken c s).1 :: tokens (readToken c s).2 := by
  have hdrop : (c :: s).dropWhile isSpace = c :: s :=
    dropWhile_eq_self (by rintro d ⟨⟩; exact hc)
  rw [tokens_eq, hdrop]

/-- Blanks before a token do not matter. -/
theorem tokens_space_append {gap : List Char} (hgap : ∀ c ∈ gap, isSpace c = true)
    (s : List Char) : tokens (gap ++ s) = tokens s := by
  rw [tokens_eq, tokens_eq s, List.dropWhile_append_of_pos hgap]

/-- The text of a regular numeral starts with a digit or a minus sign. -/
theorem exists_textWith_eq_cons {n : Numeral} (h : n.Regular) (e : Char) :
    ∃ c cs, n.textWith e = c :: cs ∧ (c.isDigit = true ∨ c = '-') := by
  obtain ⟨negative, whole, fraction, power⟩ := n
  obtain ⟨c, cs, hwhole⟩ := List.exists_cons_of_ne_nil h.whole_ne_nil
  cases negative with
  | true => exact ⟨'-', _, rfl, .inr rfl⟩
  | false =>
    simp only at hwhole
    subst hwhole
    exact ⟨c, _, rfl, .inl (h.whole c (List.mem_cons_self ..))⟩

theorem readToken_number {c : Char} (hc : c.isDigit = true ∨ c = '-') {s rest : List Char}
    {n : Numeral} (h : readNumeral (c :: s) = .ok (n, rest)) :
    readToken c s = (.number n, rest) := by
  have hstart : (c.isDigit || c == '-') = true := by
    rcases hc with hc | rfl
    · rw [hc]
      rfl
    · rfl
  rw [readToken]
  · rw [if_pos hstart, h]
  -- no other token starts with such a character
  all_goals
    rintro rfl
    revert hstart
    decide

/-- A written token is read back. -/
theorem TokenText.tokens_append {t : Token} {text s : List Char} (h : TokenText t text)
    (hs : EndsToken t s) : tokens (text ++ s) = t :: tokens s := by
  cases h with
  | null =>
    change tokens ('n' :: (['u', 'l', 'l'] ++ s)) = _
    rw [tokens_cons rfl, readToken, readWord, afterStart?_append]
  | bool b =>
    cases b with
    | true =>
      change tokens ('t' :: (['r', 'u', 'e'] ++ s)) = _
      rw [tokens_cons rfl, readToken, readWord, afterStart?_append]
    | false =>
      change tokens ('f' :: (['a', 'l', 's', 'e'] ++ s)) = _
      rw [tokens_cons rfl, readToken, readWord, afterStart?_append]
  | @number n e hn he =>
    have hread := readNumeral_textWith he hn hs
    obtain ⟨c, cs, htext, hc⟩ := exists_textWith_eq_cons hn e
    have hspace : isSpace c = false := by
      rw [← Bool.not_eq_true]
      intro h
      simp only [isSpace, Bool.or_eq_true, beq_iff_eq] at h
      rcases h with ((rfl | rfl) | rfl) | rfl <;> revert hc <;> decide
    rw [htext, List.cons_append] at hread ⊢
    rw [tokens_cons hspace, readToken_number hc hread]
  | @string text l hl =>
    have htoken : readToken '"' (text ++ s) = (.string l, s) := by
      unfold readToken
      simp only
      rw [hl.readString_append]
    rw [List.cons_append, tokens_cons rfl, htoken]
  | _ => rw [List.singleton_append, tokens_cons rfl, readToken]

/-- The token is no break. -/
def Token.IsProper : Token → Prop
  | .brokenString _ | .broken _ => False
  | _ => True

/-- The text begins with the token, and goes on with the rest. No digit follows a number. -/
structure IsFirst (s : List Char) (r : Token × List Char) : Prop where
  exists_text : ∃ text, s = text ++ r.2 ∧ TokenText r.1 text
  digit : ∀ n, r.1 = .number n → ∀ c ∈ r.2.head?, c.isDigit = false

theorem isFirst_readWord {isNull : Bool} {c : Char} {w s : List Char} {t : Token}
    (ht : TokenText t (c :: w)) (hnumber : ∀ n, t ≠ .number n)
    (h : (readWord isNull w t s).1.IsProper) : IsFirst (c :: s) (readWord isNull w t s) := by
  unfold readWord at h ⊢
  split at h
  · next rest hrest =>
    refine ⟨⟨c :: w, ?_, ht⟩, fun n hn => absurd hn (hnumber n)⟩
    rw [eq_append_of_afterStart? hrest, List.cons_append]
  · exact absurd h id

/-- What is read as a token without a break is written as one. -/
theorem isFirst_readToken {c : Char} {s : List Char} (h : (readToken c s).1.IsProper) :
    IsFirst (c :: s) (readToken c s) := by
  have hpunctuation {t : Token} (ht : TokenText t [c]) (hnumber : ∀ n, t ≠ .number n) :
      IsFirst (c :: s) (t, s) :=
    ⟨⟨[c], rfl, ht⟩, fun n hn => absurd hn (hnumber n)⟩
  revert h
  fun_cases readToken c s with
  | case1 => exact fun _ => hpunctuation .openBrace (by simp)
  | case2 => exact fun _ => hpunctuation .closeBrace (by simp)
  | case3 => exact fun _ => hpunctuation .openBracket (by simp)
  | case4 => exact fun _ => hpunctuation .closeBracket (by simp)
  | case5 => exact fun _ => hpunctuation .colon (by simp)
  | case6 => exact fun _ => hpunctuation .comma (by simp)
  | case7 => exact isFirst_readWord .null (by simp)
  | case8 => exact isFirst_readWord (.bool true) (by simp)
  | case9 => exact isFirst_readWord (.bool false) (by simp)
  | case10 l rest hread =>
    intro _
    obtain ⟨text, rfl, htext⟩ := exists_literalText hread
    exact ⟨⟨'"' :: text, rfl, .string htext⟩, by simp⟩
  | case11 => exact fun h => absurd h id
  | case12 =>
    next n rest hread =>
      intro _
      obtain ⟨hn, hrest, e, he, htext⟩ := exists_textWith_of_readNumeral hread
      exact ⟨⟨_, htext, .number hn he⟩, fun _ _ => hrest⟩
  | case13 => exact fun h => absurd h id
  | case14 => exact fun h => absurd h id

end Json

end FlowchartLayout
