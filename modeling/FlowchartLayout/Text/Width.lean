import FlowchartLayout.Text.GraphemeExtend
import FlowchartLayout.Text.WidthTable

/-!
# Width of a text in columns

A text is measured from its end to its start. The width of a character depends on what follows it
only where characters are drawn together: variation selectors, emoji joined into one picture, pairs
of regional indicators, and the ligatures of a few scripts. All of that is held in a `Following`
state, which each character reads and renews.

## Main definitions

- `charWidth` — the width of a character by itself
- `Context`, `Following` — what follows a character, as far as it matters
- `precede` — the width that a character adds before what follows it, and the state it leaves
- `displayWidth` — the width of a text
-/

namespace FlowchartLayout

/-! ## Single characters -/

def isVowelOrTrailingJamo (c : Char) : Bool :=
  isWithin c 0x1160 0x11FF || isWithin c 0xD7B0 0xD7C6 || isWithin c 0xD7CB 0xD7FB

/-- Marks, ignorable characters, medial and final jamo and a few signs written over the following
number take no column of their own. -/
def isZeroWidth (c : Char) : Bool :=
  (defaultIgnorables.contains c || graphemeExtend.contains c || isVowelOrTrailingJamo c ||
    ['\u0605', '\u070f', '\u0890', '\u0891', '\u08e2', '\ua8fa'].contains c) &&
    !(['\u115f', '\uff9e', '\uff9f', '\u2d7f'].contains c)

/-- The columns of a character that nothing follows. -/
def charWidth (c : Char) : Nat :=
  if c ≤ '\u00a0' then 1
  else if c == '\u17d8' then 3
  else if c == '\u17a4' then 2
  else if isZeroWidth c then 0
  else if wides.contains c then 2
  else 1

/-! ## Classes of characters that combine -/

def isSkinTone (c : Char) : Bool :=
  isWithin c 0x1F3FB 0x1F3FF

def isRegionalIndicator (c : Char) : Bool :=
  isWithin c 0x1F1E6 0x1F1FF

def isTagLetter (c : Char) : Bool :=
  isWithin c 0xE0061 0xE007A

def isTagDigit (c : Char) : Bool :=
  isWithin c 0xE0030 0xE0039

def isAlef (c : Char) : Bool :=
  ['\u0622', '\u0623', '\u0625', '\u0627', '\u0671', '\u0672', '\u0673', '\u0675', '\u0773',
    '\u0774'].contains c || isWithin c 0x870 0x882

def isLam (c : Char) : Bool :=
  ['\u0644', '\u076a', '\u08a6', '\u08c7'].contains c || isWithin c 0x6B5 0x6B8

def isTifinaghConsonant (c : Char) : Bool :=
  isWithin c 0x2D31 0x2D65 || c == '\u2d6f'

/-- The Khmer letters that can be written below another one. -/
def khmerLetters : CharSet where
  ranges :=
    [(0x1780, 0x1782), (0x1784, 0x1787), (0x1789, 0x178C), (0x178E, 0x1793), (0x1795, 0x1798),
     (0x179B, 0x179D), (0x17A0, 0x17A0), (0x17A2, 0x17A2), (0x17A7, 0x17A7), (0x17AB, 0x17AC),
     (0x17AF, 0x17AF)]

/-- Characters that may stand inside a ligature without breaking it; a joiner is not counted. -/
def isLigatureTransparent (c : Char) : Bool :=
  c == '\u034f' || isWithin c 0x17B4 0x17B5 || isWithin c 0x180B 0x180D ||
    c == '\u180f' || isWithin c 0xFE00 0xFE0F || isWithin c 0xE0100 0xE01EF

/-- Marks over which the letters of a joining script still join. -/
def isTransparentMark (c : Char) : Bool :=
  charWidth c == 0 && !unjoinedZeroWidths.contains c

/-! ## What follows a character -/

/-- A variation selector that asks for a way to show the character before it. -/
inductive Selector where
  | fullWidth
  | text
  | emoji
  deriving DecidableEq

/-- What a text begins with, as far as the character before it can combine with it. `joined` says
that a zero-width joiner comes first. -/
inductive Context where
  | plain
  | lineFeed
  | emoji
  | skinTone
  | regionalIndicator
  | regionalIndicators
  | joinedEmoji
  | joinedKeycap
  | joinedRegionalIndicator
  | joinedRegionalPairs
  | joinedOddRegionals
  | tagEnd
  | tagLetters (count : Nat)
  | tagDigits (count : Nat)
  | alef
  | lamed (joined : Bool)
  | ya (joined : Bool)
  | signedYa
  | tifinagh (joined : Bool)
  | tifinaghJoiner
  | lisuTone
  | orkhonI (joined : Bool)
  | khmerLetter
  | kiratVowelE
  | kiratVowelAi
  deriving DecidableEq

/-- The context is part of a ligature of a script, which a variation selector does not break. -/
def Context.isLigature : Context → Bool
  | .alef | .lamed _ | .ya _ | .signedYa | .tifinagh _ | .tifinaghJoiner | .lisuTone | .orkhonI _
  | .khmerLetter | .kiratVowelE | .kiratVowelAi => true
  | _ => false

/-- The context after a joiner is put in front of a ligature's part. -/
def Context.join : Context → Context
  | .lamed _ => .lamed true
  | .ya _ => .ya true
  | .tifinagh _ => .tifinagh true
  | .orkhonI _ => .orkhonI true
  | .kiratVowelE | .kiratVowelAi => .plain
  | c => c

/-- What follows a character: a context, and the variation selector in front of it. -/
structure Following where
  context : Context := .plain
  selector : Option Selector := none
  deriving DecidableEq

namespace Following

/-- Nothing that a character could combine with. -/
def nothing : Following := {}

/-- A text that starts with `context`. -/
def of (context : Context) : Following := { context }

/-- A variation selector is put in front. It hides what follows it, unless that is part of a
ligature, or an emoji after a joiner to which it offers another emoji. -/
def select (next : Following) (s : Selector) : Following :=
  let kept := next.context.isLigature ||
    (s == .emoji && (next.context == .joinedEmoji || next.context == .joinedKeycap))
  { context := if kept then next.context else .plain, selector := some s }

/-- The selector did not apply to the character before it. -/
def unselect (next : Following) : Following :=
  of (if next.context.isLigature then next.context else .plain)

end Following

/-- The state that a character leaves when it does not combine with what follows. -/
def startsWith (c : Char) : Following :=
  if c == '\ufe0f' then { selector := some .emoji }
  else if c == '\ufe0e' then { selector := some .text }
  else if c == '\ufe01' then { selector := some .fullWidth }
  else if isSkinTone c then .of .skinTone
  else if isRegionalIndicator c then .of .regionalIndicator
  else if emojiPresentations.contains c then .of .emoji
  else if isAlef c then .of .alef
  else if c == '\u05dc' then .of (.lamed false)
  else if c == '\u1a10' then .of (.ya false)
  else if isTifinaghConsonant c then .of (.tifinagh false)
  else if c == '\ua4fc' || c == '\ua4fd' then .of .lisuTone
  else if c.toNat == 0x10C03 then .of (.orkhonI false)
  else if khmerLetters.contains c then .of .khmerLetter
  else if c.toNat == 0x16D67 then .of .kiratVowelE
  else if c.toNat == 0x16D68 then .of .kiratVowelAi
  else .nothing

/-- The width that `c` adds in front of a context that it combines with, if it does. -/
def combine (c : Char) : Context → Option (Int × Context)
  | .alef =>
    if isLam c then some (0, .plain)
    else if isTransparentMark c then some (0, .alef)
    else none
  | .lamed true => if c == '\u05d0' then some (0, .plain) else none
  | .khmerLetter => if c == '\u17d2' then some (-1, .plain) else none
  | .ya true => if c == '\u1a17' then some (0, .signedYa) else none
  | .signedYa => if c == '\u1a15' then some (0, .plain) else none
  | .tifinagh joined =>
    if c == '\u2d7f' then some (1, .tifinaghJoiner)
    else if joined && isTifinaghConsonant c then some (0, .plain)
    else none
  | .tifinaghJoiner => if isTifinaghConsonant c then some (-1, .plain) else none
  | .lisuTone => if isWithin c 0xA4F8 0xA4FB then some (0, .plain) else none
  | .orkhonI true => if c.toNat == 0x10C32 then some (0, .plain) else none
  | .kiratVowelE =>
    if c.toNat == 0x16D63 || c.toNat == 0x16D69 then some (0, .plain)
    else if c.toNat == 0x16D67 then some (0, .kiratVowelAi)
    else if c.toNat == 0x16D68 then some (1, .kiratVowelE)
    else none
  | .kiratVowelAi => if c.toNat == 0x16D63 then some (0, .plain) else none
  | .emoji => if c == '\u200d' then some (0, .joinedEmoji) else none
  | .skinTone =>
    if emojiModifierBases.contains c then some (0, .emoji)
    else if c == '\u200d' then some (0, .joinedEmoji)
    else none
  | .regionalIndicator =>
    if isRegionalIndicator c then some (1, .regionalIndicators) else none
  | .regionalIndicators =>
    if isRegionalIndicator c then some (1, .regionalIndicators)
    else if c == '\u200d' then some (0, .joinedEmoji)
    else none
  | .joinedEmoji =>
    if c == '\u20e3' then some (0, .joinedKeycap)
    else if isRegionalIndicator c then some (1, .joinedRegionalIndicator)
    else if isSkinTone c then some (0, .skinTone)
    else if c.toNat == 0xE007F then some (0, .tagEnd)
    else if emojiPresentations.contains c then some (0, .emoji)
    else none
  | .joinedRegionalIndicator =>
    if isRegionalIndicator c then some (-1, .joinedRegionalPairs) else none
  | .joinedOddRegionals =>
    if isRegionalIndicator c then some (-1, .joinedRegionalPairs)
    else if c == '\u200d' then some (0, .joinedEmoji)
    else none
  | .joinedRegionalPairs =>
    if isRegionalIndicator c then some (3, .joinedOddRegionals)
    else if c == '\u200d' then some (0, .joinedEmoji)
    else none
  | .tagEnd =>
    if isTagLetter c then some (0, .tagLetters 1)
    else if isTagDigit c then some (0, .tagDigits 1)
    else none
  | .tagLetters n =>
    if n < 6 && isTagLetter c then some (0, .tagLetters (n + 1))
    else if n < 5 && isTagDigit c then some (0, .tagDigits 1)
    else if 3 ≤ n && c == '🏴' then some (0, .emoji)
    else none
  | .tagDigits n =>
    if n < 3 && isTagDigit c then some (0, .tagDigits (n + 1))
    else if n == 3 && c == '🏴' then some (0, .emoji)
    else none
  | _ => none

/-- The width that a character beyond U+00A0 adds before `next`, once an emoji selector in front of
`next` has been dealt with. -/
def precedeWide (c : Char) (next : Following) : Int × Following :=
  let alone := ((charWidth c : Int), startsWith c)
  if next = .nothing then alone
  else if c == '\ufe0f' then (0, next.select .emoji)
  else if c == '\ufe0e' then (0, next.select .text)
  else if c == '\ufe01' then (0, next.select .fullWidth)
  else if next.selector = some .text && textVariationBases.contains c then (1, .nothing)
  else if next.selector = some .fullWidth && ['‘', '’', '“', '”'].contains c then (2, .nothing)
  else
    let next := if next.selector = none then next else next.unselect
    if next.context.isLigature && next.context != .alef && c == '\u200d' then
      (0, .of next.context.join)
    else if next.context.isLigature && next.context != .alef && isLigatureTransparent c then
      (0, next)
    else
      match combine c next.context with
      | some (width, context) => (width, .of context)
      | none => alone

/-- The width that `c` adds in front of a text that starts as `next` says, and how the longer text
starts. An emoji selector widens the character before it; a carriage return adds nothing before a
line feed. -/
def precede (c : Char) (next : Following) : Int × Following :=
  if next.selector = some .emoji && emojiVariationBases.contains c then
    (if next.context = .joinedEmoji || next.context = .joinedKeycap then 0 else 2, .of .emoji)
  else
    let next := if next.selector = some .emoji then next.unselect else next
    if c ≤ '\u00a0' then
      if c == '\n' then (1, .of .lineFeed)
      else if c == '\r' && next = .of .lineFeed then (0, .nothing)
      else (1, .nothing)
    else precedeWide c next

/-- The columns that a text takes on a line. -/
def displayWidth (s : List Char) : Nat :=
  let total := s.foldr (fun c (acc : Int × Following) =>
    let (width, next) := precede c acc.2
    (acc.1 + width, next)) (0, Following.nothing)
  total.1.toNat

end FlowchartLayout
