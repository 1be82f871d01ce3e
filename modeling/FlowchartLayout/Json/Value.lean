import FlowchartLayout.Json.Token

/-!
# JSON values

A value is kept as far as it was read. Where the text breaks off or goes wrong, the value says how,
because readers disagree on what is wrong there: one that wants a record, one that wants a name and
one that passes over the value each look for something else.

## Main definitions

- `Json` — a value
- `Fault`, `Ending` — how an array or object ends
- `Json.skipProblem?` — what a reader notices that passes over the value
- `Json.Reading` — a value in the course of being read, token by token
- `Json.read`, `Json.ofText` — the value of a text
-/

namespace FlowchartLayout

namespace Json

/-- Why an array or object does not end with its bracket. -/
inductive Fault where
  | endOfText
  /-- Something follows an item or member without a comma. -/
  | unseparated
  /-- The token does not go with the comma before it. -/
  | afterComma (next : Option Token)
  /-- The token stands where the first key should be. -/
  | noKey (t : Token)
  /-- The last item or member is broken itself. -/
  | inside

/-- The end of an array or object. -/
inductive Ending where
  | closed
  | broken (fault : Fault) (asSkipped : Problem)

end Json

/-- A JSON value as far as it was read. -/
inductive Json where
  | null
  | bool (b : Bool)
  | number (n : Numeral)
  | string (l : Json.Literal)
  | array (items : List Json) (ending : Json.Ending)
  /-- The members in the order of the text, repeated keys included. -/
  | object (members : List (Json.Literal × Json)) (ending : Json.Ending)
  | broken (b : Json.Break)

namespace Json

def Ending.problem? : Ending → Option Problem
  | closed => none
  | broken _ p => some p

/-- The problem that a reader meets who passes over the value, if any. -/
def skipProblem? : Json → Option Problem
  | array _ e | object _ e => e.problem?
  | broken b => some b.asSkipped
  | _ => none

/-! ## Reading -/

/-- An array or object around the place of reading: what it holds so far, the last one first. -/
inductive Frame where
  | array (items : List Json)
  | object (members : List (Literal × Json)) (key : Literal)

/-- The whole value, given that a part of it is broken, which breaks everything around that part.
A reader that passes over it meets the problem `p`. -/
def abandon (p : Problem) (part : Json) : List Frame → Json
  | [] => part
  | .array items :: outer => abandon p (array (part :: items).reverse (.broken .inside p)) outer
  | .object members key :: outer =>
    abandon p (object ((key, part) :: members).reverse (.broken .inside p)) outer

/-- The whole value, given that a value in it cannot be read. -/
def breakValue (b : Break) (outer : List Frame) : Json :=
  abandon b.asSkipped (.broken b) outer

/-- The whole value, given that an array in it ends without its bracket. -/
def breakArray (fault : Fault) (p : Problem) (items : List Json) (outer : List Frame) : Json :=
  abandon p (array items.reverse (.broken fault p)) outer

/-- The whole value, given that an object in it ends without its brace. -/
def breakObject (fault : Fault) (p : Problem) (members : List (Literal × Json))
    (outer : List Frame) : Json :=
  abandon p (object members.reverse (.broken fault p)) outer

/-- The whole value, given that a key in it cannot be read. -/
def breakKey (b : Break) (members : List (Literal × Json)) (outer : List Frame) : Json :=
  breakValue b (.object members (.error b.asValue) :: outer)

/-- A value in the course of being read. Each state says what comes next within the arrays and
objects around it, the innermost first. -/
inductive Reading where
  | value (outer : List Frame)
  | firstItem (outer : List Frame)
  | nextItem (items : List Json) (outer : List Frame)
  | afterItem (items : List Json) (outer : List Frame)
  | firstKey (outer : List Frame)
  | nextKey (members : List (Literal × Json)) (outer : List Frame)
  | colon (members : List (Literal × Json)) (key : Literal) (outer : List Frame)
  | afterMember (members : List (Literal × Json)) (outer : List Frame)
  /-- The value is read. -/
  | done (j : Json)
  /-- The value is read, and a token has followed it. -/
  | followed (j : Json)

namespace Reading

/-- The reading after the last token of a value. -/
def complete (j : Json) : List Frame → Reading
  | [] => done j
  | .array items :: outer => afterItem (j :: items) outer
  | .object members key :: outer => afterMember ((key, j) :: members) outer

/-- The reading after the first token of a value. -/
def startValue (outer : List Frame) : Token → Reading
  | .openBrace => firstKey outer
  | .openBracket => firstItem outer
  | .null => complete .null outer
  | .bool b => complete (.bool b) outer
  | .number n => complete (.number n) outer
  | .string l => complete (.string l) outer
  | .brokenString b | .broken b => done (breakValue b outer)
  | .closeBrace | .closeBracket | .colon | .comma => done (breakValue (.uniform .noValue) outer)

/-- The reading after one more token. -/
def step : Reading → Token → Reading
  | value outer, t => startValue outer t
  | firstItem outer, .closeBracket => complete (.array [] .closed) outer
  | firstItem outer, t => startValue (.array [] :: outer) t
  | nextItem items outer, .closeBracket =>
    done (breakArray (.afterComma (some .closeBracket)) .noValue items outer)
  | nextItem items outer, t => startValue (.array items :: outer) t
  | afterItem items outer, .comma => nextItem items outer
  | afterItem items outer, .closeBracket => complete (.array items.reverse .closed) outer
  | afterItem items outer, _ => done (breakArray .unseparated .noCommaOrBracket items outer)
  | firstKey outer, .closeBrace => complete (.object [] .closed) outer
  | firstKey outer, .string key => colon [] key outer
  | firstKey outer, .brokenString b => done (breakKey b [] outer)
  | firstKey outer, t => done (breakObject (.noKey t) .keyNotString [] outer)
  | nextKey members outer, .string key => colon members key outer
  | nextKey members outer, .brokenString b => done (breakKey b members outer)
  | nextKey members outer, t =>
    done (breakObject (.afterComma (some t)) .keyNotString members outer)
  | colon members key outer, .colon => value (.object members key :: outer)
  | colon members key outer, _ =>
    done (breakValue (.uniform .noColon) (.object members key :: outer))
  | afterMember members outer, .comma => nextKey members outer
  | afterMember members outer, .closeBrace => complete (.object members.reverse .closed) outer
  | afterMember members outer, _ => done (breakObject .unseparated .noCommaOrBrace members outer)
  | done j, _ | followed j, _ => followed j

/-- The value that was read by the end of the text, and whether more of the text follows it. -/
def result : Reading → Json × Bool
  | value outer => (breakValue (.uniform .endInValue) outer, false)
  | firstItem outer => (breakArray .endOfText .endInArray [] outer, false)
  | nextItem items outer => (breakValue (.uniform .endInValue) (.array items :: outer), false)
  | afterItem items outer => (breakArray .endOfText .endInArray items outer, false)
  | firstKey outer => (breakObject .endOfText .endInObject [] outer, false)
  | nextKey members outer => (breakObject (.afterComma none) .endInObject members outer, false)
  | colon members key outer =>
    (breakValue (.uniform .endInObject) (.object members key :: outer), false)
  | afterMember members outer => (breakObject .endOfText .endInObject members outer, false)
  | done j => (j, false)
  | followed j => (j, true)

end Reading

/-- The value at the start of some tokens, and whether more of them follow it. -/
def read (ts : List Token) : Json × Bool :=
  (ts.foldl Reading.step (.value [])).result

/-- The value at the start of a text, and whether more than blanks follows it. -/
def ofText (s : List Char) : Json × Bool :=
  read (tokens s)

end Json

end FlowchartLayout
