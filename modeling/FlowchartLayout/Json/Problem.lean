import FlowchartLayout.Named
import FlowchartLayout.Text.Quoted

/-!
# Problems of documents

Why a document is refused. The first problem in the order of the text counts.

## Main definitions

- `Problem` — the causes
- `Category`, `Problem.category` — their classes
- `Problem.message` — their wording
-/

namespace FlowchartLayout

/-- What stands in a document where something else is expected. -/
inductive Found where
  | null
  | bool (b : Bool)
  | integer (numeral : String)
  | real (numeral : String)
  | text (s : String)
  | array
  | object
  deriving DecidableEq

/-- Why a document is refused. -/
inductive Problem where
  /-- The text ends where a value should be, or within one. -/
  | endInValue
  | endInObject
  | endInArray
  | endInString
  /-- No value starts here. -/
  | noValue
  /-- A word that starts like `null`, `true` or `false` goes on differently. -/
  | misspeltWord
  | noColon
  | noCommaOrBrace
  | noCommaOrBracket
  | trailingComma
  | trailingCharacters
  | keyNotString
  | badNumber
  | numberOutOfRange
  | badEscape
  | controlCharacter
  /-- An escape for half of a character whose other half is missing. -/
  | loneSurrogate
  /-- A leading half of a character without another escape after it. -/
  | unfinishedSurrogate
  | repeatedField (name : String)
  | missingField (name : String)
  | unknownName (name : String) (names : List String)
  | badColor (text : String)
  | mismatch (found : Found) (expected : String)
  /-- An array is too short for the record that it stands for. -/
  | tooShort (length : Nat) (record : String) (fields : Nat)
  deriving DecidableEq

/-- Whether a document is malformed, does not describe a flowchart, or ends too early. -/
inductive Category where
  | malformed
  | unsuitable
  | truncated
  deriving DecidableEq

instance : Named Category where
  values := [.malformed, .unsuitable, .truncated]
  name
    | .malformed => "syntax"
    | .unsuitable => "data"
    | .truncated => "eof"

/-- The text of a found thing in a message. -/
def Found.message : Found → String
  | null => "null"
  | bool b => "boolean `" ++ (if b then "true" else "false") ++ "`"
  | integer numeral => "integer `" ++ numeral ++ "`"
  | real numeral => "floating point `" ++ numeral ++ "`"
  | text s => "string " ++ quoted s
  | array => "sequence"
  | object => "map"

namespace Problem

def category : Problem → Category
  | endInValue | endInObject | endInArray | endInString => .truncated
  | repeatedField _ | missingField _ | unknownName .. | badColor _ | mismatch .. | tooShort .. =>
    .unsuitable
  | _ => .malformed

def message : Problem → String
  | endInValue => "EOF while parsing a value"
  | endInObject => "EOF while parsing an object"
  | endInArray => "EOF while parsing a list"
  | endInString => "EOF while parsing a string"
  | noValue => "expected value"
  | misspeltWord => "expected ident"
  | noColon => "expected `:`"
  | noCommaOrBrace => "expected `,` or `\x7d`"
  | noCommaOrBracket => "expected `,` or `]`"
  | trailingComma => "trailing comma"
  | trailingCharacters => "trailing characters"
  | keyNotString => "key must be a string"
  | badNumber => "invalid number"
  | numberOutOfRange => "number out of range"
  | badEscape => "invalid escape"
  | controlCharacter =>
    "control character (\\u0000-\\u001F) found while parsing a string"
  | loneSurrogate => "lone leading surrogate in hex escape"
  | unfinishedSurrogate => "unexpected end of hex escape"
  | repeatedField name => "duplicate field `" ++ name ++ "`"
  | missingField name => "missing field `" ++ name ++ "`"
  | unknownName name names =>
    "unknown variant `" ++ name ++ "`, expected one of " ++
      ", ".intercalate (names.map fun n => "`" ++ n ++ "`")
  | badColor text => "invalid color `" ++ text ++ "`"
  | mismatch found expected => "invalid type: " ++ found.message ++ ", expected " ++ expected
  | tooShort length record fields =>
    "invalid length " ++ toString length ++ ", expected " ++ record ++ " with " ++
      toString fields ++ " elements"

end Problem

end FlowchartLayout
