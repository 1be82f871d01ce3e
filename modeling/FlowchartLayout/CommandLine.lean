import FlowchartLayout.Flowchart.Document
import FlowchartLayout.Layout.Source
import FlowchartLayout.Number.Reading

/-!
# Command line

The program reads a source text from a file or from standard input and prints the document of its
layout.

## Main definitions

- `Setting`, `Options` — what can be asked for
- `Options.ofArgs?` — the options of some arguments
- `Outcome`, `Options.run` — what the program prints, and how it exits
-/

namespace FlowchartLayout

/-! ## Options -/

/-- An option with a number for its value. -/
inductive Setting where
  | width
  | height
  | nodeSpacing
  | rankSpacing
  | subgraphPadding
  | fontSize
  deriving DecidableEq

namespace Setting

def name : Setting → String
  | width => "width"
  | height => "height"
  | nodeSpacing => "node-spacing"
  | rankSpacing => "rank-spacing"
  | subgraphPadding => "subgraph-padding"
  | fontSize => "font-size"

instance : Named Setting where
  values := [width, height, nodeSpacing, rankSpacing, subgraphPadding, fontSize]
  name := name

/-- The setting with a short name of one letter. -/
def ofLetter? : Char → Option Setting
  | 'w' => some width
  | 'H' => some height
  | _ => none

end Setting

/-- The options of a run. -/
structure Options where
  settings : List (Setting × Float32) := []
  indented : Bool := false
  file : Option String := none

namespace Options

def setting? (o : Options) (s : Setting) : Option Float32 :=
  o.settings.lookup s

/-- The options with a setting read from its text. No setting is made twice. -/
def set? (o : Options) (s : Setting) (text : List Char) : Option Options :=
  match o.setting? s, readSingle? text with
  | none, some x => some { o with settings := (s, x) :: o.settings }
  | _, _ => none

/-- The options with a file to read. There is at most one, and its name is not empty. -/
def withFile? (o : Options) (name : List Char) : Option Options :=
  if name.isEmpty || o.file.isSome then none else some { o with file := String.ofList name }

/-- The options with a flag. Only asking for log lines may be repeated; it changes nothing here. -/
def withFlag? (o : Options) (name : String) : Option Options :=
  if name = "verbose" then some o
  else if name = "pretty" && !o.indented then some { o with indented := true }
  else none

def viewportWidth (o : Options) : Float32 :=
  (o.setting? .width).getD 800

def viewportHeight (o : Options) : Float32 :=
  (o.setting? .height).getD 600

def spacing (o : Options) : Spacing :=
  let default : Spacing := {}
  { node := (o.setting? .nodeSpacing).getD default.node
    rank := (o.setting? .rankSpacing).getD default.rank
    subgraphPadding := (o.setting? .subgraphPadding).getD default.subgraphPadding
    fontSize := (o.setting? .fontSize).getD default.fontSize }

end Options

/-! ## Arguments -/

/-- The options of the arguments so far. -/
structure ArgumentReader where
  options : Options := {}
  /-- A setting whose value is the next argument. -/
  awaiting : Option Setting := none
  /-- All further arguments are files. -/
  onlyFiles : Bool := false

namespace ArgumentReader

/-- Reads an option with a long name, without its two dashes. -/
def readLong? (o : Options) (arg : List Char) : Option ArgumentReader :=
  let name := String.ofList (arg.takeWhile (· != '='))
  match Named.ofName? name, arg.dropWhile (· != '=') with
  | some s, '=' :: text => (o.set? s text).map ({ options := · })
  | some s, _ => some { options := o, awaiting := some s }
  | none, [] => (o.withFlag? name).map ({ options := · })
  | none, _ => none

/-- Reads options with short names, without their dash. The text after the letter of a setting is
its value. -/
def readShort? (o : Options) : List Char → Option ArgumentReader
  | [] => some { options := o }
  | 'v' :: cs => readShort? o cs
  | c :: cs =>
    match Setting.ofLetter? c, cs with
    | some s, [] => some { options := o, awaiting := some s }
    | some s, '=' :: text | some s, text => (o.set? s text).map ({ options := · })
    | none, _ => none

/-- Reads one more argument. A value that is an argument of its own must not begin with a dash. -/
def readArgument? (r : ArgumentReader) (arg : List Char) : Option ArgumentReader :=
  if r.onlyFiles then (r.options.withFile? arg).map ({ r with options := · })
  else
    match r.awaiting, arg with
    | some _, '-' :: _ => none
    | some s, text => (r.options.set? s text).map ({ options := · })
    | none, ['-', '-'] => some { r with onlyFiles := true }
    | none, '-' :: '-' :: arg => readLong? r.options arg
    | none, '-' :: c :: cs => readShort? r.options (c :: cs)
    | none, name => (r.options.withFile? name).map ({ options := · })

end ArgumentReader

/-- The options of some arguments; none if the arguments are refused. -/
def Options.ofArgs? (args : List String) : Option Options :=
  match args.foldlM (fun r arg => r.readArgument? arg.toList) ({} : ArgumentReader) with
  | some ⟨o, none, _⟩ => some o
  | _ => none

/-! ## Runs -/

/-- Why an input cannot be read. -/
inductive InputFault where
  | noSuchFile
  | notUtf8
  deriving DecidableEq

/-- Why a run fails. -/
inductive Failure where
  /-- The file, or standard input, cannot be read. -/
  | unreadable (file : Option String) (fault : InputFault)
  | unusable (error : Error)
  deriving DecidableEq

def InputFault.message : InputFault → String
  | noSuchFile => "No such file or directory (os error 2)"
  | notUtf8 => "stream did not contain valid UTF-8"

def Failure.message : Failure → String
  | unreadable file fault => "failed to read " ++ file.getD "stdin" ++ ": " ++ fault.message
  | unusable error => error.message

/-- What a run comes to. -/
inductive Outcome where
  /-- The arguments are refused. -/
  | refused
  | failed (failure : Failure)
  | printed (document : String)

namespace Outcome

def exitCode : Outcome → Nat
  | printed _ => 0
  | failed _ => 1
  | refused => 2

def standardOutput : Outcome → String
  | printed document => document ++ "\n"
  | _ => ""

def standardError : Outcome → String
  | printed _ => ""
  | failed failure => "ERROR: " ++ failure.message ++ "\n"
  | refused => "ERROR: unusable arguments\n"

end Outcome

/-- The source text of a run, given the contents of files and of standard input. -/
def Options.source (o : Options) (contents? : String → Option ByteArray) (input : ByteArray) :
    Except Failure String :=
  match o.file.elim (some input) contents? with
  | none => .error (.unreadable o.file .noSuchFile)
  | some bytes =>
    match String.fromUTF8? bytes with
    | none => .error (.unreadable o.file .notUtf8)
    | some source => .ok source

/-- The outcome of a run with some options. -/
def Options.run (o : Options) (contents? : String → Option ByteArray) (input : ByteArray) :
    Outcome :=
  match o.source contents? input with
  | .error failure => .failed failure
  | .ok source =>
    match layoutSource source o.viewportWidth o.viewportHeight o.spacing with
    | .error error => .failed (.unusable error)
    | .ok fc => .printed (fc.document (if o.indented then .indented else .compact))

/-- The outcome of the program for some arguments. -/
def run (args : List String) (contents? : String → Option ByteArray) (input : ByteArray) :
    Outcome :=
  match Options.ofArgs? args with
  | some o => o.run contents? input
  | none => .refused

end FlowchartLayout
