import TestSpec.Options
import TestSpec.Report.Text

/-!
# The command line

The command line names one document and sets options, each at most once.  An option
takes its value after an equals sign or as the next argument.  Such a next argument
is looked at only when the option is settled, which happens when another option
begins, when help or the version is asked for, or at the end of the line; an argument
that is unknown is told before that.  After `--` every argument is a document.
-/

namespace TestSpec.CommandLine

/-- The formats of the report. -/
inductive OutputFormat where
  | text
  | json
  deriving DecidableEq, Repr

/-- The options that take a value. -/
inductive Setting where
  | strictStructural
  | typeCompatibility
  | legacyMatching
  | format
  | pretty
  deriving DecidableEq, Repr

/-- What a command line says. -/
structure Arguments where
  document : Option String := none
  options : PartialOptions := {}
  format : OutputFormat := .text
  /-- Use colour in text; when it is not said, a terminal gets colour. -/
  isPretty : Option Bool := none
  deriving DecidableEq, Repr

/-- Why a command line starts no run. -/
inductive Interruption where
  | invalidValue (setting : Setting) (value : Option String)
  | unknownArgument (text : String)
  | repeatedOption (setting : Setting)
  /-- A value for a flag that takes none. -/
  | strayValue (flag : String)
  | noDocument
  | help
  | version
  deriving DecidableEq, Repr

namespace Setting

/-- The names of an option, the usual one first. -/
def names : Setting → List String
  | .strictStructural => ["strictStructural", "strict-structural"]
  | .typeCompatibility => ["typeCompatibility", "type-compatibility"]
  | .legacyMatching => ["legacyMatching", "legacy-matching"]
  | .format => ["format"]
  | .pretty => ["pretty"]

/-- All options. -/
def all : List Setting := [.strictStructural, .typeCompatibility, .legacyMatching, .format, .pretty]

/-- The option with a name. -/
def ofName? (name : String) : Option Setting := all.find? fun s => s.names.contains name

end Setting

/-- A truth value on the command line. -/
def truthOfWord? : String → Option Bool
  | "true" => some true
  | "false" => some false
  | _ => none

/-- A severity on the command line, in any case. -/
def severityOfWord? (word : String) : Option Severity :=
  match String.ofList (word.toList.map Char.toLower) with
  | "ignore" => some .ignore
  | "warning" => some .warning
  | "error" => some .error
  | _ => none

/-- A format on the command line. -/
def formatOfWord? : String → Option OutputFormat
  | "text" => some .text
  | "json" => some .json
  | _ => none

/-- The arguments with an option set; nothing if the value is none for the option. -/
def Arguments.set? (a : Arguments) (value : String) : Setting → Option Arguments
  | .strictStructural => (truthOfWord? value).map fun b =>
    { a with options := { a.options with strictStructural := some b } }
  | .typeCompatibility => (severityOfWord? value).map fun s =>
    { a with options := { a.options with typeCompatibility := some s } }
  | .legacyMatching => (truthOfWord? value).map fun b =>
    { a with options := { a.options with legacyMatching := some b } }
  | .format => (formatOfWord? value).map fun f => { a with format := f }
  | .pretty => (truthOfWord? value).map fun b => { a with isPretty := some b }

/-- How far a command line has been read: the options that are settled, and one that is not. -/
structure Progress where
  arguments : Arguments := {}
  settled : List Setting := []
  pending : Option (Setting × Option String) := none

namespace Progress

/-- Set an option that was not set before. -/
def set (p : Progress) (setting : Setting) (value : String) : Except Interruption Progress :=
  if p.settled.contains setting then .error (.repeatedOption setting)
  else match p.arguments.set? value setting with
    | none => .error (.invalidValue setting (some value))
    | some arguments => .ok { p with arguments, settled := setting :: p.settled }

/-- Settle the option that is pending. -/
def settle (p : Progress) : Except Interruption Progress :=
  match p.pending with
  | none => .ok p
  | some (setting, none) => .error (.invalidValue setting none)
  | some (setting, some value) => { p with pending := none }.set setting value

/-- Take an argument that is no option: the document. -/
def operand (p : Progress) (text : String) : Except Interruption Progress :=
  match p.arguments.document with
  | some _ => .error (.unknownArgument text)
  | none => do
    let p ← p.settle
    return { p with arguments := { p.arguments with document := some text } }

/-- Take an option by its long name, with the value behind its equals sign. -/
def option (p : Progress) (name : String) (value : Option String) :
    Except Interruption Progress :=
  match Setting.ofName? name, value with
  | some setting, some value => do (← p.settle).set setting value
  | some setting, none => do return { ← p.settle with pending := some (setting, none) }
  | none, value =>
    if name != "help" && name != "version" then .error (.unknownArgument ("--" ++ name))
    else if value.isSome then .error (.strayValue name)
    else do
      let _ ← p.settle
      .error (if name = "help" then .help else .version)

/-- Take flags of one letter, of which the first decides. -/
def flags (p : Progress) (letter : Char) : Except Interruption Progress :=
  if letter != 'h' && letter != 'V' then .error (.unknownArgument ("-" ++ letter.toString))
  else do
    let _ ← p.settle
    .error (if letter = 'h' then .help else .version)

/-- Take an argument that does not begin as an option: the value that is awaited, or else the
document. -/
def plain (p : Progress) (text : String) : Except Interruption Progress :=
  match p.pending with
  | some (setting, none) => .ok { p with pending := some (setting, some text) }
  | _ => p.operand text

/-- Take one argument. -/
def argument (p : Progress) (text : String) : Except Interruption Progress :=
  match text.toList with
  | '-' :: '-' :: long =>
    let value := match long.dropWhile (· != '=') with
      | [] => none
      | _ :: value => some (String.ofList value)
    p.option (String.ofList (long.takeWhile (· != '='))) value
  | '-' :: letter :: _ => p.flags letter
  | _ => p.plain text

/-- Take all arguments. -/
def takeAll (p : Progress) : List String → Except Interruption Progress
  | [] => .ok p
  | text :: rest => do
    if text = "--" then rest.foldlM operand p
    else (← p.argument text).takeAll rest

end Progress

/-- What a list of arguments says. -/
def parse (arguments : List String) : Except Interruption Arguments := do
  let p ← (← Progress.takeAll {} arguments).settle
  if p.arguments.document.isNone then .error .noDocument else return p.arguments

/-- The text of a report in the format asked for. -/
def Arguments.output (a : Arguments) (isTerminal : Bool) (r : Report) : String :=
  match a.format with
  | .json => r.toJson.pretty
  | .text => r.render Style.apply (a.isPretty.getD isTerminal)

/-! ### Messages -/

/-- The line that shows how the program is used. -/
def usage : String := "Usage: testspec [OPTIONS] <DOCUMENT>"

/-- The text for a command line that starts no run. -/
def Interruption.message : Interruption → String
  | .invalidValue setting none =>
    "error: a value is required for '--" ++ setting.names.headD "" ++ "' but none was supplied"
  | .invalidValue setting (some value) =>
    "error: invalid value '" ++ value ++ "' for '--" ++ setting.names.headD "" ++ "'"
  | .unknownArgument text => "error: unexpected argument '" ++ text ++ "' found"
  | .repeatedOption setting =>
    "error: the argument '--" ++ setting.names.headD "" ++ "' cannot be used multiple times"
  | .strayValue flag => "error: unexpected value for '--" ++ flag ++ "'; no more were expected"
  | .noDocument => "error: the following required arguments were not provided:\n  <DOCUMENT>"
  | .help =>
    "\n".intercalate [
      "Type compatibility checks and template matching for TTCN-3 / ASN.1 check documents", "",
      usage, "",
      "Arguments:", "  <DOCUMENT>  Check document (JSON) to run", "",
      "Options:",
      "      --strictStructural <true|false>",
      "      --typeCompatibility <ignore|warning|error>",
      "      --legacyMatching <true|false>",
      "      --format <text|json>",
      "      --pretty <true|false>",
      "  -h, --help",
      "  -V, --version"]
  | .version => "testspec 0.1.0"

/-- Help and the version were asked for; everything else is a mistake. -/
def Interruption.isMistake : Interruption → Bool
  | .help | .version => false
  | _ => true

end TestSpec.CommandLine
