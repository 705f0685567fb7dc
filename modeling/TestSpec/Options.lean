import TestSpec.Text.Blank

/-!
# Options of a run

Three switches change what is accepted, or how loudly it is reported.  A fourth
word, the format of log output, is only read.
-/

namespace TestSpec

/-- How the use of a structured value of another declaration is reported. -/
inductive Severity where
  | ignore
  | warning
  | error
  deriving DecidableEq, Repr

namespace Severity

/-- The word a severity is printed as. -/
def word : Severity → String
  | .ignore => "ignore"
  | .warning => "warning"
  | .error => "error"

/-- The severity that a word names, with some white space around it and in any case. -/
def ofWord? (s : String) : Option Severity :=
  match Text.keyword s with
  | "ignore" | "off" => some .ignore
  | "warning" | "warn" => some .warning
  | "error" => some .error
  | _ => none

/-- What is said of a word that names no severity. -/
def unknownMessage (s : String) : String :=
  "unknown severity `" ++ s ++ "' (expected ignore, warning or error)"

end Severity

/-- The switches of a run. -/
structure Options where
  /-- Compare structured types member by member instead of by declaration. -/
  strictStructural : Bool := false
  typeCompatibility : Severity := .warning
  /-- Let lists of templates accept omitted values, as they did before 2017. -/
  legacyMatching : Bool := false
  deriving DecidableEq, Repr

/-- Switches that may be left open. -/
structure PartialOptions where
  strictStructural : Option Bool := none
  typeCompatibility : Option Severity := none
  legacyMatching : Option Bool := none
  deriving DecidableEq, Repr

/-- The given switches, and the base ones where none is given. -/
def PartialOptions.over (given : PartialOptions) (base : Options) : Options :=
  { strictStructural := given.strictStructural.getD base.strictStructural
    typeCompatibility := given.typeCompatibility.getD base.typeCompatibility
    legacyMatching := given.legacyMatching.getD base.legacyMatching }

/-- The formats of log output. -/
inductive LogFormat where
  | text
  | tree
  | json
  deriving DecidableEq, Repr

namespace LogFormat

/-- The format that a word names; every other word means lines of text. -/
def ofWord (s : String) : LogFormat :=
  match Text.keyword s with
  | "tree" => .tree
  | "json" => .json
  | _ => .text

/-- The name of a format. -/
def name : LogFormat → String
  | .text => "Text"
  | .tree => "Tree"
  | .json => "Json"

end LogFormat

end TestSpec
