import TestSpec.Json.Source
import TestSpec.Options
import TestSpec.Text.Quoted

/-!
# Why a document is refused

A text is refused because it is no JSON, or because a part of it has not the shape
that the document needs there.
-/

namespace TestSpec.Json

/-- The words for what a text was found to hold. -/
def Found.text : Found → String
  | .null => "null"
  | .boolean b => "boolean `" ++ compact (.boolean b) ++ "`"
  | .integer i => "integer `" ++ compact (.integer i) ++ "`"
  | .real x => "floating point `" ++ compact (.real x) ++ "`"
  | .string s => "string " ++ Text.shown s
  | .sequence => "sequence"
  | .map => "map"
  | .bareVariant => "unit variant"

/-- Why a text holds no document. -/
inductive Refusal where
  /-- The text is no JSON where it was read, or a value in it cannot be read. -/
  | malformed
  | missingField (name : String)
  | duplicateField (name : String)
  | unknownVariant (name : String) (known : List String)
  | wrongType (found : Found) (expected : String)
  | wrongValue (found : Found) (expected : String)
  | wrongLength (length : Nat) (expected : String)
  /-- A switch is neither a truth value nor a string. -/
  | noSwitch
  | unknownSwitch (word : String)
  | unknownSeverity (word : String)
  deriving DecidableEq, Repr

/-- A name between backticks. -/
def ticked (name : String) : String := "`" ++ name ++ "`"

/-- The variants that would have been known. -/
def knownText : List String → String
  | [] => "there are no variants"
  | [a] => "expected " ++ ticked a
  | [a, b] => "expected " ++ ticked a ++ " or " ++ ticked b
  | known => "expected one of " ++ ", ".intercalate (known.map ticked)

/-- The text of a refusal; a text that is no JSON has none of its own. -/
def Refusal.message : Refusal → String
  | .malformed => ""
  | .missingField name => "missing field " ++ ticked name
  | .duplicateField name => "duplicate field " ++ ticked name
  | .unknownVariant name known => "unknown variant " ++ ticked name ++ ", " ++ knownText known
  | .wrongType found expected => "invalid type: " ++ found.text ++ ", expected " ++ expected
  | .wrongValue found expected => "invalid value: " ++ found.text ++ ", expected " ++ expected
  | .wrongLength length expected =>
    "invalid length " ++ toString length ++ ", expected " ++ expected
  | .noSwitch => "data did not match any variant of untagged enum BoolOrString"
  | .unknownSwitch word =>
    "invalid boolean value: '" ++ word ++ "'. Expected true, false, 'true', or 'false'"
  | .unknownSeverity word => Severity.unknownMessage word

end TestSpec.Json
