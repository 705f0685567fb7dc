import TestSpec.Value.Basic
import TestSpec.Text.Hex

/-!
# The text of values

Values are printed in the notation of the test specification language: strings of
binary digits between single quotes with a letter behind, records and lists between
braces, omitted fields as `omit`.  A whole real keeps `.0` and all its digits.
-/

namespace TestSpec

/-- The text of a real. -/
def Binary64.render (x : Binary64) : String :=
  if x.isIntegral then Decimal.exactWhole x else Decimal.Layout.plain.render x

/-- Digits between single quotes, with a letter behind. -/
def quotedDigits (digits : List Char) (letter : String) : String :=
  "'" ++ String.ofList digits ++ "'" ++ letter

/-- The digit of a bit. -/
def bitDigit (b : Bool) : Char := if b then '1' else '0'

/-- The text of content without parts. -/
def Scalar.render : Scalar → String
  | .null => "NULL"
  | .boolean b => if b then "true" else "false"
  | .integer i => toString i.toInt
  | .real x => x.render
  | .verdict v => v.word
  | .bits digits => quotedDigits (digits.map bitDigit) "B"
  | .nibbles digits => quotedDigits (digits.map Text.upperHexDigit) "H"
  | .octets raw => quotedDigits (raw.flatMap Text.upperHexOctet) "O"
  | .text s => "\"" ++ s ++ "\""
  | .enumerated name _ => name
  | .objectId components =>
    "objid \x7b" ++ String.join (components.map fun c => " " ++ toString c) ++ " \x7d"

/-- Texts between braces with commas between them. -/
def braced (texts : List String) : String :=
  if texts.isEmpty then "\x7b \x7d" else "\x7b " ++ ", ".intercalate texts ++ " \x7d"

/-- The text of a part under its name. -/
def assigned (name text : String) : String := name ++ " := " ++ text

namespace Value

mutual

/-- The text of a value. -/
def render : Value → String
  | .unbound _ => "<unbound>"
  | .scalar _ content => content.render
  | .record _ fields => braced (renderFields fields)
  | .union _ alternative value => braced [assigned alternative (render value)]
  | .list _ elements => braced (renderElements elements)

/-- The texts of the fields of a record. -/
def renderFields : List FieldValue → List String
  | [] => []
  | .present name value :: rest => assigned name (render value) :: renderFields rest
  | .omitted name :: rest => assigned name "omit" :: renderFields rest

/-- The texts of the elements of a list. -/
def renderElements : List Value → List String
  | [] => []
  | value :: rest => render value :: renderElements rest

end

end Value

end TestSpec
