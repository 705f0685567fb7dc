import TestSpec.Json.Refusal
import TestSpec.MatchError
import TestSpec.Pattern.Match
import TestSpec.Store.Resolve

/-!
# Why a document cannot be run

A document of the right shape can still not be run if its declarations, values or
templates make no sense.  A failure has a cause and says where it arose; its text is
the text of the place, a colon, and the text of the cause.
-/

namespace TestSpec.Document

/-- What JSON must be used to write a value of a type. -/
inductive ValueForm where
  | null
  | boolean
  | integer
  | number
  | string
  | components
  | object
  | array
  deriving DecidableEq, Repr

/-- The words for a form. -/
def ValueForm.words : ValueForm → String
  | .null => "NULL"
  | .boolean => "a boolean"
  | .integer => "an integer"
  | .number => "a number"
  | .string => "a string"
  | .components => "an array of components"
  | .object => "an object"
  | .array => "an array"

/-- Where in a document a failure arose. -/
inductive Site where
  | constraintOf (type : String)
  | check (label : String)
  | templateOf (label : String)
  | valueOf (label : String)
  | valueRange
  | lengthRestriction
  deriving DecidableEq, Repr

/-- The words for a place in a document. -/
def Site.words : Site → String
  | .constraintOf type => "in the subtype of `" ++ type ++ "'"
  | .check label => "in check `" ++ label ++ "'"
  | .templateOf label => "in the template of `" ++ label ++ "'"
  | .valueOf label => "in the value of `" ++ label ++ "'"
  | .valueRange => "invalid value range"
  | .lengthRestriction => "a length restriction is a number or \x7b\"min\": .., \"max\": ..\x7d"

/-- Why a document cannot be run. -/
inductive Failure where
  | refused (refusal : Json.Refusal)
  | unresolved (error : ResolveError)
  | contradictory (error : MatchError)
  | badPattern (text : String) (fault : Pattern.Fault)
  /-- An alias is given a kind too. -/
  | aliasWithKind (type : String) (kind : Kind)
  | noKind (type : String)
  | noLiteral (json : Json)
  | unknownType (name : String)
  | unexpected (form : ValueForm) (type : String)
  | badComponent (json : Json)
  | noField (type field : String)
  | noAlternative (type alternative : String)
  | noElementType (type : String)
  | noList (type : String)
  | valueAlternatives (type : String)
  | templateAlternatives (type : String)
  | unwritable (kind : Kind)
  | badVerdict (word : String)
  | badBit (digit : Char) (text : String)
  | badHexDigit (digit : Char) (text : String)
  | oddDigits (text : String)
  | noMechanism (type : String)
  | manyMechanisms (type : String)
  | unknownMechanism (name : String)
  | patternForm
  | decodedType
  | decodedTemplate
  | elementsForm
  | listForm
  /-- A failure at some place in the document. -/
  | within (site : Site) (cause : Failure)

/-- A text between the quotes that names have in messages. -/
def nameQuoted (name : String) : String := "`" ++ name ++ "'"

/-- A text between double quotes. -/
def textQuoted (text : String) : String := "\"" ++ text ++ "\""

/-- The text of a failure. -/
def Failure.message : Failure → String
  | .refused refusal => refusal.message
  | .unresolved error => error.message
  | .contradictory error => error.message
  | .badPattern text fault => Pattern.invalidMessage text fault
  | .aliasWithKind type kind =>
    "type " ++ nameQuoted type ++ " is an alias and cannot also be of kind " ++
      nameQuoted kind.keyword
  | .noKind type => "type " ++ nameQuoted type ++ " needs either `kind' or `aliasOf'"
  | .noLiteral json => nameQuoted json.compact ++ " cannot be used in a subtype constraint"
  | .unknownType name => "unknown type " ++ nameQuoted name
  | .unexpected form type => "expected " ++ form.words ++ " for type " ++ nameQuoted type
  | .badComponent json => "invalid component " ++ nameQuoted json.compact
  | .noField type field => "type " ++ nameQuoted type ++ " has no field " ++ nameQuoted field
  | .noAlternative type alternative =>
    "type " ++ nameQuoted type ++ " has no alternative " ++ nameQuoted alternative
  | .noElementType type => "type " ++ nameQuoted type ++ " has no element type"
  | .noList type => "type " ++ nameQuoted type ++ " is not a list type"
  | .valueAlternatives type =>
    "a value of union type " ++ nameQuoted type ++ " names exactly one alternative"
  | .templateAlternatives type =>
    "a union template for type " ++ nameQuoted type ++ " names exactly one alternative"
  | .unwritable kind =>
    "values of kind " ++ nameQuoted kind.keyword ++ " cannot be written in a check document"
  | .badVerdict word => "unknown verdict " ++ nameQuoted word
  | .badBit digit text =>
    "invalid bit " ++ nameQuoted digit.toString ++ " in " ++ textQuoted text
  | .badHexDigit digit text =>
    "invalid hex digit " ++ nameQuoted digit.toString ++ " in " ++ textQuoted text
  | .oddDigits text => "octetstring " ++ textQuoted text ++ " has an odd number of hex digits"
  | .noMechanism type =>
    "template for type " ++ nameQuoted type ++ " has modifiers but no matching mechanism"
  | .manyMechanisms type =>
    "template for type " ++ nameQuoted type ++ " names more than one matching mechanism"
  | .unknownMechanism name => "unknown matching mechanism " ++ nameQuoted name
  | .patternForm => "a pattern is written as a string"
  | .decodedType => "decmatch needs the `type' to decode into"
  | .decodedTemplate => "decmatch needs a `template' for the decoded value"
  | .elementsForm => "`elements' is written as an array"
  | .listForm => "a template list is written as an array"
  | .within site cause => site.words ++ ": " ++ cause.message

/-- Say of a failure where it arose. -/
def locate {α : Type} (site : Site) (r : Except Failure α) : Except Failure α :=
  r.mapError (.within site)

end TestSpec.Document
