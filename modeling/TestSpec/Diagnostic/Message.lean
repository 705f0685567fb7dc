import TestSpec.Text.Placeholder

/-!
# The table of messages

Every complaint of the checks has a number, a category and a text with
placeholders.  Numbers 1001 and up concern the compatibility of types, 2001 and up
declarations, 3001 and up templates, and 4001 and up redirects of signature
parameters.  `Message.all` lists the table in the order of the numbers.

Braces are written by their code in this file: they stand around placeholders.
-/

namespace TestSpec

/-- How a diagnostic counts. -/
inductive Category where
  | warning
  | error
  /-- A remark that belongs to another diagnostic. -/
  | message
  deriving DecidableEq, Repr

/-- The word a category is printed as in a line of text. -/
def Category.word : Category → String
  | .warning => "warning"
  | .error => "error"
  | .message => "message"

/-- The word a category is listed as in structured output. -/
def Category.title : Category → String
  | .warning => "Warning"
  | .error => "Error"
  | .message => "Message"

/-- What a check may complain about. -/
inductive Message where
  | typeMismatch
  | signatureTemplateMismatch
  | incompatibleValue
  | typeCompatibility
  | structuredTypeMismatch
  | subtypeMismatch
  | subtypeNotApplicable
  | subtypeBoundsInverted
  | subtypeNotASubset
  | unresolvedReference
  | circularReference
  | duplicateField
  | duplicateEnumerator
  | emptySubtype
  | omitNotAllowed
  | ifPresentNotAllowed
  | rangeNotAllowed
  | patternNotAllowed
  | lengthNotAllowed
  | rangeBoundsInverted
  | lengthBoundsInverted
  | unknownField
  | unknownAlternative
  | elementCount
  | missingField
  | templateNotAllowed
  | unknownEnumerator
  | duplicateRedirect
  | redirectAlreadyGiven
  | signatureWithoutParameters
  | parameterIsIn
  | parameterIsOut
  | noSuchParameter
  | notASignature
  deriving DecidableEq, Repr

namespace Message

/-- The whole table, by number. -/
def all : List Message :=
  [.typeMismatch, .signatureTemplateMismatch, .incompatibleValue, .typeCompatibility,
   .structuredTypeMismatch, .subtypeMismatch,
   .subtypeNotApplicable, .subtypeBoundsInverted, .subtypeNotASubset, .unresolvedReference,
   .circularReference, .duplicateField, .duplicateEnumerator, .emptySubtype,
   .omitNotAllowed, .ifPresentNotAllowed, .rangeNotAllowed, .patternNotAllowed,
   .lengthNotAllowed, .rangeBoundsInverted, .lengthBoundsInverted, .unknownField,
   .unknownAlternative, .elementCount, .missingField, .templateNotAllowed, .unknownEnumerator,
   .duplicateRedirect, .redirectAlreadyGiven, .signatureWithoutParameters, .parameterIsIn,
   .parameterIsOut, .noSuchParameter, .notASignature]

/-- The number of a message. -/
def code : Message → Nat
  | .typeMismatch => 1001
  | .signatureTemplateMismatch => 1002
  | .incompatibleValue => 1003
  | .typeCompatibility => 1004
  | .structuredTypeMismatch => 1005
  | .subtypeMismatch => 1006
  | .subtypeNotApplicable => 2001
  | .subtypeBoundsInverted => 2002
  | .subtypeNotASubset => 2003
  | .unresolvedReference => 2004
  | .circularReference => 2005
  | .duplicateField => 2006
  | .duplicateEnumerator => 2007
  | .emptySubtype => 2008
  | .omitNotAllowed => 3001
  | .ifPresentNotAllowed => 3002
  | .rangeNotAllowed => 3003
  | .patternNotAllowed => 3004
  | .lengthNotAllowed => 3005
  | .rangeBoundsInverted => 3006
  | .lengthBoundsInverted => 3007
  | .unknownField => 3008
  | .unknownAlternative => 3009
  | .elementCount => 3010
  | .missingField => 3011
  | .templateNotAllowed => 3012
  | .unknownEnumerator => 3013
  | .duplicateRedirect => 4001
  | .redirectAlreadyGiven => 4002
  | .signatureWithoutParameters => 4003
  | .parameterIsIn => 4004
  | .parameterIsOut => 4005
  | .noSuchParameter => 4006
  | .notASignature => 4007

/-- Three messages warn; all others are errors. -/
def category : Message → Category
  | .typeCompatibility | .emptySubtype | .redirectAlreadyGiven => .warning
  | _ => .error

/-- The text of a message, with placeholders for its arguments. -/
def template : Message → String
  | .typeMismatch =>
    "Type mismatch: a \x7b0\x7d of type `\x7b1\x7d' was expected instead of `\x7b2\x7d'"
  | .signatureTemplateMismatch =>
    "Type mismatch: a signature template of type `\x7b0\x7d' was expected instead of `\x7b1\x7d'"
  | .incompatibleValue => "Incompatible value: `\x7b0\x7d' was expected"
  | .typeCompatibility => "Type compatibility between `\x7b0\x7d' and `\x7b1\x7d'"
  | .structuredTypeMismatch => "\x7b0\x7d"
  | .subtypeMismatch => "\x7b0\x7d"
  | .subtypeNotApplicable =>
    "TTCN-3 subtype constraints are not applicable to type `\x7b0\x7d'"
  | .subtypeBoundsInverted =>
    "The lower boundary `\x7b0\x7d' is greater than the upper boundary `\x7b1\x7d'"
  | .subtypeNotASubset =>
    "The subtype restriction \x7b0\x7d of type `\x7b1\x7d' is not a subset of the restriction \x7b2\x7d of its parent type `\x7b3\x7d'"
  | .unresolvedReference => "There is no local or imported definition with name `\x7b0\x7d'"
  | .circularReference => "Circular type reference chain: \x7b0\x7d"
  | .duplicateField => "Duplicate field name `\x7b0\x7d' in type `\x7b1\x7d'"
  | .duplicateEnumerator => "Duplicate enumeration identifier `\x7b0\x7d' in type `\x7b1\x7d'"
  | .emptySubtype => "The subtype of type `\x7b0\x7d' is an empty set"
  | .omitNotAllowed => "`omit' value is not allowed in this context"
  | .ifPresentNotAllowed => "`ifpresent' is not allowed here"
  | .rangeNotAllowed => "Value range match cannot be used for type `\x7b0\x7d'"
  | .patternNotAllowed => "Character string pattern cannot be used for type `\x7b0\x7d'"
  | .lengthNotAllowed =>
    "Length restriction cannot be used in a template of type `\x7b0\x7d'"
  | .rangeBoundsInverted =>
    "The lower boundary of the value range is greater than the upper boundary"
  | .lengthBoundsInverted =>
    "The lower boundary of the length restriction (\x7b0\x7d) is greater than the upper boundary (\x7b1\x7d)"
  | .unknownField =>
    "Reference to non-existent field `\x7b0\x7d' in record template for type `\x7b1\x7d'"
  | .unknownAlternative => "Reference to non-existent union field `\x7b0\x7d' in type `\x7b1\x7d'"
  | .elementCount =>
    "Too many elements in the template for type `\x7b0\x7d': \x7b1\x7d was expected instead of \x7b2\x7d"
  | .missingField => "Field `\x7b0\x7d' is missing from template for record type `\x7b1\x7d'"
  | .templateNotAllowed => "\x7b0\x7d cannot be used for type `\x7b1\x7d'"
  | .unknownEnumerator => "There is no enumerated value `\x7b0\x7d' in type `\x7b1\x7d'"
  | .duplicateRedirect => "Duplicate redirect for parameter `\x7b0\x7d'"
  | .redirectAlreadyGiven => "A variable entry for parameter `\x7b0\x7d' is already given here"
  | .signatureWithoutParameters =>
    "Parameter redirect cannot be used because signature `\x7b0\x7d' does not have parameters"
  | .parameterIsIn => "Parameter `\x7b0\x7d' of signature `\x7b1\x7d' has `in' direction"
  | .parameterIsOut => "Parameter `\x7b0\x7d' of signature `\x7b1\x7d' has `out' direction"
  | .noSuchParameter => "Signature `\x7b0\x7d' does not have parameter named `\x7b1\x7d'"
  | .notASignature => "Type `\x7b0\x7d' is not a signature type"

/-- The message with a number, if the table has one. -/
def ofCode? (code : Nat) : Option Message := all.find? fun m => m.code == code

/-- The text of a message with its arguments filled in. -/
def text (m : Message) (args : List String) : String := Text.fill m.template args

end Message

end TestSpec
