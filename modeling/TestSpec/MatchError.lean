import TestSpec.Kind
import TestSpec.Walk
import TestSpec.Template.Length

/-!
# Misuse of values and templates

An operation on a value or a template that has no sensible answer fails with a
`MatchError`.  These are defects of whoever asks, not of the specification under
test; a value that does not match, or does not decode, is an ordinary answer.
-/

namespace TestSpec

/-- Operations that need a bound value. -/
inductive Operation where
  | comparison
  | ordering
  | lengthOf
  | indexing
  | fieldAccess
  | stringAccess
  | decoding
  | matching
  | valueOf
  deriving DecidableEq, Repr

/-- The name of an operation in messages. -/
def Operation.name : Operation → String
  | .comparison => "comparison"
  | .ordering => "ordering"
  | .lengthOf => "lengthof"
  | .indexing => "indexing"
  | .fieldAccess => "field access"
  | .stringAccess => "string access"
  | .decoding => "decoding"
  | .matching => "matching"
  | .valueOf => "valueof"

/-- What content an operation or a template needs. -/
inductive Shape where
  | record
  | recordField
  | union
  | list
  | characterString
  | decodedContent
  deriving DecidableEq, Repr

/-- The name of a shape in messages. -/
def Shape.name : Shape → String
  | .record => "record"
  | .recordField => "record field"
  | .union => "union"
  | .list => "list"
  | .characterString => "character string"
  | .decodedContent => "decoded content"

/-- One of the two bounds of a range. -/
inductive BoundSide where
  | lower
  | upper
  deriving DecidableEq, Repr

/-- The name of a bound in messages. -/
def BoundSide.name : BoundSide → String
  | .lower => "lower"
  | .upper => "upper"

/-- Why a range of values cannot be built or used. -/
inductive RangeFault where
  /-- A bound that is a character string has this length instead of one. -/
  | boundLength (side : BoundSide) (length : Nat)
  /-- A bound was set on a template that is not a range. -/
  | notARange (side : BoundSide)
  /-- The new bound on this side lies beyond the other bound. -/
  | inverted (side : BoundSide)
  /-- A bound met in matching is not a single character. -/
  | boundNotOneCharacter (bound : String)
  deriving DecidableEq, Repr

/-- The text of a fault of a range. -/
def RangeFault.message : RangeFault → String
  | .boundLength side length =>
    "The length of the " ++ side.name ++
      " bound in a charstring value range template must be 1 instead of " ++ toString length
  | .notARange side => "Template is not a range when setting the " ++ side.name ++ " limit"
  | .inverted .lower => "The lower limit of the range is greater than the upper limit"
  | .inverted .upper => "The upper limit of the range is smaller than the lower limit"
  | .boundNotOneCharacter bound =>
    "Character range bound \"" ++ bound ++ "\" must be a single character"

/-- Why the values of a template have no single length. -/
inductive LengthFault where
  | emptyList
  | differentLengths
  | restrictedTo (elements : Nat) (length : Nat)
  | restrictedBelow (elements : Nat) (restriction : LengthRestriction)
  deriving DecidableEq, Repr

/-- The description of a template without a single length. -/
def LengthFault.description : LengthFault → String
  | .emptyList => "containing an empty list"
  | .differentLengths => "containing a value list with different lengths"
  | .restrictedTo elements length =>
    "with " ++ toString elements ++ " elements and a length restriction of " ++ toString length
  | .restrictedBelow elements restriction =>
    "with at least " ++ toString elements ++ " elements and a length restriction of " ++
      restriction.render

/-- Templates whose values have no length that could be asked for. -/
inductive Lengthless where
  | omit
  | complement
  | pattern
  | decodedMatch
  deriving DecidableEq, Repr

/-- The name of a template without a length. -/
def Lengthless.name : Lengthless → String
  | .omit => "omit value"
  | .complement => "complemented list"
  | .pattern => "a pattern"
  | .decodedMatch => "a decoded content match"

/-- Why an operation on a value or a template has no answer. -/
inductive MatchError where
  | uninitializedTemplate
  /-- The value of a template that stands for more than one value. -/
  | nonSpecificValue
  | ambiguousLength (fault : LengthFault)
  | lengthOfNonSpecific (what : Lengthless)
  | ifPresentLength
  | unboundValue (operation : Operation)
  | unorderedDomain (kind : Kind)
  | lengthNotApplicable (kind : Kind)
  | missingCodec
  | invalidRange (fault : RangeFault)
  | listIndex (index length : Nat)
  | notAList
  | typeMismatch (expected : Shape) (found : Kind)
  | depthExceeded
  deriving DecidableEq, Repr

/-- The text of an error. -/
def MatchError.message : MatchError → String
  | .uninitializedTemplate => "Matching with an uninitialized/unsupported template"
  | .nonSpecificValue => "Performing a valueof or send operation on a non-specific template"
  | .ambiguousLength fault =>
    "Performing lengthof() operation on a template " ++ fault.description
  | .lengthOfNonSpecific what =>
    "Performing lengthof() operation on a template containing " ++ what.name
  | .ifPresentLength =>
    "Performing lengthof() operation on a template which has an ifpresent attribute"
  | .unboundValue operation => "Using an unbound value in " ++ operation.name
  | .unorderedDomain kind => "Value range match cannot be used for type `" ++ kind.keyword ++ "'"
  | .lengthNotApplicable kind =>
    "Length restriction cannot be used for type `" ++ kind.keyword ++ "'"
  | .missingCodec => "No codec is available for decoded content matching"
  | .invalidRange fault => fault.message
  | .listIndex index length =>
    "Index overflow in a list template: index " ++ toString index ++ " with " ++
      toString length ++ " elements"
  | .notAList => "Accessing a list element of a non-list template"
  | .typeMismatch expected found =>
    "Matching a " ++ expected.name ++ " template with a value of type `" ++ found.keyword ++ "'"
  | .depthExceeded => "Template nesting exceeds " ++ toString maxMatchDepth ++ " levels"

end TestSpec
