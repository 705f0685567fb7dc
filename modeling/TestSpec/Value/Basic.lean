import TestSpec.Kind
import TestSpec.Constraint.Literal

/-!
# Runtime values

A value carries the kind it was made for and its content, or is unbound.  Content
without parts is a `Scalar`; records hold named fields, each present or omitted,
unions hold one named alternative, and lists hold elements.

Kinds and content are independent: any content may stand under any kind, and
comparisons look at the content alone.
-/

namespace TestSpec

/-- The verdicts of a test case. -/
inductive Verdict where
  | none
  | pass
  | inconc
  | fail
  | error
  deriving DecidableEq, Repr

namespace Verdict

/-- The word a verdict is written as. -/
def word : Verdict → String
  | .none => "none"
  | .pass => "pass"
  | .inconc => "inconc"
  | .fail => "fail"
  | .error => "error"

/-- All verdicts. -/
def all : List Verdict := [.none, .pass, .inconc, .fail, .error]

/-- The verdict that a word names. -/
def ofWord? (s : String) : Option Verdict := all.find? fun v => v.word == s

end Verdict

/-- Content without parts. -/
inductive Scalar where
  | null
  | boolean (b : Bool)
  | integer (i : Int64)
  | real (x : Binary64)
  | verdict (v : Verdict)
  | bits (digits : List Bool)
  | nibbles (digits : List (Fin 16))
  | octets (raw : List UInt8)
  /-- The content of every kind of character string. -/
  | text (s : String)
  | enumerated (name : String) (ordinal : Int64)
  | objectId (components : List Nat)
  deriving DecidableEq, Repr

mutual

/-- A runtime value. -/
inductive Value where
  | unbound (kind : Kind)
  | scalar (kind : Kind) (content : Scalar)
  | record (kind : Kind) (fields : List FieldValue)
  | union (kind : Kind) (alternative : String) (value : Value)
  | list (kind : Kind) (elements : List Value)

/-- A field of a record or set value. -/
inductive FieldValue where
  | present (name : String) (value : Value)
  | omitted (name : String)

end

namespace FieldValue

/-- The name of a field. -/
def name : FieldValue → String
  | .present name _ => name
  | .omitted name => name

/-- The value of a field that is present. -/
def value? : FieldValue → Option Value
  | .present _ value => some value
  | .omitted _ => none

end FieldValue

namespace Value

/-- The kind a value was made for. -/
def kind : Value → Kind
  | .unbound kind => kind
  | .scalar kind _ => kind
  | .record kind _ => kind
  | .union kind _ _ => kind
  | .list kind _ => kind

/-- The value has content. -/
def isBound : Value → Bool
  | .unbound _ => false
  | _ => true

/-- A bitstring. -/
def bitstring (bits : List Bool) : Value := .scalar .bitstring (.bits bits)

/-- A hexstring. -/
def hexstring (nibbles : List (Fin 16)) : Value := .scalar .hexstring (.nibbles nibbles)

/-- An octetstring. -/
def octetstring (octets : List UInt8) : Value := .scalar .octetstring (.octets octets)

/-- An integer. -/
def integer (i : Int64) : Value := .scalar .integer (.integer i)

/-- A truth value. -/
def boolean (b : Bool) : Value := .scalar .boolean (.boolean b)

/-- A character string of any kind. -/
def text (kind : Kind) (s : String) : Value := .scalar kind (.text s)

mutual

/-- The value and all its parts are bound. -/
def isFullyBound : Value → Bool
  | .unbound _ => false
  | .scalar _ _ => true
  | .record _ fields => fieldsFullyBound fields
  | .union _ _ value => isFullyBound value
  | .list _ elements => elementsFullyBound elements

/-- The values of all fields that are present are fully bound. -/
def fieldsFullyBound : List FieldValue → Bool
  | [] => true
  | .present _ value :: rest => isFullyBound value && fieldsFullyBound rest
  | .omitted _ :: rest => fieldsFullyBound rest

/-- All elements are fully bound. -/
def elementsFullyBound : List Value → Bool
  | [] => true
  | value :: rest => isFullyBound value && elementsFullyBound rest

end

end Value

end TestSpec
