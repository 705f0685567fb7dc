import TestSpec.Value.Basic
import TestSpec.MatchError
import TestSpec.Text.Hex
import TestSpec.Text.Utf8

/-!
# Length, parts and octets of values

Strings and lists have a length and elements; an element of a string is a string of
length one and of the same kind.  Records have named fields.  Strings have an
encoded form: octets as they are, bits and hexadecimal digits packed with the first
one most significant and zeros at the end, and characters in UTF-8.
-/

namespace TestSpec

/-- The number of elements of content that is a string. -/
def Scalar.length? : Scalar → Option Nat
  | .text s => some s.length
  | .bits digits => some digits.length
  | .nibbles digits => some digits.length
  | .octets digits => some digits.length
  | _ => none

/-- The element of a string at a position, as a string of length one. -/
def Scalar.element? (index : Nat) : Scalar → Option Scalar
  | .text s => s.toList[index]?.map fun c => .text (String.singleton c)
  | .bits digits => digits[index]?.map fun b => .bits [b]
  | .nibbles digits => digits[index]?.map fun n => .nibbles [n]
  | .octets digits => digits[index]?.map fun b => .octets [b]
  | _ => none

/-- The number with the given binary digits, the first one most significant. -/
def binaryNumber (bits : List Bool) : Nat := bits.foldl (fun acc b => 2 * acc + b.toNat) 0

/-- Bits as octets, eight at a time; zeros fill up the last octet. -/
def packBits : List Bool → List UInt8
  | a :: b :: c :: d :: e :: f :: g :: h :: rest =>
    UInt8.ofNat (binaryNumber [a, b, c, d, e, f, g, h]) :: packBits rest
  | [] => []
  | rest => [UInt8.ofNat (binaryNumber (rest ++ List.replicate (8 - rest.length) false))]

/-- Hexadecimal digits as octets, two at a time; a zero fills up the last octet. -/
def packNibbles : List (Fin 16) → List UInt8
  | high :: low :: rest => Text.octetOfNibbles high low :: packNibbles rest
  | [high] => [Text.octetOfNibbles high 0]
  | [] => []

/-- The encoded form of content that is a string. -/
def Scalar.octets? : Scalar → Option (List UInt8)
  | .octets raw => some raw
  | .text s => some (Text.Utf8.encode s)
  | .bits digits => some (packBits digits)
  | .nibbles digits => some (packNibbles digits)
  | _ => none

namespace Value

/-- The number of elements of a string or list. -/
def length : Value → Except MatchError Nat
  | .unbound _ => .error (.unboundValue .lengthOf)
  | .list _ elements => .ok elements.length
  | .scalar kind content =>
    match content.length? with
    | some n => .ok n
    | none => .error (.lengthNotApplicable kind)
  | .record kind _ => .error (.lengthNotApplicable kind)
  | .union kind _ _ => .error (.lengthNotApplicable kind)

/-- The element of a string or list at a position counted from zero. -/
def element (v : Value) (index : Nat) : Except MatchError Value :=
  match v.length with
  | .error e => .error e
  | .ok length =>
    let found := match v with
      | .list _ elements => elements[index]?
      | .scalar kind content => (content.element? index).map (Value.scalar kind)
      | _ => none
    match found with
    | some part => .ok part
    | none => .error (.listIndex index length)

/-- A named field of a record, nothing if it is omitted. -/
def field (name : String) : Value → Except MatchError (Option Value)
  | .unbound _ => .error (.unboundValue .fieldAccess)
  | .record kind fields =>
    match fields.find? fun f => f.name == name with
    | some f => .ok f.value?
    | none => .error (.typeMismatch .recordField kind)
  | v => .error (.typeMismatch .record v.kind)

/-- The characters of a character string. -/
def string : Value → Except MatchError String
  | .unbound _ => .error (.unboundValue .stringAccess)
  | .scalar _ (.text s) => .ok s
  | v => .error (.typeMismatch .characterString v.kind)

/-- The encoded form of a string. -/
def octets : Value → Except MatchError (List UInt8)
  | .unbound _ => .error (.unboundValue .decoding)
  | .scalar kind content =>
    match content.octets? with
    | some octets => .ok octets
    | none => .error (.typeMismatch .decodedContent kind)
  | v => .error (.typeMismatch .decodedContent v.kind)

end Value

end TestSpec
