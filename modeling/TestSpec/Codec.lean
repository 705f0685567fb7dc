import TestSpec.Template.Basic

/-!
# The raw codec

Decoded content matching hands the octets of a string to a codec.  The raw codec
decodes octetstrings as they are, bitstrings bit by bit, character strings as UTF-8,
truth values from one octet, and integers from one to eight octets in two's
complement, the most significant octet first.  What the target is decides by its
TTCN-3 view; a charstring admits ASCII alone.

Octets that do not decode are no error of whoever asks: the value just does not
match.
-/

namespace TestSpec

/-- Why octets are no value of a type although their number fits. -/
inductive Malformation where
  | notUtf8 (fault : Text.Utf8.Fault)
  | notAscii
  | booleanOctet (octet : UInt8)
  | integerTooLong (octets : Nat)
  deriving DecidableEq, Repr

/-- The text of a malformation. -/
def Malformation.message : Malformation → String
  | .notUtf8 fault => fault.message
  | .notAscii => "charstring contains non-ASCII characters"
  | .booleanOctet octet => "boolean byte 0x" ++ String.ofList (Text.lowerHexOctet octet)
  | .integerTooLong octets => "integer of " ++ toString octets ++ " bytes does not fit 64 bits"

/-- Why octets do not decode. -/
inductive DecodeError where
  | truncated (needed available : Nat)
  | trailing (count : Nat)
  | malformed (reason : Malformation)
  | unsupported (kind : Kind)
  deriving DecidableEq, Repr

/-- The text of a failure to decode. -/
def DecodeError.message : DecodeError → String
  | .truncated needed available =>
    "needed " ++ toString needed ++ " bytes but only " ++ toString available ++ " are available"
  | .trailing count => toString count ++ " bytes left over after decoding"
  | .malformed reason => "malformed input: " ++ reason.message
  | .unsupported kind => "no decoding rule for type `" ++ kind.keyword ++ "'"

/-- A way to decode octets to values. -/
abbrev Codec := List UInt8 → DecodeTarget → Except DecodeError Value

namespace Codec

/-- The bits of an octet, the most significant one first. -/
def octetBits (b : UInt8) : List Bool :=
  [7, 6, 5, 4, 3, 2, 1, 0].map fun i => b.toNat.testBit i

/-- The number that octets are written for, the most significant one first. -/
def bigEndian (octets : List UInt8) : Nat := octets.foldl (fun acc b => 256 * acc + b.toNat) 0

/-- The integer that one to eight octets are in two's complement: octets of the sign fill up the
front to a word of 64 bits. -/
def signedInteger (sign : UInt8) (octets : List UInt8) : Int64 :=
  let fill : UInt8 := if sign.toNat.testBit 7 then 0xFF else 0
  Int64.ofNat (bigEndian (List.replicate (8 - octets.length) fill ++ octets))

/-- Decode a character string of a kind. -/
def decodeText (kind : Kind) (octets : List UInt8) : Except DecodeError Value :=
  match Text.Utf8.decode? octets with
  | some s =>
    if kind.ttcn3View = .charstring ∧ octets.any (fun b => 0x80 ≤ b) then
      .error (.malformed .notAscii)
    else .ok (.text kind s)
  | none =>
    .error (.malformed (.notUtf8 ((Text.Utf8.fault? octets).getD (.incomplete octets.length))))

/-- Decode a truth value. -/
def decodeBoolean : List UInt8 → Except DecodeError Value
  | [] => .error (.truncated 1 0)
  | [b] =>
    if b = 0 then .ok (.boolean false)
    else if b = 1 then .ok (.boolean true)
    else .error (.malformed (.booleanOctet b))
  | _ :: rest => .error (.trailing rest.length)

/-- Decode an integer. -/
def decodeInteger : List UInt8 → Except DecodeError Value
  | [] => .error (.truncated 1 0)
  | sign :: rest =>
    if 8 < rest.length + 1 then .error (.malformed (.integerTooLong (rest.length + 1)))
    else .ok (.integer (signedInteger sign (sign :: rest)))

/-- The raw codec. -/
def raw : Codec := fun octets target =>
  match target.kind.ttcn3View with
  | .octetstring => .ok (.octetstring octets)
  | .boolean => decodeBoolean octets
  | .integer => decodeInteger octets
  | .bitstring => .ok (.bitstring (octets.flatMap octetBits))
  | view =>
    if view.isCharacterString then decodeText target.kind octets
    else .error (.unsupported target.kind)

end Codec

end TestSpec
