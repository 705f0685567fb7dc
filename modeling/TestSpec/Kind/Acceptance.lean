import TestSpec.Kind

/-!
# Which kinds may stand for which

`Kind.accepts expected actual` says whether a value of kind `actual` may be used
where kind `expected` is required.  The relation is not symmetric: `ANY` takes an
octetstring, an octetstring takes `ANY` in the TTCN-3 dialect only, and the kinds
of character strings widen from the 7-bit alphabets up to the universal ones.

The undefined kind goes with everything, so that one bad declaration causes no
further complaint.  A reference to another type has no values of its own and is
accepted nowhere; references are followed before this table is asked.
-/

namespace TestSpec

namespace Kind

/-- Kinds that accept no kind but themselves. -/
def isRigid : Kind → Bool
  | .null | .boolean | .real | .hexstring | .recordOf | .setOf | .verdict | .default
  | .component | .signature | .port | .array | .function | .altstep | .testcase | .anyType => true
  | _ => false

/-- Character strings over a part of the 7-bit alphabet. -/
def isNarrowString : Kind → Bool
  | .charstring | .numericString | .printableString | .ia5String | .visibleString | .utcTime
  | .generalizedTime => true
  | _ => false

/-- Character strings over the whole universal character set. -/
def isUniversalString : Kind → Bool
  | .universalCharstring | .utf8String | .bmpString | .universalString => true
  | _ => false

/-- Character strings over registered character sets with escape sequences. -/
def isRegisteredString : Kind → Bool
  | .teletexString | .videotexString | .graphicString | .objectDescriptor | .generalString => true
  | _ => false

/-- What a kind other than the undefined one accepts, the actual kind being defined too. -/
def acceptsDefined (expected actual : Kind) (expectedDialect actualDialect : Dialect) : Bool :=
  match expected with
  | .octetstring =>
    actual == .octetstring || (expectedDialect == .ttcn3 && actual == .any)
  | .any => actual == .any || actual == .octetstring
  | .universalCharstring =>
    actual.isUniversalString || actual.isRegisteredString || actual.isNarrowString
  | .utf8String | .bmpString | .universalString =>
    actual.isUniversalString || actual.isNarrowString
  | .teletexString | .videotexString | .graphicString | .objectDescriptor | .generalString =>
    actual.isRegisteredString || actual.isNarrowString || actual == .universalCharstring
  | .charstring | .numericString | .printableString | .ia5String | .visibleString | .utcTime
  | .generalizedTime => actual.isNarrowString
  | .bitstring | .bitstringAsn => actual == .bitstring || actual == .bitstringAsn
  | .integer | .integerAsn => actual == .integer || actual == .integerAsn
  | .objectIdentifier =>
    actual == .objectIdentifier || (expectedDialect == .ttcn3 && actual == .relativeOid)
  | .relativeOid =>
    actual == .relativeOid || (actualDialect == .ttcn3 && actual == .objectIdentifier)
  | .enumerated | .enumeratedAsn => actual.isEnumerated
  | .union | .choice | .openType => actual == .union || actual == .choice || actual == .openType
  | .record | .sequence => actual.isRecordLike
  | .set | .setAsn => actual.isSetLike
  | .address => actual == .address
  | _ => expected.isRigid && actual == expected

/-- Whether a value of kind `actual` may be used where kind `expected` is required. -/
def accepts (expected actual : Kind) (expectedDialect actualDialect : Dialect) : Bool :=
  expected == .undefined || actual == .undefined ||
    expected.acceptsDefined actual expectedDialect actualDialect

end Kind

end TestSpec
