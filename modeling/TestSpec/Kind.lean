/-!
# Kinds of types

Every declared type has one **kind**, the category its values belong to, and the
**dialect** it was declared in: TTCN-3 itself, or the ASN.1 modules a test
specification imports.  Several categories exist once per dialect (`integer` and
`integerAsn`, `record` and `sequence`); the pairs are folded together by
`Kind.ttcn3View` and kept apart everywhere else.

What a kind's values are like (strings, lists, ordered domains, ...) is a finite
set of **traits**, listed per kind in `Kind.traits`.  All classifications of this
file are read off that list, or name the few kinds they hold of.
-/

namespace TestSpec

/-- The language a declaration is written in. -/
inductive Dialect where
  /-- The test specification language itself. -/
  | ttcn3
  /-- The abstract syntax notation of imported modules. -/
  | asn1
  deriving DecidableEq, Repr

/-- The word a dialect is written with. -/
def Dialect.word : Dialect → String
  | .ttcn3 => "ttcn3"
  | .asn1 => "asn1"

/-- Both dialects, the default first. -/
def Dialect.all : List Dialect := [.ttcn3, .asn1]

/-- The closed list of type categories. -/
inductive Kind where
  | undefined | null | boolean | integer | integerAsn | real
  | bitstring | bitstringAsn | hexstring | octetstring
  | charstring | universalCharstring | utf8String | numericString | printableString
  | teletexString | videotexString | ia5String | graphicString | visibleString
  | generalString | universalString | bmpString | utcTime | generalizedTime
  | objectDescriptor | objectIdentifier | relativeOid | enumerated | enumeratedAsn
  | union | choice | openType | anyType
  | record | sequence | set | setAsn | recordOf | setOf | array
  | verdict | default | component | port | signature | function | altstep | testcase
  | any | address | referenced | objectClassField
  deriving DecidableEq, Repr

/-- A property that all values of a kind share. -/
inductive Trait where
  /-- Values are strings of characters. -/
  | characterString
  /-- Values are strings of bits, hexadecimal digits or octets. -/
  | binaryString
  /-- Values have named fields or alternatives. -/
  | structured
  /-- Values are sequences of elements of one type. -/
  | list
  /-- Values are totally ordered, so ranges of values make sense. -/
  | ordered
  /-- Values have a length, so restrictions of it make sense. -/
  | hasLength
  /-- No value of the kind exists. -/
  | noValues
  /-- The kind belongs to the ASN.1 dialect alone. -/
  | asn1Only
  deriving DecidableEq, Repr

namespace Trait

/-- All traits; the position of a trait is the weight of its bit. -/
def all : List Trait :=
  [.characterString, .binaryString, .structured, .list, .ordered, .hasLength, .noValues,
   .asn1Only]

/-- The name a trait is listed under. -/
def name : Trait → String
  | .characterString => "CHARACTER_STRING"
  | .binaryString => "BINARY_STRING"
  | .structured => "STRUCTURED"
  | .list => "LIST"
  | .ordered => "ORDERED"
  | .hasLength => "HAS_LENGTH"
  | .noValues => "NO_VALUES"
  | .asn1Only => "ASN1_ONLY"

/-- The number a trait contributes to the mask of a set of traits. -/
def weight (t : Trait) : Nat := Nat.pow 2 (all.idxOf t)

end Trait

namespace Kind

/-- All kinds, in the order they are listed and counted. -/
def all : List Kind :=
  [.undefined, .null, .boolean, .integer, .integerAsn, .real,
   .bitstring, .bitstringAsn, .hexstring, .octetstring,
   .charstring, .universalCharstring, .utf8String, .numericString, .printableString,
   .teletexString, .videotexString, .ia5String, .graphicString, .visibleString,
   .generalString, .universalString, .bmpString, .utcTime, .generalizedTime,
   .objectDescriptor, .objectIdentifier, .relativeOid, .enumerated, .enumeratedAsn,
   .union, .choice, .openType, .anyType,
   .record, .sequence, .set, .setAsn, .recordOf, .setOf, .array,
   .verdict, .default, .component, .port, .signature, .function, .altstep, .testcase,
   .any, .address, .referenced, .objectClassField]

/-- The identifier a document names a kind by. -/
def identifier : Kind → String
  | .undefined => "undefined"
  | .null => "null"
  | .boolean => "boolean"
  | .integer => "integer"
  | .integerAsn => "integerAsn"
  | .real => "real"
  | .bitstring => "bitstring"
  | .bitstringAsn => "bitstringAsn"
  | .hexstring => "hexstring"
  | .octetstring => "octetstring"
  | .charstring => "charstring"
  | .universalCharstring => "universalCharstring"
  | .utf8String => "utf8String"
  | .numericString => "numericString"
  | .printableString => "printableString"
  | .teletexString => "teletexString"
  | .videotexString => "videotexString"
  | .ia5String => "ia5String"
  | .graphicString => "graphicString"
  | .visibleString => "visibleString"
  | .generalString => "generalString"
  | .universalString => "universalString"
  | .bmpString => "bmpString"
  | .utcTime => "utcTime"
  | .generalizedTime => "generalizedTime"
  | .objectDescriptor => "objectDescriptor"
  | .objectIdentifier => "objectIdentifier"
  | .relativeOid => "relativeOid"
  | .enumerated => "enumerated"
  | .enumeratedAsn => "enumeratedAsn"
  | .union => "union"
  | .choice => "choice"
  | .openType => "openType"
  | .anyType => "anyType"
  | .record => "record"
  | .sequence => "sequence"
  | .set => "set"
  | .setAsn => "setAsn"
  | .recordOf => "recordOf"
  | .setOf => "setOf"
  | .array => "array"
  | .verdict => "verdict"
  | .default => "default"
  | .component => "component"
  | .port => "port"
  | .signature => "signature"
  | .function => "function"
  | .altstep => "altstep"
  | .testcase => "testcase"
  | .any => "any"
  | .address => "address"
  | .referenced => "referenced"
  | .objectClassField => "objectClassField"

/-- The kind that an identifier names, if it names one. -/
def ofIdentifier? (name : String) : Option Kind :=
  all.find? fun k => k.identifier == name

/-- The keyword that stands for the kind in messages and names its builtin type. -/
def keyword : Kind → String
  | .undefined => "<undefined>"
  | .null => "NULL"
  | .boolean => "boolean"
  | .integer => "integer"
  | .integerAsn => "INTEGER"
  | .real => "float"
  | .bitstring => "bitstring"
  | .bitstringAsn => "BIT STRING"
  | .hexstring => "hexstring"
  | .octetstring => "octetstring"
  | .charstring => "charstring"
  | .universalCharstring => "universal charstring"
  | .utf8String => "UTF8String"
  | .numericString => "NumericString"
  | .printableString => "PrintableString"
  | .teletexString => "TeletexString"
  | .videotexString => "VideotexString"
  | .ia5String => "IA5String"
  | .graphicString => "GraphicString"
  | .visibleString => "VisibleString"
  | .generalString => "GeneralString"
  | .universalString => "UniversalString"
  | .bmpString => "BMPString"
  | .utcTime => "UTCTime"
  | .generalizedTime => "GeneralizedTime"
  | .objectDescriptor => "ObjectDescriptor"
  | .objectIdentifier => "objid"
  | .relativeOid => "RELATIVE-OID"
  | .enumerated => "enumerated"
  | .enumeratedAsn => "ENUMERATED"
  | .union => "union"
  | .choice => "CHOICE"
  | .openType => "open type"
  | .anyType => "anytype"
  | .record => "record"
  | .sequence => "SEQUENCE"
  | .set => "set"
  | .setAsn => "SET"
  | .recordOf => "record of"
  | .setOf => "set of"
  | .array => "array"
  | .verdict => "verdicttype"
  | .default => "default"
  | .component => "component"
  | .port => "port"
  | .signature => "signature"
  | .function => "function"
  | .altstep => "altstep"
  | .testcase => "testcase"
  | .any => "ANY"
  | .address => "address"
  | .referenced => "referenced"
  | .objectClassField => "object class field"

/-- What the values of a kind are like; the traits stand in the order of `Trait.all`. -/
def traits : Kind → List Trait
  | .integer | .real => [.ordered]
  | .integerAsn => [.ordered, .asn1Only]
  | .bitstring | .hexstring | .octetstring => [.binaryString, .hasLength]
  | .bitstringAsn => [.binaryString, .hasLength, .asn1Only]
  | .charstring | .universalCharstring => [.characterString, .ordered, .hasLength]
  | .utf8String | .numericString | .printableString | .teletexString | .videotexString
  | .ia5String | .graphicString | .visibleString | .generalString | .universalString
  | .bmpString | .utcTime | .generalizedTime | .objectDescriptor =>
    [.characterString, .ordered, .hasLength, .asn1Only]
  | .union | .record | .set | .anyType => [.structured]
  | .choice | .sequence | .setAsn | .openType => [.structured, .asn1Only]
  | .recordOf | .setOf | .array => [.list, .hasLength]
  | .enumeratedAsn | .any | .objectClassField => [.asn1Only]
  | .port | .signature => [.noValues]
  | .undefined | .null | .boolean | .objectIdentifier | .relativeOid | .enumerated | .verdict
  | .default | .component | .function | .altstep | .testcase | .address | .referenced => []

/-- Whether the values of the kind have the trait. -/
def has (k : Kind) (t : Trait) : Bool := k.traits.contains t

/-- The traits of a kind as one number, the sum of their weights. -/
def traitMask (k : Kind) : Nat := (k.traits.map Trait.weight).foldr Nat.add 0

/-- Kinds whose values are strings of characters. -/
def isCharacterString (k : Kind) : Bool := k.has .characterString

/-- Kinds whose values are strings of bits, hexadecimal digits or octets. -/
def isBinaryString (k : Kind) : Bool := k.has .binaryString

/-- Kinds whose values are strings of any sort. -/
def isString (k : Kind) : Bool := k.isCharacterString || k.isBinaryString

/-- Kinds whose values have named fields or alternatives. -/
def isStructured (k : Kind) : Bool := k.has .structured

/-- Kinds whose values are sequences of elements. -/
def isList (k : Kind) : Bool := k.has .list

/-- Kinds whose values are totally ordered. -/
def isOrdered (k : Kind) : Bool := k.has .ordered

/-- Kinds whose values have a length. -/
def hasLength (k : Kind) : Bool := k.has .hasLength

/-- Kinds whose values hold exactly one of several alternatives. -/
def isUnionLike : Kind → Bool
  | .union | .choice | .openType | .anyType => true
  | _ => false

/-- Kinds whose fields correspond by position. -/
def isRecordLike : Kind → Bool
  | .record | .sequence => true
  | _ => false

/-- Kinds whose fields correspond by name. -/
def isSetLike : Kind → Bool
  | .set | .setAsn => true
  | _ => false

/-- Kinds whose values are named constants. -/
def isEnumerated : Kind → Bool
  | .enumerated | .enumeratedAsn => true
  | _ => false

/-- The TTCN-3 kind that an ASN.1 kind is seen as; a TTCN-3 kind is seen as itself. -/
def ttcn3View : Kind → Kind
  | .integerAsn => .integer
  | .bitstringAsn => .bitstring
  | .enumeratedAsn => .enumerated
  | .choice | .openType => .union
  | .sequence => .record
  | .setAsn => .set
  | .utf8String | .teletexString | .videotexString | .graphicString | .generalString
  | .universalString | .bmpString | .objectDescriptor => .universalCharstring
  | .numericString | .printableString | .ia5String | .visibleString | .utcTime
  | .generalizedTime => .charstring
  | .any => .octetstring
  | k => k

end Kind

end TestSpec
