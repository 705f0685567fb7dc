import TestSpec.Document.Failure
import TestSpec.Value.Basic
import TestSpec.Value.Digits

/-!
# Values in documents

A value is written as JSON and read against its type: numbers for integers and
floats, strings for character strings, enumerators and verdicts, strings of digits
for binary strings, arrays for lists and object identifiers, objects for records and
sets, in which null marks an omitted field, and objects with one member for unions.

An enumerator that the type does not have is read with the ordinal -1, so that the
check of the value can complain about it.
-/

namespace TestSpec.Document

/-- What was written, or that something of another form is needed. -/
def expect {α : Type} (form : ValueForm) (type : String) : Option α → Except Failure α
  | some a => .ok a
  | none => .error (.unexpected form type)

/-- The failure for digits of a text. -/
def digitFailure (isBinary : Bool) (text : String) : DigitFault → Failure
  | .notADigit c => if isBinary then .badBit c text else .badHexDigit c text
  | .oddCount => .oddDigits text

/-- A component of an object identifier. -/
def component (j : Json) : Except Failure Nat := j.nat?.elim (.error (.badComponent j)) .ok

/-- The ordinal of an enumerator. -/
def ordinal (d : Declaration) (name : String) : Int64 :=
  (d.enumerator? name).elim (-1) Enumerator.value

/-- A value without parts, read for a declaration; nothing if values of its kind have parts. -/
def readScalar? (d : Declaration) (type : String) (j : Json) : Option (Except Failure Scalar) :=
  let string : Except Failure String := expect .string type j.string?
  match d.kind with
  | .null => some (expect .null type (if j matches .null then some .null else none))
  | .boolean => some (.boolean <$> expect .boolean type j.boolean?)
  | .integer | .integerAsn => some (.integer <$> expect .integer type j.int64?)
  | .real => some (.real <$> expect .number type j.binary64?)
  | .verdict => some do
    let word ← string
    (Verdict.ofWord? word).elim (.error (.badVerdict word)) fun v => .ok (.verdict v)
  | .bitstring | .bitstringAsn => some do
    let text ← string
    .bits <$> (readBits text).mapError (digitFailure true text)
  | .hexstring => some do
    let text ← string
    .nibbles <$> (readNibbles text).mapError (digitFailure false text)
  | .octetstring => some do
    let text ← string
    .octets <$> (readOctets text).mapError (digitFailure false text)
  | .objectIdentifier | .relativeOid => some do
    let components ← expect .components type j.array?
    .objectId <$> components.mapM component
  | .enumerated | .enumeratedAsn => some do
    let name ← string
    return .enumerated name (ordinal d name)
  | kind => if kind.isCharacterString then some (.text <$> string) else none

mutual

/-- The value that JSON stands for as a value of a type. -/
def readValue (s : Store) (type : TypeId) (j : Json) : Except Failure Value := do
  let last ← (s.resolveAlias type).mapError .unresolved
  let d := s.get last
  let kind := d.kind
  let name := s.name type
  match readScalar? d name j with
  | some scalar => return .scalar kind (← scalar)
  | none =>
    if kind.isRecordLike || kind.isSetLike then
      match j with
      | .object members => return .record kind (← readFields s last name members)
      | _ => .error (.unexpected .object name)
    else if kind.isUnionLike then
      match j with
      | .object members => readAlternative s last kind name members
      | _ => .error (.unexpected .object name)
    else if kind.isList then
      match s.elementType last with
      | none => .error (.noElementType name)
      | some t =>
        match j with
        | .array items => return .list kind (← readElements s t items)
        | _ => .error (.unexpected .array name)
    else .error (.unwritable kind)

/-- The fields of a record or set. -/
def readFields (s : Store) (last : TypeId) (type : String) :
    List (String × Json) → Except Failure (List FieldValue)
  | [] => .ok []
  | (name, j) :: rest => do
    match s.fieldType last name with
    | none => .error (.noField type name)
    | some t =>
      let field ← match j with
        | .null => pure (FieldValue.omitted name)
        | j => FieldValue.present name <$> readValue s t j
      return field :: (← readFields s last type rest)

/-- The value of a union, which has exactly one member. -/
def readAlternative (s : Store) (last : TypeId) (kind : Kind) (type : String) :
    List (String × Json) → Except Failure Value
  | [(alternative, j)] =>
    match s.fieldType last alternative with
    | none => .error (.noAlternative type alternative)
    | some t => do return .union kind alternative (← readValue s t j)
  | _ => .error (.valueAlternatives type)

/-- The elements of a list. -/
def readElements (s : Store) (t : TypeId) : List Json → Except Failure (List Value)
  | [] => .ok []
  | j :: rest => do
    let element ← readValue s t j
    return element :: (← readElements s t rest)

end

end TestSpec.Document
