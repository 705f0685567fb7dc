import TestSpec.Document.Basic
import TestSpec.Json.Schema

/-!
# The shape of check documents

The schemas of the parts of a check document, and `Document.ofText?`, which reads a
document.  A check is a structure with a tag: the member `check` says which one, and
the other members are read only when the whole object has been seen.
-/

namespace TestSpec.Document

open Json Schema

/-- The kinds by their names in documents. -/
def kindWords : List (String × Kind) := Kind.all.map fun k => (k.identifier, k)

/-- The dialects by their names. -/
def dialectWords : List (String × Dialect) := Dialect.all.map fun d => (d.word, d)

/-- The directions by their names. -/
def directionWords : List (String × Direction) := Direction.all.map fun d => (d.word, d)

/-- The switch that a word in a document stands for. -/
def switchOfWord? (s : String) : Option Bool :=
  match Text.keyword s with
  | "true" | "1" | "yes" | "on" => some true
  | "false" | "0" | "no" | "off" => some false
  | _ => none

/-- A switch, which tools may have written as a string. -/
def switch : Schema Bool := fun _ s =>
  match s.json? with
  | none => .error .malformed
  | some (.boolean b) => .ok b
  | some (.string word) => (switchOfWord? word).elim (.error (.unknownSwitch word)) .ok
  | some _ => .error .noSwitch

/-- The name of a severity. -/
def severity : Schema Severity := fun place s => do
  let word ← string place s
  (Severity.ofWord? word).elim (.error (.unknownSeverity word)) .ok

/-- The options of a document. -/
def optionSet : Structure PartialOptions where
  title := "struct DocumentOptions"
  members := [
    .free "strictStructural" (optional switch) fun v x => { x with strictStructural := v },
    .free "typeCompatibility" (optional severity) fun v x => { x with typeCompatibility := v },
    .free "legacyMatching" (optional switch) fun v x => { x with legacyMatching := v }]

/-- A field or alternative. -/
def field : Structure Field where
  title := "struct FieldDecl"
  members := [
    .required "name" string fun v x => { x with name := v },
    .required "type" string fun v x => { x with type := .name v },
    .free "optional" boolean fun v x => { x with isOptional := v }]

/-- An enumerator. -/
def enumerator : Structure EnumeratorEntry where
  title := "struct EnumeratorDecl"
  members := [
    .required "name" string fun v x => { x with name := v },
    .free "value" (optional whole) fun v x => { x with value := v }]

/-- A parameter of a signature. -/
def parameter : Structure Parameter where
  title := "struct ParameterDecl"
  members := [
    .required "name" string fun v x => { x with name := v },
    .required "type" string fun v x => { x with type := .name v },
    .free "direction" (word directionWords) fun v x => { x with direction := v }]

/-- A range of permitted lengths. -/
def lengthRange : Structure LengthRange where
  title := "struct LengthDecl"
  members := [
    .required "min" count fun v x => { x with least := v },
    .free "max" (optional count) fun v x => { x with greatest := v }]

/-- A range of values. -/
def range : Structure RangeEntry where
  title := "struct RangeDecl"
  members := [
    .free "min" (optional any) fun v x => { x with min := v },
    .free "max" (optional any) fun v x => { x with max := v },
    .free "minExclusive" boolean fun v x => { x with minExclusive := v },
    .free "maxExclusive" boolean fun v x => { x with maxExclusive := v }]

/-- A range of permitted lengths on its own. -/
def lengthSchema : Schema LengthRange := lengthRange.schema ⟨0, none⟩

/-- A range of values on its own. -/
def rangeSchema : Schema RangeEntry := range.schema {}

/-- A constraint. -/
def constraint : Schema ConstraintEntry :=
  variant [
    ("values", fun place s => .values <$> list any place s),
    ("range", fun place s => .range <$> rangeSchema place s),
    ("lengths", fun place s => .lengths <$> list lengthSchema place s)]

/-- A declaration. -/
def typeEntry : Structure TypeEntry where
  title := "struct TypeDecl"
  members := [
    .required "name" string fun v x => { x with name := v },
    .free "kind" (optional (word kindWords)) fun v x => { x with kind := v },
    .free "aliasOf" (optional string) fun v x => { x with aliasOf := v },
    .free "dialect" (word dialectWords) fun v x => { x with dialect := v },
    .free "fields" (list (field.schema { name := "", type := .name "" }))
      fun v x => { x with fields := v },
    .free "element" (optional string) fun v x => { x with element := v },
    .free "dimension" (optional count) fun v x => { x with dimension := v },
    .free "enumerators" (list (enumerator.schema {})) fun v x => { x with enumerators := v },
    .free "parameters" (list (parameter.schema { name := "", type := .name "" }))
      fun v x => { x with parameters := v },
    .free "subtype" (optional constraint) fun v x => { x with constraint := v }]

/-! ### Checks -/

/-- A check of a reference. -/
def referenceCheck : Structure ReferenceCheck where
  title := "struct variant CheckEntry::Reference"
  members := [
    .free "name" (optional string) fun v x => { x with name := v },
    .required "expected" string fun v x => { x with expected := v },
    .required "actual" string fun v x => { x with actual := v },
    .free "template" boolean fun v x => { x with isTemplate := v },
    .free "stringElement" boolean fun v x => { x with isStringElement := v }]

/-- A check of an expression. -/
def expressionCheck : Structure ExpressionCheck where
  title := "struct variant CheckEntry::Expression"
  members := [
    .free "name" (optional string) fun v x => { x with name := v },
    .required "expected" string fun v x => { x with expected := v },
    .required "resultKind" (word kindWords) fun v x => { x with resultKind := v }]

/-- A check of a value. -/
def valueCheck : Structure ValueCheck where
  title := "struct variant CheckEntry::Value"
  members := [
    .free "name" (optional string) fun v x => { x with name := v },
    .required "type" string fun v x => { x with type := v },
    .required "value" any fun v x => { x with value := v }]

/-- A check of a template. -/
def templateCheck : Structure TemplateCheck where
  title := "struct variant CheckEntry::Template"
  members := [
    .free "name" (optional string) fun v x => { x with name := v },
    .required "type" string fun v x => { x with type := v },
    .required "template" any fun v x => { x with template := v },
    .free "optional" boolean fun v x => { x with isOptional := v }]

/-- An assignment of a redirect. -/
def assignment : Structure AssignmentEntry where
  title := "struct RedirectDecl"
  members := [
    .required "parameter" string fun v x => { x with parameter := v },
    .required "variable" string fun v x => { x with target := v },
    .free "variableType" (optional string) fun v x => { x with variableType := v }]

/-- A check of a redirect. -/
def redirectCheck : Structure RedirectCheck where
  title := "struct variant CheckEntry::Redirect"
  members := [
    .free "name" (optional string) fun v x => { x with name := v },
    .required "signature" string fun v x => { x with signature := v },
    .free "reply" boolean fun v x => { x with isReply := v },
    .required "assignments" (list (assignment.schema {})) fun v x => { x with assignments := v }]

/-- The checks by their tags. -/
def checkVariants : List (String × Schema CheckEntry) := [
  ("reference", fun place s => .reference <$> referenceCheck.schema {} place s),
  ("expression", fun place s => .expression <$> expressionCheck.schema {} place s),
  ("value", fun place s => .value <$> valueCheck.schema {} place s),
  ("template", fun place s => .template <$> templateCheck.schema {} place s),
  ("redirect", fun place s => .redirect <$> redirectCheck.schema {} place s)]

/-- The name of the member that holds the tag of a check. -/
def tagName : String := "check"

/-- The tag of a check among its members, all of which are read to their ends on the way. -/
def readTag (tag : Option (Schema CheckEntry)) :
    List (Option String × Source) → Except Refusal (Option (Schema CheckEntry))
  | [] => .ok tag
  | (none, _) :: _ => .error .malformed
  | (some name, s) :: rest =>
    if name = tagName then
      if tag.isSome then .error (.duplicateField tagName)
      else do readTag (some (← variantName checkVariants s)) rest
    else do
      let _ ← any .text s
      readTag tag rest

/-- A check: an object with its tag among the members, or an array that begins with the tag. -/
def check : Schema CheckEntry := fun _ s =>
  match s with
  | .object members isClosed => do
    let tag ← readTag none members
    close isClosed
    match tag with
    | none => .error (.missingField tagName)
    | some schema =>
      schema .buffer (.object (members.filter fun m => m.1 != some tagName) true)
  | .array [] isClosed => do
    close isClosed
    .error (.missingField tagName)
  | .array (s :: rest) isClosed => do
    let schema ← variantName checkVariants s
    let _ ← list any .text (.array rest isClosed)
    schema .buffer (.array rest true)
  | s => mistyped "internally tagged enum CheckEntry" s

/-! ### Documents -/

/-- A match. -/
def matchEntry : Structure MatchEntry where
  title := "struct MatchEntry"
  members := [
    .free "name" (optional string) fun v x => { x with name := v },
    .required "type" string fun v x => { x with type := v },
    .required "template" any fun v x => { x with template := v },
    .required "value" any fun v x => { x with value := v },
    .free "expect" (optional boolean) fun v x => { x with expected := v }]

/-- A document. -/
def document : Structure Document where
  title := "struct CheckDocument"
  members := [
    .free "options" (optionSet.schema {}) fun v x => { x with options := v },
    .free "types" (list (typeEntry.schema {})) fun v x => { x with types := v },
    .free "checks" (list check) fun v x => { x with checks := v },
    .free "matches" (list (matchEntry.schema {})) fun v x => { x with entries := v }]

/-- The document that a text holds. -/
def ofText? (text : String) : Except Refusal Document := do
  let (source, isAll) := Source.ofText text
  let doc ← document.schema {} .text source
  close isAll
  return doc

/-- The text for a document that is refused. -/
def refusalMessage (r : Refusal) : String :=
  "failed to parse check document" ++ (if r = .malformed then "" else ": " ++ r.message)

end TestSpec.Document
