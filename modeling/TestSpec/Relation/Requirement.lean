import TestSpec.Relation.Basic
import TestSpec.Store.Basic

/-!
# What structural compatibility requires of two declarations

Two declarations compared member by member give rise to a list of requirements, each
of which either has failed already or asks that the types of two members be related.
What is compared depends on the kind of the expected declaration:

* records by position: as many fields on both sides, of the same optionality;
* sets by name: as many fields on both sides, and for each actual field an expected
  one of that name and of the same optionality;
* unions: for each actual alternative an expected one of that name;
* enumerated types: for each actual enumerator an expected one of that name;
* lists: the same dimension in arrays, and the element types if both have one.

Nothing is required of other kinds.
-/

namespace TestSpec

/-- One requirement of structural compatibility. -/
inductive Requirement where
  | refuted (cause : Mismatch)
  | related (label : String) (expected actual : TypeRef)
  deriving DecidableEq, Repr

namespace Requirement

/-- The requirements of two fields at one position of records. -/
def ofRecordFields (e a : Field) : Requirement :=
  if e.isOptional = a.isOptional then .related e.name e.type a.type
  else .refuted (.recordOptionality e.name)

/-- The requirements of records. -/
def ofRecords (e a : Declaration) : List Requirement :=
  if e.fields.length = a.fields.length then List.zipWith ofRecordFields e.fields a.fields
  else [.refuted (.recordFieldCount e.fields.length a.fields.length)]

/-- The requirement of a field of the actual set. -/
def ofSetField (e a : Declaration) (f : Field) : Requirement :=
  match e.field? f.name with
  | none => .refuted (.noCounterpart f.name a.name e.name)
  | some g =>
    if g.isOptional = f.isOptional then .related g.name g.type f.type
    else .refuted (.setOptionality g.name)

/-- The requirements of sets. -/
def ofSets (e a : Declaration) : List Requirement :=
  if e.fields.length = a.fields.length then a.fields.map (ofSetField e a)
  else [.refuted (.setFieldCount e.fields.length a.fields.length)]

/-- The requirement of an alternative of the actual union. -/
def ofAlternative (e a : Declaration) (f : Field) : Requirement :=
  match e.field? f.name with
  | none => .refuted (.missingAlternative f.name a.name e.name)
  | some g => .related g.name g.type f.type

/-- The requirements of enumerated types: those enumerators that are missing. -/
def ofEnumerated (e a : Declaration) : List Requirement :=
  (a.enumerators.filter fun item => (e.enumerator? item.name).isNone).map fun item =>
    .refuted (.missingEnumerator item.name a.name e.name)

/-- The requirements of lists. -/
def ofLists (e a : Declaration) : List Requirement :=
  if e.kind = .array ∧ e.dimension ≠ a.dimension then
    [.refuted (.dimension e.dimension a.dimension)]
  else match e.element, a.element with
    | some expected, some actual => [.related "element type" expected actual]
    | _, _ => []

/-- The requirements of two declarations, in the order they are looked at. -/
def all (e a : Declaration) : List Requirement :=
  if e.kind.isRecordLike then ofRecords e a
  else if e.kind.isSetLike then ofSets e a
  else if e.kind.isUnionLike then a.fields.map (ofAlternative e a)
  else if e.kind.isEnumerated then ofEnumerated e a
  else if e.kind.isList then ofLists e a
  else []

end Requirement

end TestSpec
