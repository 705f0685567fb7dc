import TestSpec.Check.Value
import TestSpec.Template.Inspect

/-!
# Checking templates

The walk follows the template: every template inside it is checked against the type
of the member it stands for.  A matching mechanism is accepted on kinds where it can
succeed, `omit` and `ifpresent` only where the template stands for an optional
field.

A check is content when it raised no error.  A part that lies too deep is not walked
and raises none.
-/

namespace TestSpec

/-- The complaint that something cannot be used for a type. -/
def notAllowed (what typeName : String) : Complaint := ⟨.templateNotAllowed, [what, typeName]⟩

/-- The complaints about a length restriction on a type of a kind. -/
def lengthComplaints (kind : Kind) (typeName : String) : LengthRestriction → List Complaint
  | restriction =>
    if !kind.hasLength then [⟨.lengthNotAllowed, [typeName]⟩]
    else match restriction with
      | .range least (some greatest) =>
        if greatest < least then [⟨.lengthBoundsInverted, [toString least, toString greatest]⟩]
        else []
      | _ => []

/-- The complaint about an array template with more fixed elements than the array has.  Items
`*` stand for any number of elements and are not counted. -/
def dimensionComplaints (d : Declaration) (typeName : String) (items : List Template) :
    List Complaint :=
  match d.dimension with
  | none => []
  | some dimension =>
    let fixed := Template.fixedCount items
    if d.kind = .array ∧ dimension < fixed then
      [⟨.elementCount, [typeName, toString dimension, toString fixed]⟩]
    else []

/-- The complaints about a range of values of an ordered type. -/
def rangeComplaints (kind : Kind) (dialect : Dialect) (typeName : String) (r : ValueRange) :
    List Complaint :=
  let foreign := (r.lower.toList ++ r.upper.toList).filter fun b =>
    !kind.accepts b.value.kind dialect .ttcn3
  if foreign.isEmpty then
    match r.lower, r.upper with
    | some low, some high =>
      match low.value.order high.value with
      | .ok .gt => [⟨.rangeBoundsInverted, []⟩]
      | _ => []
    | _, _ => []
  else foreign.map fun _ => ⟨.incompatibleValue, [typeName]⟩

/-- The complaints about fields of a type for which no field template is given. -/
def missingComplaints (d : Declaration) (typeName : String) (given : List String) :
    List Complaint :=
  (d.fields.filter fun f => !given.contains f.name).map fun f => ⟨.missingField, [f.name, typeName]⟩

/-- The findings that consist of complaints: content if none of them is an error. -/
def Findings.ofComplaints (complaints : List Complaint) : Findings :=
  ⟨complaints, complaints.all fun c => !c.isError⟩

namespace Store

mutual

/-- Check a template against a type. -/
def checkTemplate (s : Store) (type : TypeId) (isOptional : Bool) (n : Nesting) :
    Template → Findings × Nesting
  | .mk selector ifPresent length => n.within fun n =>
    if s.isSilenced type then (.clean, n)
    else match s.resolveAlias? type with
      | none => (.clean, n)
      | some last =>
        let d := s.get last
        let modifiers :=
          (if ifPresent && !isOptional then [⟨.ifPresentNotAllowed, []⟩] else []) ++
            length.elim [] (lengthComplaints d.kind (s.name type))
        let (selected, n) := checkSelector s type last isOptional n selector
        (.ofComplaints (modifiers ++ selected), n)

/-- The complaints about a selector for a type, `last` being the end of its alias chain. -/
def checkSelector (s : Store) (type last : TypeId) (isOptional : Bool) (n : Nesting) :
    Selector → List Complaint × Nesting
  | .uninitialized | .any | .anyOrOmit => ([], n)
  | .omit => (if isOptional then [] else [⟨.omitNotAllowed, []⟩], n)
  | .specific value =>
    let (findings, n) := s.checkValue type n value
    (findings.complaints, n)
  | .record _ fields =>
    let d := s.get last
    if d.kind.isRecordLike || d.kind.isSetLike then
      let (inner, n) := checkFieldTemplates s type d n fields
      (inner ++ missingComplaints d (s.name type) (fields.map FieldTemplate.name), n)
    else ([notAllowed "Record template" (s.name type)], n)
  | .union _ alternative template =>
    if (s.get last).kind.isUnionLike then
      match s.fieldType last alternative with
      | some t =>
        let (findings, n) := checkTemplate s t false n template
        (findings.complaints, n)
      | none => ([⟨.unknownAlternative, [alternative, s.name type]⟩], n)
    else ([notAllowed "Union template" (s.name type)], n)
  | .elements _ items =>
    let d := s.get last
    if d.kind.isList then
      let count := dimensionComplaints d (s.name type) items
      match s.elementType last with
      | some t =>
        let (inner, n) := checkTemplates s t false n items
        (count ++ inner, n)
      | none => (count, n)
    else ([notAllowed "List template" (s.name type)], n)
  | .valueList items | .complement items => checkTemplates s type isOptional n items
  | .range r =>
    let d := s.get last
    if d.kind.isOrdered then (rangeComplaints d.kind d.dialect (s.name type) r, n)
    else ([⟨.rangeNotAllowed, [s.name type]⟩], n)
  | .decoded target inner =>
    if (s.get last).kind.isString then
      match s.lookup target.name with
      | some t =>
        let (findings, n) := checkTemplate s t false n inner
        (findings.complaints, n)
      | none => ([], n)
    else ([notAllowed "Decoded content match" (s.name type)], n)
  | .pattern _ =>
    if (s.get last).kind.isCharacterString then ([], n)
    else ([⟨.patternNotAllowed, [s.name type]⟩], n)

/-- The complaints about the field templates of a record template. -/
def checkFieldTemplates (s : Store) (type : TypeId) (d : Declaration) (n : Nesting) :
    List FieldTemplate → List Complaint × Nesting
  | [] => ([], n)
  | .mk name template :: rest =>
    let (first, n) : List Complaint × Nesting := match d.field? name with
      | none => ([⟨.unknownField, [name, s.name type]⟩], n)
      | some f =>
        match s.resolveRef? f.type with
        | none => ([], n)
        | some t =>
          let (findings, n) := checkTemplate s t f.isOptional n template
          (findings.complaints, n)
    let (others, n) := checkFieldTemplates s type d n rest
    (first ++ others, n)

/-- The complaints about templates that all stand for one type. -/
def checkTemplates (s : Store) (type : TypeId) (isOptional : Bool) (n : Nesting) :
    List Template → List Complaint × Nesting
  | [] => ([], n)
  | template :: rest =>
    let (first, n) := checkTemplate s type isOptional n template
    let (others, n) := checkTemplates s type isOptional n rest
    (first.complaints ++ others, n)

end

end Store

end TestSpec
