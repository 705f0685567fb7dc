import TestSpec.Check.Complaint
import TestSpec.Kind.Acceptance
import TestSpec.Store.Resolve
import TestSpec.Value.Print
import TestSpec.Walk

/-!
# Checking values

A value is checked against a type part by part: its kind must be accepted, its
enumerator, fields and alternative must be known, its parts must fit the types of
the members they stand for, and a value without complaints so far must satisfy the
constraint in force.  Unbound values, and types that stay silent, raise no complaint.

The walk counts how deep it stands, and gives up without a complaint where it would
go deeper than it may.
-/

namespace TestSpec

/-- Run a check one level deeper, and give it up if that is too deep. -/
def Nesting.within (n : Nesting) (check : Nesting → Findings × Nesting) : Findings × Nesting :=
  match n.enter? with
  | none => (.abandoned, n)
  | some deeper =>
    let (findings, n) := check deeper
    (findings, n.leave)

/-- The literal that a value corresponds to in a constraint, for content that a constraint can
name. -/
def Scalar.literal? : Scalar → Option Literal
  | .boolean b => some (.boolean b)
  | .integer i => some (.integer i)
  | .real x => some (.real x)
  | .text s => some (.string s)
  | .enumerated name _ => some (.enumerated name)
  | .null | .verdict _ | .bits _ | .nibbles _ | .octets _ | .objectId _ => none

/-- The literal that a value corresponds to in a constraint. -/
def Value.literal? : Value → Option Literal
  | .scalar _ content => content.literal?
  | .unbound _ | .record _ _ | .union _ _ _ | .list _ _ => none

namespace Store

/-- A value of a kind of the test specification language may be used where a type is expected. -/
def acceptsKind (s : Store) (type : TypeId) (actual : Kind) : Bool :=
  let (kind, dialect) := s.resolvedKind type
  kind.accepts actual dialect .ttcn3

/-- Whether the content of a value satisfies the constraint in force for a type. -/
def checkConstraint (s : Store) (type : TypeId) (v : Value) : Findings :=
  match s.effectiveConstraint type, v.literal? with
  | some c, some literal =>
    if c.admits literal then .clean
    else .complaint .subtypeMismatch
      [v.render ++ " is not a valid value for type `" ++ s.name type ++ "' which has subtype " ++
        c.render]
  | _, _ => .clean

/-- Whether an enumerator is one of an enumerated type. -/
def checkEnumerator (s : Store) (type : TypeId) (name : String) : Findings :=
  match s.resolveAlias? type with
  | none => .clean
  | some last =>
    if ((s.get last).enumerator? name).isSome then .clean
    else .complaint .unknownEnumerator [name, s.name type]

/-- Findings about the parts of a value, completed by the constraint if the parts are in order. -/
def completeCheck (s : Store) (type : TypeId) (v : Value) (parts : Findings) : Findings :=
  if parts.ok then parts.and (s.checkConstraint type v) else parts

mutual

/-- Check a value against a type. -/
def checkValue (s : Store) (type : TypeId) (n : Nesting) : Value → Findings × Nesting
  | .unbound _ => n.within fun n => (.clean, n)
  | .scalar kind content => n.within fun n =>
    if s.isSilenced type then (.clean, n)
    else if !s.acceptsKind type kind then (.complaint .incompatibleValue [s.name type], n)
    else
      let parts := match content with
        | .enumerated name _ => s.checkEnumerator type name
        | _ => .clean
      (s.completeCheck type (.scalar kind content) parts, n)
  | .record kind fields => n.within fun n =>
    if s.isSilenced type then (.clean, n)
    else if !s.acceptsKind type kind then (.complaint .incompatibleValue [s.name type], n)
    else
      let (parts, n) := checkFields s type n fields
      (s.completeCheck type (.record kind fields) parts, n)
  | .union kind alternative value => n.within fun n =>
    if s.isSilenced type then (.clean, n)
    else if !s.acceptsKind type kind then (.complaint .incompatibleValue [s.name type], n)
    else
      match s.fieldType type alternative with
      | none => (.complaint .unknownAlternative [alternative, s.name type], n)
      | some t =>
        let (parts, n) := checkValue s t n value
        (s.completeCheck type (.union kind alternative value) parts, n)
  | .list kind elements => n.within fun n =>
    if s.isSilenced type then (.clean, n)
    else if !s.acceptsKind type kind then (.complaint .incompatibleValue [s.name type], n)
    else
      match s.elementType type with
      | none => (s.completeCheck type (.list kind elements) .clean, n)
      | some t =>
        let (parts, n) := checkElements s t n elements
        (s.completeCheck type (.list kind elements) parts, n)

/-- Check the fields of a record against the fields of a type. -/
def checkFields (s : Store) (type : TypeId) (n : Nesting) : List FieldValue → Findings × Nesting
  | [] => (.clean, n)
  | .present name value :: rest =>
    let (first, n) : Findings × Nesting := match s.fieldType type name with
      | none => (.complaint .unknownField [name, s.name type], n)
      | some t => checkValue s t n value
    let (others, n) := checkFields s type n rest
    (first.and others, n)
  | .omitted name :: rest =>
    let first : Findings := match s.fieldType type name with
      | none => .complaint .unknownField [name, s.name type]
      | some _ => .clean
    let (others, n) := checkFields s type n rest
    (first.and others, n)

/-- Check the elements of a list against the type of the elements. -/
def checkElements (s : Store) (type : TypeId) (n : Nesting) : List Value → Findings × Nesting
  | [] => (.clean, n)
  | value :: rest =>
    let (first, n) := checkValue s type n value
    let (others, n) := checkElements s type n rest
    (first.and others, n)

end

end Store

end TestSpec
