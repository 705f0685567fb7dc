import TestSpec.Check.Complaint
import TestSpec.Store.Resolve

/-!
# Checking declarations

What a check complains about in a declaration depends on the store and the
declaration alone: an alias that leads nowhere, references to types that do not
exist, names that are used twice, and a constraint that does not fit the type, has
its bounds in the wrong order, admits nothing, or does not narrow the constraint of
the type that an alias stands for.

Check stamps and the erroneous marks in them play no part in it.
-/

namespace TestSpec

/-- The names that already stand earlier in a list or in `seen`. -/
def repeatedNames (seen : List String) : List String → List String
  | [] => []
  | name :: rest =>
    if seen.contains name then name :: repeatedNames seen rest
    else repeatedNames (name :: seen) rest

namespace Constraint

/-- Kinds that take no constraint of any shape. -/
def refusesAll : Kind → Bool
  | .undefined | .null | .port | .signature | .component | .default | .address | .any
  | .objectClassField => true
  | _ => false

/-- A constraint of this shape may restrict a type of the kind. -/
def appliesTo (c : Constraint) (kind : Kind) : Bool :=
  !refusesAll kind &&
    match c with
    | .values _ => true
    | .range _ => kind.isOrdered
    | .lengths _ => kind.hasLength

/-- The texts of the first pair of bounds in the wrong order. -/
def invertedBounds? : Constraint → Option (String × String)
  | .values _ => none
  | .range r =>
    if r.isWellFormed then none
    else match r.lower, r.upper with
      | some low, some high => some (low.value.render, high.value.render)
      | _, _ => none
  | .lengths ranges =>
    match ranges.find? fun r => !r.isWellFormed with
    | some ⟨least, some greatest⟩ => some (toString least, toString greatest)
    | _ => none

end Constraint

namespace Store

/-- The complaint about a reference to a type that does not exist. -/
def referenceComplaint? (s : Store) (r : TypeRef) : Option Complaint :=
  match s.resolveRef r with
  | .ok _ => none
  | .error (.unresolved name) => some ⟨.unresolvedReference, [name]⟩
  | .error (.circular _) => none

/-- The complaint about an alias that leads nowhere. -/
def aliasComplaint? (s : Store) (id : TypeId) : Option Complaint :=
  if (s.get id).isAlias then
    match s.resolveAlias id with
    | .ok _ => none
    | .error (.unresolved name) => some ⟨.unresolvedReference, [name]⟩
    | .error (.circular chain) => some ⟨.circularReference, [chainText chain]⟩
  else none

/-- The references of a declaration to the types of its parts. -/
def partReferences (d : Declaration) : List TypeRef :=
  d.fields.map Field.type ++ d.element.toList ++ d.parameters.map Parameter.type

/-- The complaints about names that are used twice. -/
def nameComplaints (d : Declaration) : List Complaint :=
  (repeatedNames [] (d.fields.map Field.name)).map (fun n => ⟨.duplicateField, [n, d.name]⟩) ++
    (repeatedNames [] (d.enumerators.map Enumerator.name)).map fun n =>
      ⟨.duplicateEnumerator, [n, d.name]⟩

/-- The parent of an alias and the constraint in force for it. -/
def parentConstraint? (s : Store) (d : Declaration) : Option (TypeId × Constraint) := do
  if d.isAlias then
    let parent ← s.resolveRef? (← d.target)
    return (parent, ← s.effectiveConstraint parent)
  else none

/-- The complaint about a constraint of an alias that does not narrow its parent's. -/
def narrowingComplaint? (s : Store) (d : Declaration) (c : Constraint) : Option Complaint :=
  match s.parentConstraint? d with
  | none => none
  | some (parent, inherited) =>
    if c.isSubsetOf inherited then none
    else some ⟨.subtypeNotASubset, [c.render, d.name, inherited.render, s.name parent]⟩

/-- The complaints about the constraint of a declaration. -/
def constraintComplaints (s : Store) (id : TypeId) (c : Constraint) : List Complaint :=
  let d := s.get id
  let kind := (s.resolvedKind id).1
  if kind = .undefined then []
  else if !c.appliesTo kind then [⟨.subtypeNotApplicable, [d.name]⟩]
  else match c.invertedBounds? with
    | some (lower, upper) => [⟨.subtypeBoundsInverted, [lower, upper]⟩]
    | none =>
      (if c.isEmpty then [⟨.emptySubtype, [d.name]⟩] else []) ++
        (s.narrowingComplaint? d c).toList

/-- All complaints about a declaration, in the order they are reported. -/
def complaints (s : Store) (id : TypeId) : List Complaint :=
  let d := s.get id
  (s.aliasComplaint? id).toList ++ (partReferences d).filterMap s.referenceComplaint? ++
    nameComplaints d ++ (d.constraint.elim [] (s.constraintComplaints id))

end Store

end TestSpec
