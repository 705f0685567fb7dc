import TestSpec.Document.Basic
import TestSpec.Document.Failure

/-!
# The store of a document

The declarations of a document are made in the order they are listed.  How a literal
of a constraint is read depends on the kind at the end of the alias chain of its
declaration, which is known only when all declarations are there; so constraints are
read against a store that holds the declarations without them.
-/

namespace TestSpec.Document

/-- The declaration that an entry makes, without its constraint. -/
def TypeEntry.bare (e : TypeEntry) : Except Failure Declaration := do
  let (kind, target) : Kind × Option TypeRef ← match e.aliasOf, e.kind with
    | some target, none | some target, some .referenced => pure (.referenced, some (.name target))
    | some _, some kind => .error (.aliasWithKind e.name kind)
    | none, some .referenced | none, none => .error (.noKind e.name)
    | none, some kind => pure (kind, none)
  return {
    name := e.name
    kind
    target
    dialect := e.dialect
    fields := e.fields
    element := e.element.map .name
    dimension := e.dimension
    enumerators := e.enumerators.zipIdx.map fun (x, i) => ⟨x.name, x.value.getD (Int64.ofNat i)⟩
    parameters := e.parameters }

/-- The literal that a JSON value stands for in a constraint on a type of some kind.  As a limit
of a range, a string of one character is that character. -/
def literal (kind : Kind) (isLimit : Bool) (j : Json) : Except Failure Literal :=
  match j with
  | .boolean b => .ok (.boolean b)
  | .integer i =>
    .ok (if kind ≠ .real ∧ Json.fitsInt64 i then .integer (Int64.ofInt i) else .real (.ofInt i))
  | .real x => .ok (.real x)
  | .string s =>
    if kind.isEnumerated then .ok (.enumerated s)
    else match isLimit, onlyChar? s with
      | true, some c => .ok (.char c)
      | _, _ => .ok (.string s)
  | j => .error (.noLiteral j)

/-- A limit of a range, if there is one. -/
def limit (kind : Kind) (isExclusive : Bool) : Option Json → Except Failure (Option Limit)
  | none => .ok none
  | some j => (fun l => some ⟨l, isExclusive⟩) <$> literal kind true j

/-- The constraint that an entry describes for a type of some kind. -/
def ConstraintEntry.constraint (kind : Kind) : ConstraintEntry → Except Failure Constraint
  | .values literals => .values <$> literals.mapM (literal kind false)
  | .range r => do
    let lower ← limit kind r.minExclusive r.min
    let upper ← limit kind r.maxExclusive r.max
    return .range ⟨lower, upper⟩
  | .lengths ranges => .ok (.lengths ranges)

/-- The kind of the type that a name means in a store. -/
def kindOfName (s : Store) (name : String) : Kind :=
  (s.lookup name).elim .undefined fun id => (s.resolvedKind id).1

/-- The declaration that an entry makes, its constraint being read against `shape`. -/
def TypeEntry.declaration (shape : Store) (e : TypeEntry) : Except Failure Declaration := do
  let bare ← e.bare
  match e.constraint with
  | none => return bare
  | some c =>
    let constraint ← locate (.constraintOf e.name) (c.constraint (kindOfName shape e.name))
    return { bare with constraint := some constraint }

/-- The store of a list of entries. -/
def buildStore (entries : List TypeEntry) : Except Failure Store := do
  let bare ← entries.mapM TypeEntry.bare
  let shape := bare.foldl Store.declare Store.initial
  let declarations ← entries.mapM (TypeEntry.declaration shape)
  return declarations.foldl Store.declare Store.initial

/-- The type that a name means. -/
def typeOfName (s : Store) (name : String) : Except Failure TypeId :=
  (s.lookup name).elim (.error (.unknownType name)) .ok

end TestSpec.Document
