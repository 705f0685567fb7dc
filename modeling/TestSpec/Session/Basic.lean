import TestSpec.Check.Declaration
import TestSpec.Check.Template
import TestSpec.Diagnostic.Collector
import TestSpec.Options
import TestSpec.Relation.Resolver

/-!
# Sessions

A session runs checks over one store.  It holds the store with its check stamps, the
options, the current pass, the resolver that remembers answers, the diagnostics
reported so far with the number of errors among them, and how deep the walk of the
current check stands.

A declaration is checked at most once per pass, when it is first reached: the check
claims the stamp of the declaration before it reports anything, and marks it
erroneous if it reported an error.
-/

namespace TestSpec

/-- Everything that checks over one store share. -/
structure Session where
  store : Store
  options : Options := {}
  pass : Pass
  resolver : Resolver := {}
  collector : Collector := {}
  errorCount : Nat := 0
  nesting : Nesting := { maxDepth := maxCheckDepth }

/-- A check: what it answers, and the session after it. -/
abbrev Check := StateM Session

namespace Session

/-- Report one diagnostic. -/
def emit (s : Session) (d : Diagnostic) : Session :=
  { s with
    collector := s.collector.report d
    errorCount := if d.isError then s.errorCount + 1 else s.errorCount }

/-- Report complaints at one location. -/
def emitAll (s : Session) (location : Location) (complaints : List Complaint) : Session :=
  complaints.foldl (fun s c => s.emit (c.diagnostic location)) s

/-- Move to another pass. -/
def setPass (s : Session) (pass : Pass) : Session := { s with pass }

/-- Switch strict mode on or off.  A change makes the resolver forget its answers. -/
def setStrict (s : Session) (isStrict : Bool) : Session :=
  { s with
    options := { s.options with strictStructural := isStrict }
    resolver := if s.options.strictStructural = isStrict then s.resolver else s.resolver.forget }

end Session

namespace Check

/-- Report a message at a location. -/
def report (location : Location) (m : Message) (args : List String) : Check Unit :=
  modify fun s => s.emit (.ofMessage location m args)

/-- Put another check stamp on a declaration. -/
def stamp (id : TypeId) (stamp : CheckStamp) : Check Unit :=
  modify fun s => { s with store := s.store.setStamp id stamp }

/-- Check one declaration, unless this pass has done so; the answer says whether it is in order. -/
def declaration (id : TypeId) : Check Bool := do
  let s ← get
  let d := s.store.get id
  if d.isBuiltin then return true
  match d.stamp.claim? s.pass with
  | none => return !d.isErroneous
  | some claimed =>
    let complaints := s.store.complaints id
    let erroneous := complaints.any Complaint.isError
    modify fun s => s.emitAll d.location complaints
    stamp id (claimed.mark erroneous)
    return !erroneous

/-- Check declarations one after another, and count those that are erroneous. -/
def declarations : List TypeId → Check Nat
  | [] => return 0
  | id :: rest => do
    let ok ← declaration id
    let others ← declarations rest
    return if ok then others else others + 1

/-- Check all declarations but the builtin ones, and count those that are erroneous. -/
def allDeclarations : Check Nat := do declarations (← get).store.userTypes

/-- What a context accepts in place of a reference. -/
inductive Expectation where
  | value
  | template
  deriving DecidableEq, Repr

/-- The noun for what was expected. -/
def Expectation.noun : Expectation → String
  | .value => "value"
  | .template => "value or template"

/-- A reference to a declared value or template, or to one element of a string. -/
structure Reference where
  location : Location
  type : TypeId
  isStringElement : Bool := false
  deriving DecidableEq, Repr

/-- The relation of two types, as the session's resolver answers. -/
def relation (expected actual : TypeId) (expectedIsElement actualIsElement : Bool) :
    Check Relation := do
  let s ← get
  let (answer, resolver) := s.resolver.query s.store s.pass s.options.strictStructural expected
    actual expectedIsElement actualIsElement
  set { s with resolver }
  return answer

/-- Report the use of a value of another declaration, as loudly as the options say. -/
def reportConversion (location : Location) (expected actual : String) : Check Unit := do
  let d := Diagnostic.ofMessage location .typeCompatibility [expected, actual]
  match (← get).options.typeCompatibility with
  | .ignore => return ()
  | .warning => modify (·.emit d)
  | .error => modify (·.emit { d with category := .error })

/-- The complaint about a reference to an incompatible type.  A reference to a port is reported
where the port is used, and one to a signature only where a template is expected. -/
def referenceComplaint? (kind : Kind) (expectation : Expectation) (expected actual : String)
    (answer : Relation) : Option Complaint :=
  if kind = .port then none
  else if kind = .signature then
    if expectation = .template then some ⟨.signatureTemplateMismatch, [expected, actual]⟩ else none
  else match answer.level, answer.clash with
    | .incompatibleSubtype, some clash => some ⟨.subtypeMismatch, [clash.message]⟩
    | _, _ =>
      if kind.isStructured || kind.isList then
        some ⟨.structuredTypeMismatch, [answer.explain expected actual]⟩
      else some ⟨.typeMismatch, [expectation.noun, expected, actual]⟩

/-- Check that a reference may be used where a type is expected.  The declarations of both types
are checked first, as their errors decide whether the types are compared at all. -/
def reference (expected : TypeId) (r : Reference) (expectation : Expectation) : Check Bool := do
  let _ ← declaration expected
  let _ ← declaration r.type
  let answer ← relation expected r.type false r.isStringElement
  let s ← get
  let expectedName := s.store.name expected
  let actualName := s.store.name r.type
  if answer.isCompatible then
    if answer.needsConversion then reportConversion r.location expectedName actualName
    return true
  else
    let kind := (s.store.resolvedKind expected).1
    let complaint? := referenceComplaint? kind expectation expectedName actualName answer
    modify (·.emitAll r.location complaint?.toList)
    return false

/-- Check an expression of which only the kind of its result is known. -/
def expression (location : Location) (expected : TypeId) (result : Kind) : Check Bool := do
  let s ← get
  if s.store.isSilenced expected || s.store.acceptsKind expected result then return true
  else
    report location .incompatibleValue [s.store.name expected]
    return false

/-- Keep the findings of a walk and the place where it stands after it. -/
def keep (location : Location) (walk : Nesting → Findings × Nesting) : Check Bool := do
  let s ← get
  let (findings, nesting) := walk s.nesting
  set { s.emitAll location findings.complaints with nesting }
  return findings.ok

/-- Check a value against the type it is used for. -/
def value (location : Location) (type : TypeId) (v : Value) : Check Bool := do
  let store := (← get).store
  keep location fun n => store.checkValue type n v

/-- Check a template against its type; it may be optional where it stands for such a field. -/
def template (location : Location) (type : TypeId) (t : Template) (isOptional : Bool) :
    Check Bool := do
  let store := (← get).store
  keep location fun n => store.checkTemplate type isOptional n t

end Check

end TestSpec
