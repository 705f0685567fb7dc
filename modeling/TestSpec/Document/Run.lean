import TestSpec.Codec
import TestSpec.Document.Template
import TestSpec.Matching
import TestSpec.Report.Basic
import TestSpec.Session.Redirect

/-!
# Running a document

A run makes the declarations of a document, checks them all, makes the checks in the
order they are listed, all in one pass, and then the matches.  Values and templates
are read before anything is checked; a document in which one cannot be read has no
report at all, and the first such failure is the one told.
-/

namespace TestSpec.Document

/-- The name that an entry was given, or its place in its list. -/
def labelOf (name : Option String) (list : String) (index : Nat) : String :=
  name.getD (list ++ "[" ++ toString index ++ "]")

/-- An assignment whose variable may have a type. -/
def readAssignment (s : Store) (location : Location) (e : AssignmentEntry) :
    Except Failure ParameterAssignment := do
  let variableType ← e.variableType.mapM (typeOfName s)
  return { parameter := e.parameter, target := e.target, variableType, location }

/-- The check that an entry stands for. -/
def CheckEntry.action (s : Store) (location : Location) : CheckEntry → Except Failure (Check Bool)
  | .reference c => do
    let expected ← typeOfName s c.expected
    let actual ← typeOfName s c.actual
    let r : Check.Reference :=
      { location, type := actual, isStringElement := c.isStringElement }
    return Check.reference expected r (if c.isTemplate then .template else .value)
  | .expression c => do
    let expected ← typeOfName s c.expected
    return Check.expression location expected c.resultKind
  | .value c => do
    let type ← typeOfName s c.type
    let v ← readValue s type c.value
    return Check.value location type v
  | .template c => do
    let type ← typeOfName s c.type
    let t ← readTemplate s type c.template
    return Check.template location type t c.isOptional
  | .redirect c => do
    let signature ← typeOfName s c.signature
    let assignments ← c.assignments.mapM (readAssignment s location)
    let side := if c.isReply then RedirectSide.reply else .call
    return Prod.fst <$> Check.redirect signature { location, assignments } side

/-- The check of an entry in its place in the list. -/
def checkAt (s : Store) (entry : CheckEntry × Nat) : Except Failure (Check Bool) :=
  let label := labelOf entry.1.name? "checks" entry.2
  locate (.check label) (entry.1.action s (.ofFile label))

/-- The outcome of a match in its place in the list. -/
def outcomeAt (s : Store) (isLegacy : Bool) (entry : MatchEntry × Nat) :
    Except Failure MatchOutcome := do
  let (e, index) := entry
  let name := labelOf e.name "matches" index
  let type ← typeOfName s e.type
  let t ← locate (.templateOf name) (readTemplate s type e.template)
  let v ← locate (.valueOf name) (readValue s type e.value)
  return match t.isMatch { isLegacy, codec := some Codec.raw } v with
    | .ok isMatch => { name, matched := some isMatch, expected := e.expected }
    | .error e' => { name, matched := none, expected := e.expected, error := some e'.message }

/-- Make checks one after another. -/
def makeChecks : List (Check Bool) → Check Unit
  | [] => return ()
  | c :: rest => do
    let _ ← c
    makeChecks rest

/-- The session that a run begins with, in the first pass. -/
def openingSession (store : Store) (options : Options) : Session :=
  { store, options, pass := (PassClock.next {}).1 }

/-- The diagnostics of the declarations of a store and of checks after them. -/
def diagnose (store : Store) (options : Options) (checks : List (Check Bool)) : List Diagnostic :=
  let all : Check Unit := do
    let _ ← Check.allDeclarations
    makeChecks checks
  (all.run (openingSession store options)).2.collector.toList

end TestSpec.Document

namespace TestSpec

/-- The options of a run: what the command line says, else what the document says, else the
defaults. -/
def Document.resolveOptions (d : Document) (given : PartialOptions) : Options :=
  given.over (d.options.over {})

/-- The report of a run. -/
def Document.run (d : Document) (options : Options) : Except Document.Failure Report := do
  let store ← Document.buildStore d.types
  let checks ← d.checks.zipIdx.mapM (Document.checkAt store)
  let outcomes ← d.entries.zipIdx.mapM (Document.outcomeAt store options.legacyMatching)
  return { diagnostics := Document.diagnose store options checks, outcomes }

end TestSpec
