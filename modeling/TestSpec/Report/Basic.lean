import TestSpec.Diagnostic.Collector
import TestSpec.Json.Basic

/-!
# The report of a run

A run reports its diagnostics and the outcome of every match.  A match fails when
it could not be evaluated or came out other than expected, and a run succeeds when
it has no errors and no failed match.

This module holds the report and its structured form; `TestSpec.Report.Text` writes
it for readers.
-/

namespace TestSpec

/-- The outcome of one match. -/
structure MatchOutcome where
  name : String
  /-- Whether the value matched; nothing if the match could not be evaluated. -/
  matched : Option Bool := none
  /-- What was expected, if anything was. -/
  expected : Option Bool := none
  /-- Why the match could not be evaluated. -/
  error : Option String := none
  deriving DecidableEq, Repr

/-- The match could not be evaluated, or came out other than expected. -/
def MatchOutcome.isFailure (m : MatchOutcome) : Bool :=
  match m.matched, m.expected with
  | none, _ => true
  | some matched, some expected => matched != expected
  | some _, none => false

/-- Everything a run reports. -/
structure Report where
  diagnostics : List Diagnostic := []
  outcomes : List MatchOutcome := []
  deriving DecidableEq, Repr

namespace Report

/-- How many diagnostics are errors. -/
def errorCount (r : Report) : Nat := r.diagnostics.countP Diagnostic.isError

/-- How many matches failed. -/
def failureCount (r : Report) : Nat := r.outcomes.countP MatchOutcome.isFailure

/-- No errors, and no failed match. -/
def isSuccess (r : Report) : Bool := r.errorCount = 0 && r.failureCount = 0

end Report

/-- The structured form of a location. -/
def Location.toJson (l : Location) : Json :=
  .object [("file", .string l.file), ("start", .integer l.start), ("length", .integer l.length)]

/-- The structured form of a remark. -/
def Remark.toJson (r : Remark) : Json :=
  .object [("location", r.location.toJson), ("message_text", .string r.text),
    ("category", .string r.category.title), ("code", .integer r.code)]

/-- The structured form of a diagnostic; remarks are listed only if there are any. -/
def Diagnostic.toJson (d : Diagnostic) : Json :=
  .object <|
    [("location", d.location.toJson), ("message_text", .string d.text),
      ("category", .string d.category.title), ("code", .integer d.code)] ++
    (if d.related.isEmpty then []
      else [("related_information", .array (d.related.map Remark.toJson))])

/-- The structured form of an outcome; what was not expected and did not fail is left out. -/
def MatchOutcome.toJson (m : MatchOutcome) : Json :=
  .object <|
    [("name", .string m.name), ("matched", m.matched.elim .null .boolean)] ++
    (m.expected.map fun b => ("expected", Json.boolean b)).toList ++
    (m.error.map fun s => ("error", Json.string s)).toList

/-- The structured form of a report. -/
def Report.toJson (r : Report) : Json :=
  .object [("diagnostics", .array (r.diagnostics.map Diagnostic.toJson)),
    ("matches", .array (r.outcomes.map MatchOutcome.toJson))]

end TestSpec
