import TestSpec.Report.Basic
import TestSpec.Report.Colour

/-!
# The report as text

The diagnostics come first, each with its remarks on the lines below it, then one
line per match, then a summary.  Colour marks the category and number of a
diagnostic, failed matches, and the summary of a run that did not succeed; it adds
nothing else to the text.
-/

namespace TestSpec

/-- The style of a category's word. -/
def Category.style : Category → Style
  | .error => .boldRed
  | .warning => .boldYellow
  | .message => .cyan

/-- The line of a remark. -/
def Remark.line (wrap : Wrapper) (colour : Bool) (r : Remark) : String :=
  wrap.applyIf .dimmed colour "  Related" ++ ": " ++ r.location.render ++ " - " ++ r.text

/-- The place a line begins with; a diagnostic without a file stands nowhere known. -/
def Location.heading (l : Location) : String :=
  if l.file.isEmpty then "<unknown>" else l.render

/-- The lines of a diagnostic and its remarks. -/
def Diagnostic.lines (wrap : Wrapper) (colour : Bool) (d : Diagnostic) : List String :=
  (d.location.heading ++ " - " ++ wrap.applyIf d.category.style colour d.category.word ++ " " ++
    wrap.applyIf .dimmed colour ("TT" ++ toString d.code) ++ ": " ++ d.text) ::
  d.related.map (Remark.line wrap colour)

/-- What became of a match, in words. -/
def MatchOutcome.verdict (m : MatchOutcome) : String :=
  match m.error, m.matched with
  | some error, _ => "error: " ++ error
  | none, some true => "matched"
  | none, some false => "did not match"
  | none, none => "not evaluated"

/-- What was expected of a match that failed without an error. -/
def MatchOutcome.regret (m : MatchOutcome) : String :=
  if m.isFailure && m.error.isNone then
    match m.expected with
    | some true => " (expected a match)"
    | some false => " (expected no match)"
    | none => ""
  else ""

/-- The line of a match. -/
def MatchOutcome.line (wrap : Wrapper) (colour : Bool) (m : MatchOutcome) : String :=
  wrap.applyIf .red (colour && m.isFailure) (m.name ++ " - " ++ m.verdict ++ m.regret)

/-- The ending of a word that counts things. -/
def plural (count : Nat) (ending : String) : String := if count = 1 then "" else ending

namespace Report

/-- The last line of a report. -/
def summary (r : Report) : String :=
  let errors := r.errorCount
  let others := r.diagnostics.length - errors
  let failed := r.failureCount
  "Found " ++ toString errors ++ " error" ++ plural errors "s" ++ ", " ++ toString others ++
    " other diagnostic" ++ plural others "s" ++ " and " ++ toString failed ++ " failed match" ++
    plural failed "es" ++ "."

/-- The lines of a report. -/
def lines (wrap : Wrapper) (colour : Bool) (r : Report) : List String :=
  r.diagnostics.flatMap (Diagnostic.lines wrap colour) ++
    r.outcomes.map (MatchOutcome.line wrap colour) ++
    [wrap.applyIf .boldRed (colour && !r.isSuccess) r.summary]

/-- The whole text of a report. -/
def render (wrap : Wrapper) (colour : Bool) (r : Report) : String :=
  "\n".intercalate (r.lines wrap colour)

end Report

end TestSpec
