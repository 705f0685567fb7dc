import TestSpec.Diagnostic.Basic

/-!
# Collected diagnostics

Reporting never stops an analysis: a collector keeps the diagnostics in the order
they are reported, and they are counted afterwards.
-/

namespace TestSpec

/-- The diagnostics reported so far, oldest first. -/
structure Collector where
  diagnostics : Array Diagnostic := #[]
  deriving Repr

namespace Collector

/-- Keep one more diagnostic. -/
def report (c : Collector) (d : Diagnostic) : Collector := ⟨c.diagnostics.push d⟩

/-- How many diagnostics were reported. -/
def size (c : Collector) : Nat := c.diagnostics.size

/-- The diagnostics in the order they were reported. -/
def toList (c : Collector) : List Diagnostic := c.diagnostics.toList

/-- How many errors were reported. -/
def errorCount (c : Collector) : Nat := c.toList.countP Diagnostic.isError

/-- How many warnings were reported. -/
def warningCount (c : Collector) : Nat := c.toList.countP fun d => d.category == .warning

/-- Whether a diagnostic with the number was reported. -/
def hasCode (c : Collector) (code : Nat) : Bool := c.toList.any fun d => d.code == code

/-- A report appends its diagnostic. -/
@[simp] theorem toList_report (c : Collector) (d : Diagnostic) :
    (c.report d).toList = c.toList ++ [d] := by
  simp [report, toList]

end Collector

end TestSpec
