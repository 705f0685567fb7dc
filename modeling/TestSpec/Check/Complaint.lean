import TestSpec.Diagnostic.Basic

/-!
# What a check finds

A check of a declaration, a value or a template finds **complaints**, messages with
their arguments, and says whether it is content.  The complaints of one check all
belong to the location the check was asked for.
-/

namespace TestSpec

/-- A message and its arguments. -/
structure Complaint where
  message : Message
  args : List String := []
  deriving DecidableEq, Repr

namespace Complaint

/-- The complaint counts as an error. -/
def isError (c : Complaint) : Bool := c.message.category == .error

/-- The diagnostic for a complaint at a location. -/
def diagnostic (location : Location) (c : Complaint) : Diagnostic :=
  .ofMessage location c.message c.args

end Complaint

/-- The complaints of a check in the order they were found, and its verdict. -/
structure Findings where
  complaints : List Complaint := []
  ok : Bool := true
  deriving DecidableEq, Repr

namespace Findings

/-- Nothing was found. -/
def clean : Findings := {}

/-- One complaint, and a check that is not content. -/
def complaint (message : Message) (args : List String) : Findings := ⟨[⟨message, args⟩], false⟩

/-- A check that was given up without a complaint. -/
def abandoned : Findings := ⟨[], false⟩

/-- One check after another: all complaints, and content only if both are. -/
def and (a b : Findings) : Findings := ⟨a.complaints ++ b.complaints, a.ok && b.ok⟩

end Findings

end TestSpec
