import TestSpec.Json.Basic
import TestSpec.Options
import TestSpec.Store.Declaration

/-!
# Check documents

A check document declares types, lists checks of references, expressions, values,
templates and redirects against them, and lists matches of values against templates.
Types are named; values, templates and the literals of constraints are JSON, which is
read against the types once these are declared.
-/

namespace TestSpec.Document

/-- An enumerator; without a value it takes its position in the list. -/
structure EnumeratorEntry where
  name : String := ""
  value : Option Int64 := none

/-- The limits of a range, and whether they are excluded from it. -/
structure RangeEntry where
  min : Option Json := none
  max : Option Json := none
  minExclusive : Bool := false
  maxExclusive : Bool := false

/-- The constraint of a type. -/
inductive ConstraintEntry where
  | values (literals : List Json)
  | range (range : RangeEntry)
  | lengths (ranges : List LengthRange)

/-- A declaration of a new type of some kind, or of an alias. -/
structure TypeEntry where
  name : String := ""
  kind : Option Kind := none
  aliasOf : Option String := none
  dialect : Dialect := .ttcn3
  fields : List Field := []
  element : Option String := none
  dimension : Option Nat := none
  enumerators : List EnumeratorEntry := []
  parameters : List Parameter := []
  constraint : Option ConstraintEntry := none

/-- A reference of type `actual` where `expected` is required. -/
structure ReferenceCheck where
  name : Option String := none
  expected : String := ""
  actual : String := ""
  isTemplate : Bool := false
  isStringElement : Bool := false

/-- An expression of which only the kind of the result is known. -/
structure ExpressionCheck where
  name : Option String := none
  expected : String := ""
  resultKind : Kind := .undefined

/-- A value of a type. -/
structure ValueCheck where
  name : Option String := none
  type : String := ""
  value : Json := .null

/-- A template of a type. -/
structure TemplateCheck where
  name : Option String := none
  type : String := ""
  template : Json := .null
  isOptional : Bool := false

/-- The assignment of a parameter to a variable, which may have a declared type. -/
structure AssignmentEntry where
  parameter : String := ""
  target : String := ""
  variableType : Option String := none

/-- A parameter redirect of a call or of a reply. -/
structure RedirectCheck where
  name : Option String := none
  signature : String := ""
  isReply : Bool := false
  assignments : List AssignmentEntry := []

/-- One check. -/
inductive CheckEntry where
  | reference (check : ReferenceCheck)
  | expression (check : ExpressionCheck)
  | value (check : ValueCheck)
  | template (check : TemplateCheck)
  | redirect (check : RedirectCheck)

/-- The name that a check was given. -/
def CheckEntry.name? : CheckEntry → Option String
  | .reference c => c.name
  | .expression c => c.name
  | .value c => c.name
  | .template c => c.name
  | .redirect c => c.name

/-- A match of a value against a template, and its expected outcome. -/
structure MatchEntry where
  name : Option String := none
  type : String := ""
  template : Json := .null
  value : Json := .null
  expected : Option Bool := none

end TestSpec.Document

namespace TestSpec

/-- A check document. -/
structure Document where
  options : PartialOptions := {}
  types : List Document.TypeEntry := []
  checks : List Document.CheckEntry := []
  entries : List Document.MatchEntry := []

end TestSpec
