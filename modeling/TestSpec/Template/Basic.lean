import TestSpec.Value.Compare
import TestSpec.Value.Access
import TestSpec.Pattern.Basic

/-!
# Templates

A template describes a set of values.  Its **selector** says which: one value, a
list of alternatives or its complement, a range, a pattern, the content that a
string decodes to, or a structured template with a template for every part.  Two
modifiers stand beside the selector: `ifPresent` lets the template accept an omitted
field as well, and a length restriction filters values by their length.

Among the elements of a list template, a bare `*` stands for any number of elements.
-/

namespace TestSpec

/-- One end of a range of values. -/
structure Bound where
  value : Value
  isExclusive : Bool := false

/-- A range of values; an absent end is unbounded. -/
structure ValueRange where
  lower : Option Bound := none
  upper : Option Bound := none

/-- What the content of a string is decoded to: a named type of a kind. -/
structure DecodeTarget where
  name : String
  kind : Kind
  deriving DecidableEq, Repr

mutual

/-- A template: a selector and its modifiers. -/
inductive Template where
  | mk (selector : Selector) (ifPresent : Bool) (length : Option LengthRestriction)

/-- Which values a template selects. -/
inductive Selector where
  | uninitialized
  | omit
  | any
  | anyOrOmit
  | specific (value : Value)
  | record (kind : Kind) (fields : List FieldTemplate)
  | union (kind : Kind) (alternative : String) (template : Template)
  | elements (kind : Kind) (items : List Template)
  | valueList (items : List Template)
  | complement (items : List Template)
  | range (range : ValueRange)
  | decoded (target : DecodeTarget) (inner : Template)
  | pattern (pattern : Pattern)

/-- A template for a named field. -/
inductive FieldTemplate where
  | mk (name : String) (template : Template)

end

namespace FieldTemplate

/-- The name of the field. -/
def name : FieldTemplate → String
  | .mk name _ => name

/-- The template of the field. -/
def template : FieldTemplate → Template
  | .mk _ template => template

end FieldTemplate

namespace Template

/-- The selector of a template. -/
def selector : Template → Selector
  | .mk selector _ _ => selector

/-- The template accepts an omitted field besides what its selector accepts. -/
def ifPresent : Template → Bool
  | .mk _ ifPresent _ => ifPresent

/-- The length restriction of a template, if it has one. -/
def length : Template → Option LengthRestriction
  | .mk _ _ length => length

/-- A selector without modifiers. -/
def ofSelector (s : Selector) : Template := .mk s false none

/-- The template with the modifier `ifpresent` set or not. -/
def withIfPresent (t : Template) (ifPresent : Bool) : Template := .mk t.selector ifPresent t.length

/-- The template with another length restriction, or none. -/
def withLength (t : Template) (length : Option LengthRestriction) : Template :=
  .mk t.selector t.ifPresent length

/-- The template of one value. -/
def specific (v : Value) : Template := ofSelector (.specific v)

/-- The template matches a run of elements in a list of element templates. -/
def isRun : Template → Bool
  | .mk .anyOrOmit _ none => true
  | _ => false

/-- The template selects any value or none, whatever its modifiers are. -/
def isAnyOrOmit : Template → Bool
  | .mk .anyOrOmit _ _ => true
  | _ => false

end Template

end TestSpec
