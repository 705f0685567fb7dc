import TestSpec.Template.Basic
import TestSpec.Value.Print

/-!
# The text of templates

Templates are printed in the notation of the test specification language, the
length restriction and `ifpresent` behind the selector.
-/

namespace TestSpec

/-- The text of a bound, or what stands for its absence. -/
def Bound.renderOr (unbounded : String) : Option Bound → String
  | none => unbounded
  | some b => (if b.isExclusive then "!" else "") ++ b.value.render

/-- The text of a range of values. -/
def ValueRange.render (r : ValueRange) : String :=
  "(" ++ Bound.renderOr "-infinity" r.lower ++ " .. " ++ Bound.renderOr "infinity" r.upper ++ ")"

/-- The text of a pattern. -/
def Pattern.render (p : Pattern) : String :=
  "pattern " ++ (if p.ignoresCase then "@nocase " else "") ++ "\"" ++ p.source ++ "\""

/-- Texts in parentheses with commas between them. -/
def parenthesized (texts : List String) : String := "(" ++ ", ".intercalate texts ++ ")"

namespace Template

mutual

/-- The text of a template. -/
def render : Template → String
  | .mk selector ifPresent length =>
    renderSelector selector ++ (length.elim "" fun l => " " ++ l.render) ++
      (if ifPresent then " ifpresent" else "")

/-- The text of a selector. -/
def renderSelector : Selector → String
  | .uninitialized => "<uninitialized template>"
  | .omit => "omit"
  | .any => "?"
  | .anyOrOmit => "*"
  | .specific value => value.render
  | .record _ fields => braced (renderFields fields)
  | .union _ alternative template => braced [assigned alternative (render template)]
  | .elements _ items => braced (renderItems items)
  | .valueList items => parenthesized (renderItems items)
  | .complement items => "complement" ++ parenthesized (renderItems items)
  | .range r => r.render
  | .decoded target inner => "decmatch " ++ target.name ++ ": " ++ render inner
  | .pattern p => p.render

/-- The texts of field templates. -/
def renderFields : List FieldTemplate → List String
  | [] => []
  | .mk name template :: rest => assigned name (render template) :: renderFields rest

/-- The texts of a list of templates. -/
def renderItems : List Template → List String
  | [] => []
  | template :: rest => render template :: renderItems rest

end

end Template

end TestSpec
