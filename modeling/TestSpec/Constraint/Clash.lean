import TestSpec.Constraint.Basic

/-!
# Constraints without a common value

When a value of a type with one constraint is used where another constraint holds,
the two must admit a common value.  Either side may stand for a single element of a
string instead of the whole: then the other side must admit a string of one
element, and if both sides are elements nothing remains to be compared.  A `Clash`
says how that failed.
-/

namespace TestSpec

/-- Why two constraints have no common value. -/
inductive Clash where
  /-- The second constraint admits no string of one element. -/
  | elementAndConstraint (right : Constraint)
  /-- The first constraint admits no string of one element. -/
  | constraintAndElement (left : Constraint)
  | constraints (left right : Constraint)
  deriving DecidableEq, Repr

/-- The text of a clash. -/
def Clash.message : Clash → String
  | .elementAndConstraint right =>
    "Subtype mismatch: string element has no common value with subtype " ++ right.render
  | .constraintAndElement left =>
    "Subtype mismatch: subtype " ++ left.render ++ " has no common value with string element"
  | .constraints left right =>
    "Subtype mismatch: subtype " ++ left.render ++ " has no common value with subtype " ++
      right.render

/-- The clash of two constraints, either of which may stand for a string element; nothing if
they have a common value. -/
def Constraint.clash? (left right : Constraint) (leftIsElement rightIsElement : Bool) :
    Option Clash :=
  match leftIsElement, rightIsElement with
  | true, true => none
  | true, false => if right.admitsElement then none else some (.elementAndConstraint right)
  | false, true => if left.admitsElement then none else some (.constraintAndElement left)
  | false, false => if left.isCompatible right then none else some (.constraints left right)

end TestSpec
