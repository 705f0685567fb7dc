import TestSpec.Constraint.Clash
import TestSpec.Store.Declaration

/-!
# How two types are related

Whether a value of one type may be used where another is expected is answered by a
`Relation`: how far the two are compatible, whether the value is converted on the
way, and what is in the way if they are not compatible.
-/

namespace TestSpec

/-- How far two types are compatible. -/
inductive Compatibility where
  | incompatibleType
  | incompatibleSubtype
  | compatible
  deriving DecidableEq, Repr

/-- Why two declarations differ in structure. -/
inductive Mismatch where
  | recordFieldCount (expected actual : Nat)
  | recordOptionality (field : String)
  | setFieldCount (expected actual : Nat)
  | setOptionality (field : String)
  | noCounterpart (field actual expected : String)
  | missingAlternative (alternative actual expected : String)
  | missingEnumerator (enumerator actual expected : String)
  | dimension (expected actual : Option Nat)
  /-- Two types that have nothing in common. -/
  | unrelated (expected actual : String)
  /-- The types of a part differ. -/
  | inMember (label : String) (cause : Mismatch)
  deriving DecidableEq, Repr

/-- The text of a dimension that may be unknown. -/
def dimensionText : Option Nat → String
  | some n => toString n
  | none => "?"

/-- The text of a mismatch. -/
def Mismatch.message : Mismatch → String
  | .recordFieldCount expected actual =>
    "The number of fields in record/SEQUENCE types must be the same (" ++ toString expected ++
      " and " ++ toString actual ++ ")"
  | .recordOptionality field =>
    "The optionality of fields in record/SEQUENCE types must be the same (field `" ++ field ++ "')"
  | .setFieldCount expected actual =>
    "The number of fields in set/SET types must be the same (" ++ toString expected ++ " and " ++
      toString actual ++ ")"
  | .setOptionality field =>
    "The optionality of fields in set/SET types must be the same (field `" ++ field ++ "')"
  | .noCounterpart field actual expected =>
    "Field `" ++ field ++ "' of `" ++ actual ++ "' has no counterpart in `" ++ expected ++ "'"
  | .missingAlternative alternative actual expected =>
    "Alternative `" ++ alternative ++ "' of `" ++ actual ++ "' is missing from `" ++ expected ++ "'"
  | .missingEnumerator enumerator actual expected =>
    "Enumerated value `" ++ enumerator ++ "' of `" ++ actual ++ "' is missing from `" ++
      expected ++ "'"
  | .dimension expected actual =>
    "The dimensions of array types must be the same (" ++ dimensionText expected ++ " and " ++
      dimensionText actual ++ ")"
  | .unrelated expected actual => "`" ++ expected ++ "' and `" ++ actual ++ "' are not compatible"
  | .inMember label cause => label ++ ": " ++ cause.message

/-- The answer to whether a value of one type may be used where another is expected. -/
structure Relation where
  level : Compatibility := .compatible
  /-- The value is converted from one declaration to another. -/
  needsConversion : Bool := false
  clash : Option Clash := none
  mismatch : Option Mismatch := none
  deriving DecidableEq, Repr

namespace Relation

/-- The types are compatible. -/
def isCompatible (r : Relation) : Bool := r.level == .compatible

/-- The explanation of an answer about two types with these names. -/
def explain (r : Relation) (expected actual : String) : String :=
  "Type mismatch: " ++ (Mismatch.unrelated expected actual).message ++
    r.mismatch.elim "" fun m => ": " ++ m.message

end Relation

end TestSpec
