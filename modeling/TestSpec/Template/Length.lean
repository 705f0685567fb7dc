/-!
# Length restrictions of templates

A template may restrict the length of the values it matches, to one length or to a
range of lengths.
-/

namespace TestSpec

/-- The lengths that a template allows. -/
inductive LengthRestriction where
  | single (length : Nat)
  | range (least : Nat) (greatest : Option Nat)
  deriving DecidableEq, Repr

namespace LengthRestriction

/-- The restriction allows a length. -/
def contains : LengthRestriction → Nat → Bool
  | .single n, length => length == n
  | .range least greatest, length => least ≤ length && greatest.all fun n => length ≤ n

/-- The text of a restriction. -/
def render : LengthRestriction → String
  | .single n => "length (" ++ toString n ++ ")"
  | .range least (some greatest) =>
    "length (" ++ toString least ++ " .. " ++ toString greatest ++ ")"
  | .range least none => "length (" ++ toString least ++ " .. infinity)"

end LengthRestriction

end TestSpec
