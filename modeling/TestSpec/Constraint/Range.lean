import TestSpec.Constraint.Literal
import TestSpec.Word

/-!
# Ranges of literals

A range has a lower and an upper limit, each of which may be absent, and each of
which may or may not belong to the range itself.  Ranges whose limits are all
integers are ranges of whole numbers: an exclusive limit is one unit inside, an
absent one is the end of the 64-bit domain.  Ranges with a character or a string as
a limit restrict the alphabet of a string type and are applied to a string
character by character.  In all other ranges only the order of the limits counts,
and limits that cannot be compared refute nothing.
-/

namespace TestSpec

/-- One end of a range. -/
structure Limit where
  value : Literal
  isExclusive : Bool := false
  deriving DecidableEq, Repr

/-- A range; an absent end is unbounded. -/
structure Range where
  lower : Option Limit := none
  upper : Option Limit := none
  deriving DecidableEq, Repr

/-- A value stands after a limit, or on it if the limit belongs to the range; what cannot be
compared with the limit is not refuted. -/
def Limit.admitsAbove (limit : Limit) (value : Literal) : Bool :=
  match value.compare? limit.value with
  | some .gt => true
  | some .eq => !limit.isExclusive
  | some .lt => false
  | none => true

/-- A value stands before a limit, or on it if the limit belongs to the range; what cannot be
compared with the limit is not refuted. -/
def Limit.admitsBelow (limit : Limit) (value : Literal) : Bool :=
  match value.compare? limit.value with
  | some .lt => true
  | some .eq => !limit.isExclusive
  | some .gt => false
  | none => true

/-- The greater of two lower limits; of limits at one place, or not comparable, the first if it
is exclusive and the second otherwise. -/
def Limit.tighterLower (a b : Limit) : Limit :=
  match a.value.compare? b.value with
  | some .gt => a
  | some .lt => b
  | _ => if a.isExclusive then a else b

/-- The smaller of two upper limits; of limits at one place, or not comparable, the first if it
is exclusive and the second otherwise. -/
def Limit.tighterUpper (a b : Limit) : Limit :=
  match a.value.compare? b.value with
  | some .lt => a
  | some .gt => b
  | _ => if a.isExclusive then a else b

/-- The limit in force of two, either of which may be absent. -/
def Limit.tighterOf (tighter : Limit → Limit → Limit) : Option Limit → Option Limit → Option Limit
  | none, limit => limit
  | limit, none => limit
  | some a, some b => some (tighter a b)

namespace Range

/-- The literals that a range is written with. -/
def literals (r : Range) : List Literal := (r.lower.toList ++ r.upper.toList).map Limit.value

/-- The range restricts the alphabet of a string type. -/
def isAlphabet (r : Range) : Bool := r.literals.any Literal.isText

/-- All limits of the range are integers. -/
def isInteger (r : Range) : Bool := r.literals.all Literal.isInteger

/-- The lower limit does not lie above the upper one. -/
def isWellFormed (r : Range) : Bool :=
  match r.lower, r.upper with
  | some low, some high => low.value.compare? high.value != some .gt
  | _, _ => true

/-- The least whole number of an integer range; beyond the domain if there is none. -/
def leastInteger (r : Range) : Int :=
  match r.lower with
  | some ⟨.integer i, isExclusive⟩ => if isExclusive then i.toInt + 1 else i.toInt
  | _ => int64Min

/-- The greatest whole number of an integer range; beyond the domain if there is none. -/
def greatestInteger (r : Range) : Int :=
  match r.upper with
  | some ⟨.integer i, isExclusive⟩ => if isExclusive then i.toInt - 1 else i.toInt
  | _ => int64Max

/-- Membership of a single value, not taken apart into characters. -/
def containsScalar (r : Range) (value : Literal) : Bool :=
  r.lower.all (·.admitsAbove value) && r.upper.all (·.admitsBelow value)

/-- Membership of a value; a string is a member of an alphabet if all its characters are. -/
def contains (r : Range) (value : Literal) : Bool :=
  match value with
  | .string s =>
    if r.isAlphabet then s.toList.all fun c => r.containsScalar (.char c)
    else r.containsScalar value
  | _ => r.containsScalar value

/-- Whether two ranges have a value in common. -/
def overlaps (a b : Range) : Bool :=
  if a.isInteger && b.isInteger then
    max a.leastInteger b.leastInteger ≤ min a.greatestInteger b.greatestInteger
  else
    match Limit.tighterOf Limit.tighterLower a.lower b.lower,
      Limit.tighterOf Limit.tighterUpper a.upper b.upper with
    | some low, some high =>
      match low.value.compare? high.value with
      | some .lt => true
      | some .eq => !low.isExclusive && !high.isExclusive
      | some .gt => false
      | none => true
    | _, _ => true

/-- The range has no value at all. -/
def isEmpty (r : Range) : Bool := !r.overlaps {}

/-- The lower limit of a range lies within that of its parent. -/
def lowerWithin (child parent : Option Limit) : Bool :=
  match parent, child with
  | none, _ => true
  | some _, none => false
  | some p, some c =>
    match c.value.compare? p.value with
    | some .gt => true
    | some .eq => c.isExclusive || !p.isExclusive
    | some .lt => false
    | none => true

/-- The upper limit of a range lies within that of its parent. -/
def upperWithin (child parent : Option Limit) : Bool :=
  match parent, child with
  | none, _ => true
  | some _, none => false
  | some p, some c =>
    match c.value.compare? p.value with
    | some .lt => true
    | some .eq => c.isExclusive || !p.isExclusive
    | some .gt => false
    | none => true

/-- Whether every value of a range belongs to its parent. -/
def within (child parent : Range) : Bool :=
  if child.isInteger && parent.isInteger then
    child.greatestInteger < child.leastInteger ||
      (parent.leastInteger ≤ child.leastInteger && child.greatestInteger ≤ parent.greatestInteger)
  else lowerWithin child.lower parent.lower && upperWithin child.upper parent.upper

/-- The members of an integer range with both ends, if there are at most `limit`. -/
def members? (r : Range) (limit : Nat) : Option (List Int64) :=
  if r.isInteger && r.lower.isSome && r.upper.isSome then
    let count := (r.greatestInteger - r.leastInteger + 1).toNat
    if count ≤ limit then
      some ((List.range count).map fun k : Nat => Int64.ofInt (r.leastInteger + k))
    else none
  else none

/-- The text of a limit, or what stands for its absence. -/
def renderLimit (unbounded : String) : Option Limit → String
  | none => unbounded
  | some limit => (if limit.isExclusive then "!" else "") ++ limit.value.render

/-- The text of a range. -/
def render (r : Range) : String :=
  "(" ++ renderLimit "-infinity" r.lower ++ " .. " ++ renderLimit "infinity" r.upper ++ ")"

end Range

end TestSpec
