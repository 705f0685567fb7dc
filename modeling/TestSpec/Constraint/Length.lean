/-!
# Permitted lengths

A length range permits the lengths from `least` to `greatest`, or all from `least` on.  A set
of length ranges permits what any of them permits; `LengthRange.merge` turns a
set into ranges in ascending order with a gap between any two, which permit the same
lengths, so that one range lies within the set exactly if it lies within one of the
merged ranges.
-/

namespace TestSpec

/-- The lengths from `least` to `greatest`; without an end, all from `least` on. -/
structure LengthRange where
  least : Nat
  greatest : Option Nat := none
  deriving DecidableEq, Repr

namespace LengthRange

/-- The range permits a length. -/
def contains (r : LengthRange) (length : Nat) : Bool :=
  r.least ≤ length && r.greatest.all fun n => length ≤ n

/-- The least length does not exceed the greatest. -/
def isWellFormed (r : LengthRange) : Bool := r.greatest.all fun n => r.least ≤ n

/-- The smaller of two ends, where an absent one is no bound. -/
def smallerEnd : Option Nat → Option Nat → Option Nat
  | none, n => n
  | n, none => n
  | some a, some b => some (min a b)

/-- The greater of two ends, where an absent one is no bound. -/
def greaterEnd : Option Nat → Option Nat → Option Nat
  | some a, some b => some (max a b)
  | _, _ => none

/-- The lengths that two ranges both permit. -/
def inter (a b : LengthRange) : LengthRange := ⟨max a.least b.least, smallerEnd a.greatest b.greatest⟩

/-- Two ranges permit a common length. -/
def overlaps (a b : LengthRange) : Bool := (a.inter b).isWellFormed

/-- Every length of `a` lies in `b`, for an `a` that permits any. -/
def within (a b : LengthRange) : Bool :=
  b.least ≤ a.least && b.greatest.all fun n => a.greatest.any fun m => m ≤ n

/-- Coalesce a range with those that follow it in ascending order of their least length, as long as they
overlap it or begin right behind it. -/
def coalesce (current : LengthRange) : List LengthRange → List LengthRange
  | [] => [current]
  | next :: rest =>
    if current.greatest.all fun n => next.least ≤ n + 1 then
      coalesce ⟨current.least, greaterEnd current.greatest next.greatest⟩ rest
    else current :: coalesce next rest

/-- The same lengths as ranges in ascending order with a gap between any two. -/
def merge (ranges : List LengthRange) : List LengthRange :=
  match (ranges.filter isWellFormed).mergeSort (fun a b => a.least ≤ b.least) with
  | [] => []
  | first :: rest => coalesce first rest

/-- The text of a range; a single length stands alone. -/
def render (r : LengthRange) : String :=
  match r.greatest with
  | some n => if n = r.least then toString n else toString r.least ++ " .. " ++ toString n
  | none => toString r.least ++ " .. infinity"

end LengthRange

end TestSpec
