import TestSpec.Template.Basic

/-!
# Building ranges of values

The bounds of a range template are set one at a time, in place.  A bound that is a
character string must be a single character, the template must be a range, and the new
bound is compared with the one on the other side, so that a range never has its bounds
in the wrong order.  The bound is written last, when nothing can fail any more.
-/

namespace TestSpec

/-- The other side of a range. -/
def BoundSide.opposite : BoundSide → BoundSide
  | .lower => .upper
  | .upper => .lower

/-- How a bound on this side must not compare with the bound on the other side. -/
def BoundSide.misplaced : BoundSide → Ordering
  | .lower => .gt
  | .upper => .lt

/-- A bound that is a character string has one character. -/
def Bound.check (side : BoundSide) (b : Bound) : Except MatchError Unit :=
  match b.value.string with
  | .ok s =>
    if s.length = 1 then .ok () else .error (.invalidRange (.boundLength side s.length))
  | .error _ => .ok ()

namespace ValueRange

/-- The bound of a range on one side, if the range has an end there. -/
def bound (r : ValueRange) : BoundSide → Option Bound
  | .lower => r.lower
  | .upper => r.upper

/-- The range with a bound on one side in place of what was there. -/
def withBound (r : ValueRange) (b : Bound) : BoundSide → ValueRange
  | .lower => { r with lower := some b }
  | .upper => { r with upper := some b }

/-- A new bound on one side must not lie beyond the bound on the other side. -/
def checkOrder (r : ValueRange) (side : BoundSide) (b : Bound) : Except MatchError Unit :=
  match r.bound side.opposite with
  | none => .ok ()
  | some other => do
    if (← b.value.order other.value) = side.misplaced then
      .error (.invalidRange (.inverted side))
    else .ok ()

end ValueRange

namespace Template

/-- A change that is made to a template in place.  It succeeds or fails, and with either outcome
it leaves a template behind, in which everything stands that was written before. -/
abbrev Change := ExceptT MatchError (StateM Template)

/-- The outcome of a change that is made to a template, and the template that it leaves behind. -/
def Change.on {α : Type} (c : Change α) (t : Template) : Except MatchError α × Template :=
  c.run.run t

/-- Set the bound of a range template on one side. -/
def setBound (side : BoundSide) (b : Bound) : Change Unit := do
  liftExcept (b.check side)
  match ← get with
  | .mk (.range r) ifPresent length =>
    liftExcept (r.checkOrder side b)
    set (Template.mk (.range (r.withBound b side)) ifPresent length)
  | _ => throw (.invalidRange (.notARange side))

/-- Set the lower bound of a range template, which must not lie above the upper one. -/
def setLower : Bound → Change Unit := setBound .lower

/-- Set the upper bound of a range template, which must not lie below the lower one. -/
def setUpper : Bound → Change Unit := setBound .upper

/-- The range template with the given bounds, the lower one being set first. -/
def range (lower upper : Option Bound) : Except MatchError Template :=
  let build : Change Unit := do
    lower.forM setLower
    upper.forM setUpper
  match build.on (ofSelector (.range {})) with
  | (.ok (), t) => .ok t
  | (.error e, _) => .error e

end Template

end TestSpec
