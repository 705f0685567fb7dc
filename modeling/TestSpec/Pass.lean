/-!
# Analysis passes and check stamps

Time is counted in **passes**.  A `PassClock` hands out pass numbers, each larger
than all before it.  Whatever is checked at most once per pass carries a
`CheckStamp`: the pass that last checked it, and whether that check found an
error.  `CheckStamp.claim?` is the only way a check starts; it fails when the
stamp is not older than the current pass, and a larger pass number makes every
stamp old at once.
-/

namespace TestSpec

/-- The number of an analysis pass. -/
abbrev Pass := Nat

/-- Source of pass numbers; `last` is the newest one handed out, zero if none was. -/
structure PassClock where
  last : Pass := 0
  deriving DecidableEq, Repr

namespace PassClock

/-- Start a new pass: its number, and the clock that has handed it out. -/
def next (c : PassClock) : Pass × PassClock := (c.last + 1, ⟨c.last + 1⟩)

/-- The newest pass, if one was started. -/
def current? (c : PassClock) : Option Pass := if c.last = 0 then none else some c.last

end PassClock

/-- The text of a pass number in logs. -/
def Pass.render (p : Pass) : String := "#" ++ toString p

/-- When something was last checked, and with what result. -/
structure CheckStamp where
  lastChecked : Option Pass := none
  erroneous : Bool := false
  deriving DecidableEq, Repr

namespace CheckStamp

/-- A check is due unless this pass, or a later one, has made it. -/
def needsCheck (s : CheckStamp) (pass : Pass) : Bool :=
  match s.lastChecked with
  | none => true
  | some last => last < pass

/-- Claim the check of this pass: a fresh stamp when the check is due, nothing otherwise. -/
def claim? (s : CheckStamp) (pass : Pass) : Option CheckStamp :=
  if s.needsCheck pass then some ⟨some pass, false⟩ else none

/-- Record the result of a check. -/
def mark (s : CheckStamp) (erroneous : Bool) : CheckStamp := { s with erroneous }

end CheckStamp

end TestSpec
