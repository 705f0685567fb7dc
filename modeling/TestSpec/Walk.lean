import Std.Data.ExtTreeSet

/-!
# Bounds for walks over declarations and templates

Two sorts of walk need a bound.  A walk over declarations may come back to where
it started; a `PathGuard` keeps the keys of the current path, refuses a key that
is already on it, and limits the length of the path and the number of attempts.
A walk over a template or a value meets the same type again as a matter of
course; a `Nesting` only counts how deep the walk stands.

Main statement: `PathGuard.path_leave_of_entered`, by which a walk that leaves every key
it entered ends with the path it began with.
-/

namespace TestSpec

/-- The most nested templates or values that a check walks into. -/
def maxCheckDepth : Nat := 256

/-- The most nested templates that a match walks into. -/
def maxMatchDepth : Nat := 1024

/-- The greatest count of attempts, at which the count stays. -/
def greatestSteps : Nat := 4294967295

/-- The keys of the current path, and the attempts to enter one. -/
structure PathGuard (κ : Type) [Ord κ] where
  maxDepth : Nat
  maxSteps : Nat
  path : Std.ExtTreeSet κ := ∅
  steps : Nat := 0

/-- What came of an attempt to enter a key. -/
inductive Entry where
  | entered
  /-- The key stands on the path already. -/
  | cycle
  /-- The path is as long as it may get. -/
  | depthExceeded
  /-- The attempts allowed to one query are used up. -/
  | stepsExceeded
  deriving DecidableEq, Repr

namespace PathGuard

variable {κ : Type} [Ord κ] [Std.TransOrd κ]

/-- Length of the current path. -/
def depth (g : PathGuard κ) : Nat := g.path.size

/-- Try to put a key on the path.  Every attempt counts as a step; only `entered` changes the
path, and is undone by `leave`. -/
def enter (g : PathGuard κ) (key : κ) : Entry × PathGuard κ :=
  let counted := { g with steps := min (g.steps + 1) greatestSteps }
  if g.maxSteps < counted.steps then (.stepsExceeded, counted)
  else if g.maxDepth ≤ g.depth then (.depthExceeded, counted)
  else if g.path.contains key then (.cycle, counted)
  else (.entered, { counted with path := g.path.insert key })

/-- Take a key off the path. -/
def leave (g : PathGuard κ) (key : κ) : PathGuard κ := { g with path := g.path.erase key }

/-- Leaving a key that was entered gives the path from before. -/
theorem path_leave_of_entered [Std.LawfulEqOrd κ] {g entered : PathGuard κ} {key : κ}
    (h : g.enter key = (.entered, entered)) : (entered.leave key).path = g.path := by
  simp only [enter] at h
  split at h
  · cases h
  split at h
  · cases h
  split at h
  · cases h
  rename_i isNew
  cases h
  apply Std.ExtTreeSet.ext_mem
  intro k
  by_cases hk : key = k
  · subst hk
    simpa [leave] using isNew
  · simp [leave, hk]

/-- Start a new query: an empty path, and no step taken. -/
def reset (g : PathGuard κ) : PathGuard κ := { g with path := ∅, steps := 0 }

/-- Bounds for comparing declarations member by member. -/
def structural : PathGuard κ := { maxDepth := 100, maxSteps := 100000 }

/-- Bounds for checking a template or value against its type; the attempts are never used up. -/
def template : PathGuard κ := { maxDepth := maxCheckDepth, maxSteps := greatestSteps }

end PathGuard

/-- How deep a walk stands, and how deep it may go. -/
structure Nesting where
  maxDepth : Nat
  depth : Nat := 0
  deriving DecidableEq, Repr

namespace Nesting

/-- Go one level deeper, unless the walk stands as deep as it may. -/
def enter? (n : Nesting) : Option Nesting :=
  if n.depth < n.maxDepth then some { n with depth := n.depth + 1 } else none

/-- Come back up one level. -/
def leave (n : Nesting) : Nesting := { n with depth := n.depth - 1 }

end Nesting

end TestSpec
