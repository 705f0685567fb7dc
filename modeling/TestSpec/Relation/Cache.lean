import TestSpec.Pass

/-!
# A memo that lasts one pass

Results are remembered for the pass they were found in.  The first access in a newer
pass forgets everything, so that starting a pass invalidates the memo without
anyone walking it.  Hits, misses and invalidations are counted.
-/

namespace TestSpec

/-- Results remembered by key, all found in one pass. -/
structure PassCache (κ α : Type) where
  pass : Option Pass := none
  entries : List (κ × α) := []
  hits : Nat := 0
  misses : Nat := 0
  invalidations : Nat := 0

namespace PassCache

variable {κ α : Type} [BEq κ]

/-- Forget the results of an older pass. -/
def sync (c : PassCache κ α) (pass : Pass) : PassCache κ α :=
  if c.pass.any fun p => pass ≤ p then c
  else
    { c with
      pass := some pass
      entries := []
      invalidations := if c.entries.isEmpty then c.invalidations else c.invalidations + 1 }

/-- The result remembered under a key, and the memo that has counted the access. -/
def lookup (c : PassCache κ α) (pass : Pass) (key : κ) : Option α × PassCache κ α :=
  let c := c.sync pass
  match c.entries.lookup key with
  | some value => (some value, { c with hits := c.hits + 1 })
  | none => (none, { c with misses := c.misses + 1 })

/-- Remember a result under a key, in place of an older one. -/
def insert (c : PassCache κ α) (pass : Pass) (key : κ) (value : α) : PassCache κ α :=
  let c := c.sync pass
  { c with entries := (key, value) :: c.entries.filter fun e => !(e.1 == key) }

/-- Forget everything, but not the pass. -/
def clear (c : PassCache κ α) : PassCache κ α := { c with entries := [] }

/-- How many results are remembered. -/
def size (c : PassCache κ α) : Nat := c.entries.length

end PassCache

end TestSpec
