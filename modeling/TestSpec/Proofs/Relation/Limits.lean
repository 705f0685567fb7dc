import TestSpec.Relation.Resolver

/-!
# The path and the limits of a query

A query walks over declarations with a guard in hand.  Two facts about the guard
carry everything that is said about queries.  Whatever is compared, the guard comes
back with the **path** it was handed over with (`Relate.members_keepsPlace`), so
that the pairs assumed to be compatible are exactly those being compared at the
moment.  And an attempt to enter a pair is refused either because the pair is on the
path, or because a **limit** is reached; `Resolver.staysWithin` says of a whole
query that no attempt was refused for a limit.

`PathGuard.HasRoom` ties the length of the path to the levels that are left: as long
as it holds, the walk cannot run out of levels before the guard refuses a pair.
-/

namespace TestSpec

namespace PathGuard

variable {κ : Type} [Ord κ]

/-- Two guards stand at the same place: the same path under the same bounds.  The attempts
counted so far may differ. -/
structure SamePlace (g h : PathGuard κ) : Prop where
  path : g.path = h.path
  maxDepth : g.maxDepth = h.maxDepth
  maxSteps : g.maxSteps = h.maxSteps

theorem SamePlace.refl (g : PathGuard κ) : g.SamePlace g := ⟨rfl, rfl, rfl⟩

theorem SamePlace.trans {f g h : PathGuard κ} (hfg : f.SamePlace g) (hgh : g.SamePlace h) :
    f.SamePlace h :=
  ⟨hfg.path.trans hgh.path, hfg.maxDepth.trans hgh.maxDepth, hfg.maxSteps.trans hgh.maxSteps⟩

/-- The path is no longer than it may be, and the levels left reach beyond its greatest length. -/
structure HasRoom (g : PathGuard κ) (levels : Nat) : Prop where
  depth_le : g.depth ≤ g.maxDepth
  lt_levels : g.maxDepth < g.depth + levels

theorem HasRoom.congr {g h : PathGuard κ} {levels : Nat} (hroom : h.HasRoom levels)
    (hsame : g.SamePlace h) : g.HasRoom levels := by
  obtain ⟨hle, hlt⟩ := hroom
  constructor
  · simpa [depth, hsame.path, hsame.maxDepth] using hle
  · simpa [depth, hsame.path, hsame.maxDepth] using hlt

variable [Std.TransOrd κ]

/-- What an attempt to enter a key can come to: the key is new and now on the path; the key is on
the path already; or a bound is reached.  Only the count of attempts changes otherwise. -/
theorem enter_cases (g : PathGuard κ) (key : κ) :
    (∃ entered, g.enter key = (.entered, entered) ∧ key ∉ g.path ∧ g.depth < g.maxDepth ∧
        entered.SamePlace { g with path := g.path.insert key }) ∨
      (∃ counted, g.enter key = (.cycle, counted) ∧ key ∈ g.path ∧ counted.SamePlace g) ∨
      (∃ counted entry, g.enter key = (entry, counted) ∧
        (entry = .depthExceeded ∨ entry = .stepsExceeded) ∧ counted.SamePlace g) := by
  simp only [enter]
  split
  · exact .inr (.inr ⟨_, _, rfl, .inr rfl, ⟨rfl, rfl, rfl⟩⟩)
  split
  · exact .inr (.inr ⟨_, _, rfl, .inl rfl, ⟨rfl, rfl, rfl⟩⟩)
  rename_i hdepth
  split
  · rename_i hmem
    exact .inr (.inl ⟨_, rfl, by simpa using hmem, ⟨rfl, rfl, rfl⟩⟩)
  · rename_i hnew
    refine .inl ⟨_, rfl, by simpa using hnew, ?_, ⟨rfl, rfl, rfl⟩⟩
    simpa [depth] using hdepth

/-- Entering a key takes one level of the room. -/
theorem HasRoom.entered {g entered : PathGuard κ} {key : κ} {levels : Nat}
    (hroom : g.HasRoom (levels + 1)) (hnew : key ∉ g.path) (hdepth : g.depth < g.maxDepth)
    (hsame : entered.SamePlace { g with path := g.path.insert key }) :
    entered.HasRoom levels := by
  have hgrown : entered.depth = g.depth + 1 := by
    simp [depth, hsame.path, Std.ExtTreeSet.size_insert, hnew]
  have hmax : entered.maxDepth = g.maxDepth := hsame.maxDepth
  have hlt := hroom.lt_levels
  constructor <;> omega

end PathGuard

namespace Relate

variable {store : Store} {relate : Relate}

/-- Whatever is compared, the guard comes back at the place where it was handed over. -/
def KeepsPlace (relate : Relate) : Prop :=
  ∀ e a guard, (relate e a guard).2.SamePlace guard

theorem requirements_keepsPlace (store : Store) (hrelate : relate.KeepsPlace) (answer : Relation)
    (rs : List Requirement) (guard : PairGuard) :
    (requirements store relate answer rs guard).2.SamePlace guard := by
  induction rs generalizing answer guard with
  | nil => exact .refl guard
  | cons r rest ih =>
    cases r with
    | refuted cause => exact .refl guard
    | related label expected actual =>
      simp only [requirements]
      split
      · rename_i e a _ _
        have hnested := hrelate e a guard
        split
        · exact (ih _ _).trans hnested
        · exact hnested
        · exact hnested
      · exact ih _ _

theorem structural_keepsPlace (store : Store) (hrelate : relate.KeepsPlace) (e a : TypeId)
    (guard : PairGuard) :
    (structural store relate e a guard).2.SamePlace guard := by
  rcases hentry : guard.enter (e, a) with ⟨entry, next⟩
  have hcases := guard.enter_cases (e, a)
  simp only [hentry, Prod.mk.injEq] at hcases
  rcases hcases with ⟨_, ⟨rfl, rfl⟩, -, -, hsame⟩ | ⟨_, ⟨rfl, rfl⟩, -, hsame⟩ |
    ⟨_, _, ⟨rfl, rfl⟩, hlimit, hsame⟩
  · simp only [structural, hentry]
    have hinner := requirements_keepsPlace store hrelate {}
      (Requirement.all (store.get e) (store.get a)) next
    -- erasing the pair from the inner path is erasing it from the path after the entry
    refine ⟨?_, hinner.maxDepth.trans hsame.maxDepth, hinner.maxSteps.trans hsame.maxSteps⟩
    rw [← PathGuard.path_leave_of_entered hentry]
    exact congrArg (·.erase (e, a)) hinner.path
  · simpa only [structural, hentry] using hsame
  · rcases hlimit with rfl | rfl <;> simpa only [structural, hentry] using hsame

theorem stages_keepsPlace (hrelate : relate.KeepsPlace) (isStrict : Bool)
    (expected actual : TypeId) (expectedIsElement actualIsElement : Bool) (guard : PairGuard) :
    (stages store isStrict relate expected actual expectedIsElement actualIsElement
      guard).2.SamePlace guard := by
  have hstructural := structural_keepsPlace store hrelate
  simp only [stages]
  split
  · exact .refl guard
  split
  · rename_i e a _ _
    split
    · exact .refl guard
    split
    · exact .refl guard
    · cases isStrict && e != a
      · simp only [Bool.false_eq_true, if_false]
        split <;> exact .refl guard
      · simp only [if_true]
        split <;> exact hstructural e a guard
  · exact .refl guard

/-- Comparing members of members gives the path back, however many levels are left. -/
theorem members_keepsPlace (isStrict : Bool) (levels : Nat) :
    (members store isStrict levels).KeepsPlace := by
  induction levels with
  | zero => exact fun _ _ guard => .refl guard
  | succ levels ih => exact fun e a guard => stages_keepsPlace ih isStrict e a false false guard

end Relate

/-- An attempt refused because a bound was reached. -/
def Entry.isLimit : Entry → Bool
  | .depthExceeded | .stepsExceeded => true
  | .entered | .cycle => false

/-- Whether a comparison goes through without an attempt refused for a limit. -/
abbrev Stays := TypeId → TypeId → PairGuard → Bool

namespace Stays

/-- Looking at requirements hits no limit; it ends with the first that fails. -/
def requirements (store : Store) (relate : Relate) (stays : Stays) :
    List Requirement → PairGuard → Bool
  | [], _ => true
  | .refuted _ :: _, _ => true
  | .related _ expected actual :: rest, guard =>
    match store.resolveRef? expected, store.resolveRef? actual with
    | some e, some a =>
      stays e a guard &&
        (!(relate e a guard).1.isCompatible ||
          requirements store relate stays rest (relate e a guard).2)
    | _, _ => requirements store relate stays rest guard

/-- The structural stage hits no limit. -/
def structural (store : Store) (relate : Relate) (stays : Stays) (e a : TypeId)
    (guard : PairGuard) : Bool :=
  match guard.enter (e, a) with
  | (.entered, guard) =>
    requirements store relate stays (Requirement.all (store.get e) (store.get a)) guard
  | (entry, _) => !entry.isLimit

/-- All stages hit no limit; only the structural one can. -/
def stages (store : Store) (isStrict : Bool) (relate : Relate) (stays : Stays)
    (expected actual : TypeId) (expectedIsElement actualIsElement : Bool) (guard : PairGuard) :
    Bool :=
  if expected = actual ∧ !expectedIsElement ∧ !actualIsElement then true
  else match store.resolveAlias? expected, store.resolveAlias? actual with
    | some e, some a =>
      if store.isErroneous expected || store.isErroneous actual then true
      else
        let de := store.get e
        let da := store.get a
        if !de.kind.accepts da.kind de.dialect da.dialect then true
        else if isStrict && e != a then structural store relate stays e a guard else true
    | _, _ => true

/-- Comparing members of members hits no limit. -/
def members (store : Store) (isStrict : Bool) : (levels : Nat) → Stays
  | 0 => fun _ _ _ => true
  | levels + 1 => fun e a guard =>
    stages store isStrict (Relate.members store isStrict levels) (members store isStrict levels)
      e a false false guard

end Stays

namespace Resolver

/-- The key of a query about two types of a store as it stands. -/
def keyOf (store : Store) (isStrict : Bool) (expected actual : TypeId)
    (expectedIsElement actualIsElement : Bool) : Query :=
  { expected, actual, isStrict, expectedIsElement, actualIsElement
    expectedErroneous := store.isErroneous expected
    actualErroneous := store.isErroneous actual }

theorem query_eq (r : Resolver) (store : Store) (pass : Pass) (isStrict : Bool)
    (expected actual : TypeId) (x y : Bool) :
    r.query store pass isStrict expected actual x y =
      match r.cache.lookup pass (keyOf store isStrict expected actual x y) with
      | (some answer, cache) => (answer, { r with cache })
      | (none, cache) =>
        let (answer, guard) := r.compute store (keyOf store isStrict expected actual x y)
        (answer,
          ⟨guard, cache.insert pass (keyOf store isStrict expected actual x y) answer⟩) := rfl

/-- A query that the memo has no answer to is computed. -/
theorem query_of_lookup_none {r : Resolver} {store : Store} {pass : Pass} {isStrict : Bool}
    {expected actual : TypeId} {x y : Bool}
    (h : (r.cache.lookup pass (keyOf store isStrict expected actual x y)).1 = none) :
    (r.query store pass isStrict expected actual x y).1 =
      (r.compute store (keyOf store isStrict expected actual x y)).1 := by
  rw [query_eq]
  split
  · rename_i hfound
    rw [hfound] at h
    cases h
  · rfl

/-- Answering a query hits neither the limit of the path nor that of the attempts. -/
def staysWithin (r : Resolver) (store : Store) (q : Query) : Bool :=
  let guard := r.guard.reset
  Stays.stages store q.isStrict (Relate.members store q.isStrict guard.maxDepth)
    (Stays.members store q.isStrict guard.maxDepth) q.expected q.actual q.expectedIsElement
    q.actualIsElement guard

/-- A query begins with an empty path, and with a level to spare beyond its greatest length. -/
theorem reset_hasRoom (g : PairGuard) : g.reset.HasRoom (g.maxDepth + 1) := by
  constructor <;> simp [PathGuard.reset, PathGuard.depth]

/-- A query gives back a guard under the same bounds. -/
theorem compute_keepsPlace (r : Resolver) (store : Store) (q : Query) :
    (r.compute store q).2.SamePlace r.guard.reset :=
  Relate.stages_keepsPlace (Relate.members_keepsPlace _ _) _ _ _ _ _ _

end Resolver

end TestSpec
