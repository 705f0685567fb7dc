import TestSpec.Kind.Acceptance
import TestSpec.Walk
import TestSpec.Store.Resolve
import TestSpec.Relation.Requirement
import TestSpec.Relation.Cache

/-!
# Resolving the relation of two types

A query runs through three stages.  The **kind** stage asks the table of kinds about
the declarations at the ends of the two alias chains.  The **structural** stage, in
strict mode only, compares those declarations member by member.  The **constraint**
stage asks that the constraints in force have a common value.

Declarations may be cyclic.  The structural stage keeps the pairs on its path in a
guard and takes a pair that it meets again as compatible; the same holds when the
guard has reached one of its limits.  Types that are erroneous or lead nowhere are
compatible with everything.

Answers are remembered for the pass they were given in, under everything that a
query depends on.
-/

namespace TestSpec

/-- Pairs of types are ordered by the first of them, then by the second. -/
instance orderedPairs : Ord (TypeId × TypeId) := lexOrd

/-- The guard of the structural stage: the pairs of declarations on its path. -/
abbrev PairGuard := PathGuard (TypeId × TypeId)

/-- A way to relate two types, given and giving back the guard. -/
abbrev Relate := TypeId → TypeId → PairGuard → Relation × PairGuard

namespace Relate

/-- Look at requirements one after another until one fails.  The answer says so far that members
before were compatible; a member that fails passes its reason on. -/
def requirements (store : Store) (relate : Relate) (answer : Relation) :
    List Requirement → PairGuard → Relation × PairGuard
  | [], guard => (answer, guard)
  | .refuted cause :: _, guard =>
    ({ answer with level := .incompatibleType, mismatch := some cause }, guard)
  | .related label expected actual :: rest, guard =>
    match store.resolveRef? expected, store.resolveRef? actual with
    | some e, some a =>
      let (nested, guard) := relate e a guard
      let answer :=
        { answer with needsConversion := answer.needsConversion || nested.needsConversion }
      match nested.level with
      | .compatible => requirements store relate answer rest guard
      | .incompatibleSubtype =>
        ({ answer with level := .incompatibleSubtype, clash := nested.clash }, guard)
      | .incompatibleType =>
        let cause := nested.mismatch.getD (.unrelated (store.name e) (store.name a))
        ({ answer with
            level := .incompatibleType, mismatch := some (.inMember label cause) }, guard)
    | _, _ => requirements store relate answer rest guard

/-- The structural stage for two declarations that are no aliases. -/
def structural (store : Store) (relate : Relate) (e a : TypeId) (guard : PairGuard) :
    Relation × PairGuard :=
  match guard.enter (e, a) with
  | (.entered, guard) =>
    let kind := (store.get e).kind
    let (answer, guard) :=
      requirements store relate {} (Requirement.all (store.get e) (store.get a)) guard
    let converts := answer.isCompatible && (kind.isStructured || kind.isList)
    ({ answer with needsConversion := answer.needsConversion || converts }, guard.leave (e, a))
  | (_, guard) => ({}, guard)

/-- The constraint stage, which completes an answer that is compatible so far. -/
def constraints (store : Store) (expected actual : TypeId)
    (expectedIsElement actualIsElement : Bool) (answer : Relation) : Relation :=
  match store.effectiveConstraint expected, store.effectiveConstraint actual with
  | some ce, some ca =>
    match ce.clash? ca expectedIsElement actualIsElement with
    | none => answer
    | some clash => { answer with level := .incompatibleSubtype, clash := some clash }
  | _, _ => answer

/-- All stages for two types, `relate` being used for their members. -/
def stages (store : Store) (isStrict : Bool) (relate : Relate) (expected actual : TypeId)
    (expectedIsElement actualIsElement : Bool) (guard : PairGuard) : Relation × PairGuard :=
  if expected = actual ∧ !expectedIsElement ∧ !actualIsElement then ({}, guard)
  else match store.resolveAlias? expected, store.resolveAlias? actual with
    | some e, some a =>
      if store.isErroneous expected || store.isErroneous actual then ({}, guard)
      else
        let de := store.get e
        let da := store.get a
        if !de.kind.accepts da.kind de.dialect da.dialect then
          ({ level := .incompatibleType }, guard)
        else
          let (answer, guard) :=
            if isStrict && e != a then structural store relate e a guard else ({}, guard)
          if answer.isCompatible then
            (constraints store expected actual expectedIsElement actualIsElement answer, guard)
          else (answer, guard)
    | _, _ => ({}, guard)

/-- Relate members of members, `levels` levels down.  Below the last level the guard is full, so
nothing is asked there. -/
def members (store : Store) (isStrict : Bool) : (levels : Nat) → Relate
  | 0 => fun _ _ guard => ({}, guard)
  | levels + 1 => fun e a guard =>
    stages store isStrict (members store isStrict levels) e a false false guard

end Relate

/-- Everything that the answer to a query depends on. -/
structure Query where
  expected : TypeId
  actual : TypeId
  isStrict : Bool
  /-- The expected side stands for one element of a string. -/
  expectedIsElement : Bool := false
  /-- The actual side stands for one element of a string. -/
  actualIsElement : Bool := false
  /-- The sides that were erroneous when the query was made. -/
  expectedErroneous : Bool := false
  actualErroneous : Bool := false
  deriving DecidableEq, Repr

/-- What is kept between queries: the guard, whose path is empty by then, and the memo. -/
structure Resolver where
  guard : PairGuard := .structural
  cache : PassCache Query Relation := {}

namespace Resolver

/-- Answer a query without the memo. -/
def compute (r : Resolver) (store : Store) (q : Query) : Relation × PairGuard :=
  let guard := r.guard.reset
  Relate.stages store q.isStrict (Relate.members store q.isStrict guard.maxDepth) q.expected
    q.actual q.expectedIsElement q.actualIsElement guard

/-- Whether a value of type `actual` may be used where type `expected` is expected. -/
def query (r : Resolver) (store : Store) (pass : Pass) (isStrict : Bool)
    (expected actual : TypeId) (expectedIsElement actualIsElement : Bool) :
    Relation × Resolver :=
  let q : Query :=
    { expected, actual, isStrict, expectedIsElement, actualIsElement
      expectedErroneous := store.isErroneous expected
      actualErroneous := store.isErroneous actual }
  match r.cache.lookup pass q with
  | (some answer, cache) => (answer, { r with cache })
  | (none, cache) =>
    let (answer, guard) := r.compute store q
    (answer, { guard, cache := cache.insert pass q answer })

/-- Forget all answers. -/
def forget (r : Resolver) : Resolver := { r with cache := r.cache.clear }

end Resolver

namespace Store

/-- A comparison of the declarations at the ends of two alias chains, which holds of types that
are erroneous or lead nowhere. -/
def resolvedAgree (s : Store) (p : Declaration → Declaration → Bool) (expected actual : TypeId) :
    Bool :=
  match s.resolveAlias? expected, s.resolveAlias? actual with
  | some e, some a =>
    s.isErroneous expected || s.isErroneous actual || p (s.get e) (s.get a)
  | _, _ => true

/-- The kinds are the same. -/
def isStronglyCompatible (s : Store) : TypeId → TypeId → Bool :=
  s.resolvedAgree fun e a => e.kind == a.kind

/-- The kinds are the same in the TTCN-3 view. -/
def isIdentical (s : Store) : TypeId → TypeId → Bool :=
  s.resolvedAgree fun e a => e.kind.ttcn3View == a.kind.ttcn3View

end Store

end TestSpec
