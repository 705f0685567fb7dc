import TestSpec.Proofs.Relation.Guard
import TestSpec.Proofs.Relation.Modes

/-!
# Queries end, and the guard is used well

Declarations may lead back to themselves by any fields, elements and aliases, so that nothing
in a store gets smaller from one comparison to the next.  `Relate.Evaluates` says what the
stages ask of one another, and with which calls of the guard, without any count of levels: a
query that went round in circles would have no derivation.  Every query has exactly one
(`Relate.existsUnique_evaluates`), for each pair that is entered takes room on the path,
and what is asked for one pair is a list.

The calls of the guard in a derivation pair up whatever the requirements come to
(`Relate.Evaluates.paired`), since a pair that is entered is left behind its requirements.  So
the path keeps the order that `PathGuard.IsBalanced` describes.  Main statement:
`Resolver.compute_evaluates`.
-/

namespace TestSpec

namespace Relate

/-- What is asked in the course of a query. -/
inductive Question where
  /-- All stages for two types. -/
  | types (expected actual : TypeId) (expectedIsElement actualIsElement : Bool)
  /-- The structural stage for two declarations. -/
  | declarations (e a : TypeId)
  /-- Requirements one after another, when an answer was found for those before. -/
  | requirements (answer : Relation) (rs : List Requirement)

/-- The answer for two declarations whose requirements were answered. -/
def converted (s : Store) (e : TypeId) (answer : Relation) : Relation :=
  { answer with
    needsConversion := answer.needsConversion ||
      (answer.isCompatible && ((s.get e).kind.isStructured || (s.get e).kind.isList)) }

/-- The answer so far, with what was found for the next member; a member that fails passes its
reason on. -/
def extended (s : Store) (answer : Relation) (label : String) (e a : TypeId) (nested : Relation) :
    Relation :=
  let answer :=
    { answer with needsConversion := answer.needsConversion || nested.needsConversion }
  match nested.level with
  | .compatible => answer
  | .incompatibleSubtype => { answer with level := .incompatibleSubtype, clash := nested.clash }
  | .incompatibleType =>
    let cause := nested.mismatch.getD (.unrelated (s.name e) (s.name a))
    { answer with level := .incompatibleType, mismatch := some (.inMember label cause) }

/-- How questions are answered, with the calls of the guard on the way. -/
inductive Evaluates (s : Store) (isStrict : Bool) :
    Question → PairGuard → List (PathGuard.Call (TypeId × TypeId)) → Relation → Prop
  | settled {t u : TypeId} {x y : Bool} {answer : Relation} {guard : PairGuard}
      (h : s.Settled isStrict t u x y answer) :
      Evaluates s isStrict (.types t u x y) guard [] answer
  | compared {t u e a : TypeId} {x y : Bool} {guard : PairGuard}
      {calls : List (PathGuard.Call (TypeId × TypeId))} {answer : Relation}
      (h : s.ComparesMembers isStrict t u e a)
      (hends : Evaluates s isStrict (.declarations e a) guard calls answer) :
      Evaluates s isStrict (.types t u x y) guard calls (completed s t u x y answer)
  | entered {e a : TypeId} {guard next : PairGuard}
      {calls : List (PathGuard.Call (TypeId × TypeId))} {answer : Relation}
      (h : guard.enter (e, a) = (.entered, next))
      (hmembers : Evaluates s isStrict
        (.requirements {} (Requirement.all (s.get e) (s.get a))) next calls answer) :
      Evaluates s isStrict (.declarations e a) guard
        (.enter (e, a) :: (calls ++ [.leave (e, a)])) (converted s e answer)
  | refused {e a : TypeId} {guard next : PairGuard} {entry : Entry}
      (h : guard.enter (e, a) = (entry, next)) (hentry : entry ≠ .entered) :
      Evaluates s isStrict (.declarations e a) guard [.enter (e, a)] {}
  | met {answer : Relation} {guard : PairGuard} :
      Evaluates s isStrict (.requirements answer []) guard [] answer
  | refuted {answer : Relation} {cause : Mismatch} {rest : List Requirement} {guard : PairGuard} :
      Evaluates s isStrict (.requirements answer (.refuted cause :: rest)) guard []
        { answer with level := .incompatibleType, mismatch := some cause }
  | unknown {answer final : Relation} {label : String} {r r' : TypeRef} {rest : List Requirement}
      {guard : PairGuard} {calls : List (PathGuard.Call (TypeId × TypeId))}
      (h : s.resolveRef? r = none ∨ s.resolveRef? r' = none)
      (hrest : Evaluates s isStrict (.requirements answer rest) guard calls final) :
      Evaluates s isStrict (.requirements answer (.related label r r' :: rest)) guard calls final
  | member {answer nested final : Relation} {label : String} {r r' : TypeRef} {e a : TypeId}
      {rest : List Requirement} {guard : PairGuard}
      {calls calls' : List (PathGuard.Call (TypeId × TypeId))}
      (hr : s.resolveRef? r = some e) (hr' : s.resolveRef? r' = some a)
      (hmember : Evaluates s isStrict (.types e a false false) guard calls nested)
      (hlevel : nested.level = .compatible)
      (hrest : Evaluates s isStrict (.requirements (extended s answer label e a nested) rest)
        (guard.after calls) calls' final) :
      Evaluates s isStrict (.requirements answer (.related label r r' :: rest)) guard
        (calls ++ calls') final
  | failed {answer nested : Relation} {label : String} {r r' : TypeRef} {e a : TypeId}
      {rest : List Requirement} {guard : PairGuard}
      {calls : List (PathGuard.Call (TypeId × TypeId))}
      (hr : s.resolveRef? r = some e) (hr' : s.resolveRef? r' = some a)
      (hmember : Evaluates s isStrict (.types e a false false) guard calls nested)
      (hlevel : nested.level ≠ .compatible) :
      Evaluates s isStrict (.requirements answer (.related label r r' :: rest)) guard calls
        (extended s answer label e a nested)

variable {s : Store} {isStrict : Bool} {relate : Relate} {levels : Nat} {guard : PairGuard}

/-! ### The guard is used well -/

/-- The calls of the guard pair up, whatever is held at the moment. -/
theorem Evaluates.paired {question : Question} {calls : List (PathGuard.Call (TypeId × TypeId))}
    {answer : Relation} (h : Evaluates s isStrict question guard calls answer)
    (held : List (TypeId × TypeId)) : guard.Paired held calls held := by
  induction h generalizing held with
  | settled | met | refuted => exact .nil
  | compared _ _ ih | unknown _ _ ih | failed _ _ _ _ ih => exact ih held
  | refused h hentry => exact .refused h hentry .nil
  | member _ _ _ _ _ ih ih' => exact (ih held).append (ih' held)
  | entered h _ ih => exact .around h (ih _)

/-! ### Every question is answered -/

/-- A way to relate types has a derivation for every question, as long as there is room. -/
def HasDerivations (s : Store) (isStrict : Bool) (relate : Relate) (levels : Nat) : Prop :=
  ∀ e a (guard : PairGuard), guard.HasRoom levels →
    ∃ calls, Evaluates s isStrict (.types e a false false) guard calls (relate e a guard).1 ∧
      guard.after calls = (relate e a guard).2

/-- One requirement whose types are known: those behind it are looked at if it is met. -/
theorem requirements_related (answer : Relation) (label : String) (rest : List Requirement)
    (guard : PairGuard) {r r' : TypeRef} {e a : TypeId} (hr : s.resolveRef? r = some e)
    (hr' : s.resolveRef? r' = some a) :
    requirements s relate answer (.related label r r' :: rest) guard =
      if (relate e a guard).1.level = .compatible then
        requirements s relate (extended s answer label e a (relate e a guard).1) rest
          (relate e a guard).2
      else (extended s answer label e a (relate e a guard).1, (relate e a guard).2) := by
  simp only [requirements, extended, hr, hr']
  cases (relate e a guard).1.level <;> simp

theorem requirements_evaluates (hkeeps : relate.KeepsPlace)
    (hrelate : HasDerivations s isStrict relate levels) (answer : Relation)
    (rs : List Requirement) {guard : PairGuard} (hroom : guard.HasRoom levels) :
    ∃ calls, Evaluates s isStrict (.requirements answer rs) guard calls
        (requirements s relate answer rs guard).1 ∧
      guard.after calls = (requirements s relate answer rs guard).2 := by
  induction rs generalizing answer guard with
  | nil => exact ⟨[], .met, rfl⟩
  | cons r rest ih =>
    cases r with
    | refuted cause => exact ⟨[], .refuted, rfl⟩
    | related label r r' =>
      cases hr : s.resolveRef? r with
      | none =>
        obtain ⟨calls, hrest, hafter⟩ := ih answer hroom
        rw [requirements, hr]
        exact ⟨calls, .unknown (.inl hr) hrest, hafter⟩
      | some e =>
      cases hr' : s.resolveRef? r' with
      | none =>
        obtain ⟨calls, hrest, hafter⟩ := ih answer hroom
        rw [requirements, hr, hr']
        exact ⟨calls, .unknown (.inr hr') hrest, hafter⟩
      | some a =>
      obtain ⟨calls, hmember, hafter⟩ := hrelate e a guard hroom
      rw [requirements_related answer label rest guard hr hr']
      by_cases hlevel : (relate e a guard).1.level = .compatible
      · rw [if_pos hlevel, ← hafter]
        obtain ⟨calls', hrest, hafter'⟩ := ih (extended s answer label e a (relate e a guard).1)
          (hafter ▸ hroom.congr (hkeeps e a guard))
        exact ⟨calls ++ calls', .member hr hr' hmember hlevel hrest,
          by rw [PathGuard.after_append, hafter']⟩
      · rw [if_neg hlevel]
        exact ⟨calls, .failed hr hr' hmember hlevel, hafter⟩

/-- Declarations whose pair is not let in are taken as compatible. -/
theorem structural_of_refused {e a : TypeId} {next : PairGuard} {entry : Entry}
    (h : guard.enter (e, a) = (entry, next)) (hentry : entry ≠ .entered) :
    structural s relate e a guard = ({}, next) := by
  cases entry with
  | entered => exact absurd rfl hentry
  | cycle | depthExceeded | stepsExceeded => simp only [structural, h]

theorem structural_evaluates (hkeeps : relate.KeepsPlace)
    (hrelate : HasDerivations s isStrict relate levels) (e a : TypeId)
    (hroom : guard.HasRoom (levels + 1)) :
    ∃ calls, Evaluates s isStrict (.declarations e a) guard calls
        (structural s relate e a guard).1 ∧
      guard.after calls = (structural s relate e a guard).2 := by
  rcases h : guard.enter (e, a) with ⟨entry, next⟩
  by_cases hentry : entry = .entered
  · subst hentry
    obtain ⟨hnew, hdepth, hsame⟩ := PathGuard.place_of_entered h
    obtain ⟨calls, hmembers, hafter⟩ := requirements_evaluates hkeeps hrelate {}
      (Requirement.all (s.get e) (s.get a)) (hroom.entered hnew hdepth hsame)
    simp only [structural, h]
    refine ⟨_, .entered h hmembers, ?_⟩
    simp only [PathGuard.after, PathGuard.after_append, h, hafter]
  · rw [structural_of_refused h hentry]
    exact ⟨_, .refused h hentry, by simp only [PathGuard.after, h]⟩

theorem stages_evaluates (hkeeps : relate.KeepsPlace)
    (hrelate : HasDerivations s isStrict relate levels) (t u : TypeId) (x y : Bool)
    (hroom : guard.HasRoom (levels + 1)) :
    ∃ calls, Evaluates s isStrict (.types t u x y) guard calls
        (stages s isStrict relate t u x y guard).1 ∧
      guard.after calls = (stages s isStrict relate t u x y guard).2 := by
  rcases s.settled_or_compares isStrict t u x y with ⟨answer, hsettled⟩ | ⟨e, a, hcompares⟩
  · rw [stages_of_settled hsettled]
    exact ⟨[], .settled hsettled, rfl⟩
  · rw [stages_of_compares hcompares]
    obtain ⟨calls, hends, hafter⟩ := structural_evaluates hkeeps hrelate e a hroom
    exact ⟨calls, .compared hcompares hends, hafter⟩

/-- There are levels enough for every pair that the guard lets in. -/
theorem members_hasDerivations (s : Store) (isStrict : Bool) (levels : Nat) :
    HasDerivations s isStrict (members s isStrict levels) levels := by
  induction levels with
  | zero =>
    intro e a guard hroom
    have hle := hroom.depth_le
    have hlt := hroom.lt_levels
    omega
  | succ levels ih =>
    exact fun e a guard hroom =>
      stages_evaluates (members_keepsPlace isStrict levels) ih e a false false hroom

/-- Every question has a derivation, from any guard that is within its bound. -/
theorem exists_evaluates (s : Store) (isStrict : Bool) (question : Question)
    (hdepth : guard.depth ≤ guard.maxDepth) :
    ∃ calls answer, Evaluates s isStrict question guard calls answer := by
  have hroom : guard.HasRoom (guard.maxDepth + 1 + 1) := ⟨hdepth, by omega⟩
  have hroom' : guard.HasRoom (guard.maxDepth + 1) := ⟨hdepth, by omega⟩
  have hkeeps : (members s isStrict (guard.maxDepth + 1)).KeepsPlace :=
    members_keepsPlace isStrict _
  have hderivations := members_hasDerivations s isStrict (guard.maxDepth + 1)
  cases question with
  | types t u x y =>
    obtain ⟨calls, h, -⟩ := stages_evaluates hkeeps hderivations t u x y hroom
    exact ⟨calls, _, h⟩
  | declarations e a =>
    obtain ⟨calls, h, -⟩ := structural_evaluates hkeeps hderivations e a hroom
    exact ⟨calls, _, h⟩
  | requirements answer rs =>
    obtain ⟨calls, h, -⟩ := requirements_evaluates hkeeps hderivations answer rs hroom'
    exact ⟨calls, _, h⟩

end Relate

/-! ### There is one answer -/

namespace Store

variable {s : Store} {isStrict : Bool} {t u e a : TypeId} {x y : Bool}

/-- Types that are settled are not compared. -/
theorem Settled.not_compares {answer : Relation} (h : s.Settled isStrict t u x y answer) :
    ¬ s.ComparesMembers isStrict t u e a := by
  intro hcompares
  cases h with
  | same htypes => exact hcompares.ne_types htypes
  | silenced h => exact hcompares.meets.not_silenced h
  | unaccepted hmeets hdiffer hkind =>
    obtain ⟨rfl, rfl⟩ := hcompares.meets.unique hmeets
    exact Bool.false_ne_true (hkind.symm.trans hcompares.accepts)
  | uncompared hmeets hdiffer hkind hone =>
    obtain ⟨rfl, rfl⟩ := hcompares.meets.unique hmeets
    rcases hone with hnominal | hsame
    · exact Bool.false_ne_true (hnominal.symm.trans hcompares.strict)
    · exact hcompares.ne hsame

/-- Types are settled in one way. -/
theorem Settled.unique {answer answer' : Relation} (h : s.Settled isStrict t u x y answer)
    (h' : s.Settled isStrict t u x y answer') : answer = answer' := by
  have hstages : Relate.stages s isStrict (fun _ _ guard => ({}, guard)) t u x y .structural =
      (answer, .structural) := Relate.stages_of_settled h .structural
  rw [Relate.stages_of_settled h'] at hstages
  exact (congrArg Prod.fst hstages).symm

end Store

namespace Relate

variable {s : Store} {isStrict : Bool} {guard : PairGuard}

/-- A question has one answer, found with one list of calls. -/
theorem Evaluates.unique {question : Question}
    {calls calls' : List (PathGuard.Call (TypeId × TypeId))} {answer answer' : Relation}
    (h : Evaluates s isStrict question guard calls answer)
    (h' : Evaluates s isStrict question guard calls' answer') :
    calls = calls' ∧ answer = answer' := by
  induction h generalizing calls' answer' with
  | settled h =>
    cases h' with
    | settled h' => exact ⟨rfl, h.unique h'⟩
    | compared h' => exact absurd h' h.not_compares
  | compared h _ ih =>
    cases h' with
    | settled h' => exact absurd h h'.not_compares
    | compared h' hends =>
      obtain ⟨rfl, rfl⟩ := h.meets.unique h'.meets
      obtain ⟨rfl, rfl⟩ := ih hends
      exact ⟨rfl, rfl⟩
  | entered h _ ih =>
    cases h' with
    | entered h' hmembers =>
      obtain ⟨-, rfl⟩ := Prod.mk.inj (h.symm.trans h')
      obtain ⟨rfl, rfl⟩ := ih hmembers
      exact ⟨rfl, rfl⟩
    | refused h' hentry => exact absurd (congrArg Prod.fst (h.symm.trans h')).symm hentry
  | refused h hentry =>
    cases h' with
    | entered h' => exact absurd (congrArg Prod.fst (h.symm.trans h')) hentry
    | refused => exact ⟨rfl, rfl⟩
  | met =>
    cases h'
    exact ⟨rfl, rfl⟩
  | refuted =>
    cases h'
    exact ⟨rfl, rfl⟩
  | unknown h _ ih =>
    cases h' with
    | unknown _ hrest => exact ih hrest
    | member hr hr' | failed hr hr' => simp [hr, hr'] at h
  | member hr hr' _ hlevel _ ih ih' =>
    cases h' with
    | unknown h' => simp [hr, hr'] at h'
    | member hr₂ hr₂' hmember _ hrest =>
      obtain rfl := Option.some.inj (hr.symm.trans hr₂)
      obtain rfl := Option.some.inj (hr'.symm.trans hr₂')
      obtain ⟨rfl, rfl⟩ := ih hmember
      obtain ⟨rfl, rfl⟩ := ih' hrest
      exact ⟨rfl, rfl⟩
    | failed hr₂ hr₂' hmember hlevel' =>
      obtain rfl := Option.some.inj (hr.symm.trans hr₂)
      obtain rfl := Option.some.inj (hr'.symm.trans hr₂')
      exact absurd hlevel ((ih hmember).2 ▸ hlevel')
  | failed hr hr' _ hlevel ih =>
    cases h' with
    | unknown h' => simp [hr, hr'] at h'
    | failed hr₂ hr₂' hmember =>
      obtain rfl := Option.some.inj (hr.symm.trans hr₂)
      obtain rfl := Option.some.inj (hr'.symm.trans hr₂')
      obtain ⟨rfl, rfl⟩ := ih hmember
      exact ⟨rfl, rfl⟩
    | member hr₂ hr₂' hmember hlevel' =>
      obtain rfl := Option.some.inj (hr.symm.trans hr₂)
      obtain rfl := Option.some.inj (hr'.symm.trans hr₂')
      exact absurd hlevel' ((ih hmember).2 ▸ hlevel)

/-- **Every question is answered once.**  Whatever the declarations lead to, there is one way to
answer it, from any guard that is within its bound. -/
theorem existsUnique_evaluates (s : Store) (isStrict : Bool) (question : Question)
    (hdepth : guard.depth ≤ guard.maxDepth) :
    ∃! result : List (PathGuard.Call (TypeId × TypeId)) × Relation,
      Evaluates s isStrict question guard result.1 result.2 := by
  obtain ⟨calls, answer, h⟩ := exists_evaluates s isStrict question hdepth
  refine ⟨(calls, answer), h, fun other hother => ?_⟩
  obtain ⟨hcalls, hanswer⟩ := hother.unique h
  exact Prod.ext hcalls hanswer

end Relate

/-! ### Queries -/

namespace Resolver

/-- The resolvers there are: a new one, and what queries over any stores leave. -/
inductive Reachable : Resolver → Prop
  | fresh : Reachable {}
  | query {r : Resolver} (h : Reachable r) (store : Store) (pass : Pass) (isStrict : Bool)
      (expected actual : TypeId) (x y : Bool) :
      Reachable (r.query store pass isStrict expected actual x y).2
  | forget {r : Resolver} (h : Reachable r) : Reachable r.forget

theorem Reachable.reset_guard {r : Resolver} (h : Reachable r) : r.guard.reset = .structural := by
  induction h with
  | fresh => rfl
  | query _ store pass isStrict expected actual x y ih => exact (query_guard ..).trans ih
  | forget _ ih => exact ih

/-- **Queries end, and the guard is used well.**  A query is answered by a derivation that no count
of levels bounds, and the calls of the guard in it are balanced over a path of at most 100 pairs.
Every question that comes up on the way has exactly one such derivation, from any guard within its
bound, and its calls are balanced too; so the structural stage gives back the path it was given,
whatever it answers.  For a guard of any keys, calls in which each key that was let in is left once
are balanced. -/
theorem compute_evaluates {r : Resolver} (h : Reachable r) (s : Store) :
    (∀ q : Query, ∃ calls,
        Relate.Evaluates s q.isStrict
          (.types q.expected q.actual q.expectedIsElement q.actualIsElement) r.guard.reset calls
          (r.compute s q).1 ∧
        r.guard.reset.after calls = (r.compute s q).2 ∧ r.guard.reset.IsBalanced calls ∧
        ∀ done, done <+: calls → (r.guard.reset.after done).depth ≤ 100) ∧
      (∀ (isStrict : Bool) (question : Relate.Question) (guard : PairGuard),
        guard.depth ≤ guard.maxDepth →
        (∃! result : List (PathGuard.Call (TypeId × TypeId)) × Relation,
            Relate.Evaluates s isStrict question guard result.1 result.2) ∧
          ∀ calls answer, Relate.Evaluates s isStrict question guard calls answer →
            guard.IsBalanced calls) ∧
      (∀ (isStrict : Bool) (levels : Nat) (e a : TypeId) (guard : PairGuard),
        (Relate.structural s (Relate.members s isStrict levels) e a guard).2.path = guard.path) ∧
      ∀ (κ : Type) [Ord κ] [Std.TransOrd κ] [Std.LawfulEqOrd κ] (guard : PathGuard κ)
        (calls : List (PathGuard.Call κ)), guard.depth ≤ guard.maxDepth →
        guard.Paired [] calls [] → guard.IsBalanced calls := by
  refine ⟨fun q => ?_, fun isStrict question guard hdepth => ?_,
    fun isStrict levels e a guard => ?_, fun κ _ _ _ guard calls hdepth hpaired => ?_⟩
  · have hroom := reset_hasRoom r.guard
    obtain ⟨calls, hcalls, hafter⟩ := Relate.stages_evaluates
      (Relate.members_keepsPlace q.isStrict r.guard.maxDepth)
      (Relate.members_hasDerivations s q.isStrict r.guard.maxDepth) q.expected q.actual
      q.expectedIsElement q.actualIsElement hroom
    have hbalanced := (hcalls.paired []).isBalanced hroom.depth_le
    refine ⟨calls, hcalls, hafter, hbalanced, fun done hdone => ?_⟩
    have hbound : r.guard.reset.maxDepth = 100 := congrArg PathGuard.maxDepth h.reset_guard
    exact hbound ▸ hbalanced.depth_le hdone
  · exact ⟨Relate.existsUnique_evaluates s isStrict question hdepth,
      fun calls answer hcalls => (hcalls.paired []).isBalanced hdepth⟩
  · have hkeeps : (Relate.members s isStrict levels).KeepsPlace :=
      Relate.members_keepsPlace isStrict levels
    exact (Relate.structural_keepsPlace s hkeeps e a guard).path
  · exact hpaired.isBalanced hdepth

/-- The calls of the guard while the two chains are compared: behind the first link the same pair
comes up again. -/
def chainCalls : List (PathGuard.Call (TypeId × TypeId)) :=
  [.enter (0, 1), .enter (0, 1), .leave (0, 1)]

/-- The two chains are compared once, and found compatible; the second attempt to enter the pair is
refused, so that it is left once. -/
theorem compute_evaluates_chains :
    Reachable .chainsCompared ∧
      (∃ calls, Relate.Evaluates .twoChains true (.types 0 1 false false) .structural calls
        { needsConversion := true } ∧ PathGuard.structural.IsBalanced calls) ∧
      (PathGuard.structural : PairGuard).depth ≤ 100 ∧
      PathGuard.structural.Paired [] chainCalls [] ∧
      PathGuard.structural.IsBalanced chainCalls := by
  have hreachable : Reachable .chainsCompared := .query .fresh .twoChains 1 true 0 1 false false
  have hdepth : (PathGuard.structural : PairGuard).depth ≤ 100 := by decide
  have hpaired : PathGuard.structural.Paired [] chainCalls [] := by
    have hagain : (PathGuard.structural.enter ((0 : TypeId), (1 : TypeId))).2.Paired
        [(0, 1)] [.enter (0, 1)] [(0, 1)] := .refused rfl (by decide) .nil
    exact .around (Prod.ext (by decide) rfl) hagain
  obtain ⟨hquery, -, -, hcalls⟩ := compute_evaluates hreachable .twoChains
  obtain ⟨calls, hevaluates, -, hbalanced, -⟩ :=
    hquery { expected := 0, actual := 1, isStrict := true }
  have hanswer : (chainsCompared.compute .twoChains
      { expected := 0, actual := 1, isStrict := true }).1 = { needsConversion := true } := by
    decide
  rw [hreachable.reset_guard] at hevaluates hbalanced
  rw [hanswer] at hevaluates
  exact ⟨hreachable, ⟨calls, hevaluates, hbalanced⟩, hdepth, hpaired,
    hcalls _ _ _ hdepth hpaired⟩

end Resolver

end TestSpec
