import Mathlib.Order.ConditionallyCompleteLattice.Basic
import Mathlib.Order.FixedPoints
import TestSpec.Proofs.Relation.Limits
import TestSpec.Proofs.Store.Resolve

/-!
# Structural compatibility as a greatest fixed point

The structural stage takes a pair that it meets again on its path as compatible.  What
it decides in this way is a greatest fixed point.  `Store.comparison` says of a
relation `S` between declarations which pairs meet their requirements if `S` is
taken for granted, and `Store.comparable` is the greatest `S` that justifies itself.

The path enters the proof as a hypothesis: a walk with the pairs `P` on its path shows
what is comparable **under** `P`, that is, what justifies itself together with `P`
(`Store.comparableUnder`).  A pair that is comparable under `P` and itself is
comparable under `P` alone, which is what leaving a pair amounts to.

Main statements: `Resolver.compute_isCompatible_of_related`, by which no limit is needed for
related types to be found compatible, and `Resolver.related_of_compute`, by which an
answer that hit no limit is right.
-/

namespace TestSpec

/-- A relation between types. -/
abbrev TypeRelation := TypeId → TypeId → Prop

/-- The pairs on the path of a guard. -/
def PathGuard.pairs (g : PairGuard) : TypeRelation := fun e a => (e, a) ∈ g.path

/-- A requirement is met if the types of members are related by `R`. -/
def Requirement.Met (R : TypeRef → TypeRef → Prop) : Requirement → Prop
  | .refuted _ => False
  | .related _ expected actual => R expected actual

namespace Requirement

theorem Met.mono {R R' : TypeRef → TypeRef → Prop} (himp : ∀ e a, R e a → R' e a)
    {r : Requirement} (h : r.Met R) : r.Met R' := by
  cases r with
  | refuted cause => exact h
  | related label expected actual => exact himp _ _ h

end Requirement

namespace Store

/-- Two types are related if they are one type, if one of them leads nowhere or is erroneous, or
if the ends of their alias chains go together: the kinds are compatible, the declarations are one
or related by `S`, and the constraints in force have a common value. -/
inductive Related (s : Store) (S : TypeRelation) (expectedIsElement actualIsElement : Bool) :
    TypeId → TypeId → Prop
  | same {type : TypeId} (hexpected : expectedIsElement = false)
      (hactual : actualIsElement = false) :
      Related s S expectedIsElement actualIsElement type type
  | expectedUnresolved {expected actual : TypeId} (h : s.resolveAlias? expected = none) :
      Related s S expectedIsElement actualIsElement expected actual
  | actualUnresolved {expected actual : TypeId} (h : s.resolveAlias? actual = none) :
      Related s S expectedIsElement actualIsElement expected actual
  | expectedErroneous {expected actual : TypeId} (h : s.isErroneous expected = true) :
      Related s S expectedIsElement actualIsElement expected actual
  | actualErroneous {expected actual : TypeId} (h : s.isErroneous actual = true) :
      Related s S expectedIsElement actualIsElement expected actual
  | resolved {expected actual e a : TypeId} (hexpected : s.resolveAlias? expected = some e)
      (hactual : s.resolveAlias? actual = some a)
      (hkind : (s.get e).kind.accepts (s.get a).kind (s.get e).dialect (s.get a).dialect = true)
      (hmembers : e = a ∨ S e a)
      (hconstraints : ∀ ce ∈ s.effectiveConstraint expected, ∀ ca ∈ s.effectiveConstraint actual,
        ce.clash? ca expectedIsElement actualIsElement = none) :
      Related s S expectedIsElement actualIsElement expected actual

/-- The types of two members are related, or there is nothing to relate because a reference leads
to no declaration. -/
def MembersRelated (s : Store) (S : TypeRelation) (expected actual : TypeRef) : Prop :=
  ∀ e ∈ s.resolveRef? expected, ∀ a ∈ s.resolveRef? actual, s.Related S false false e a

theorem Related.mono {s : Store} {S T : TypeRelation} (hST : S ≤ T) {x y : Bool} {e a : TypeId}
    (h : s.Related S x y e a) : s.Related T x y e a := by
  cases h with
  | same hx hy => exact .same hx hy
  | expectedUnresolved h => exact .expectedUnresolved h
  | actualUnresolved h => exact .actualUnresolved h
  | expectedErroneous h => exact .expectedErroneous h
  | actualErroneous h => exact .actualErroneous h
  | resolved he ha hkind hmembers hconstraints =>
    exact .resolved he ha hkind (hmembers.imp_right (hST _ _)) hconstraints

theorem MembersRelated.mono {s : Store} {S T : TypeRelation} (hST : S ≤ T)
    {expected actual : TypeRef} (h : s.MembersRelated S expected actual) :
    s.MembersRelated T expected actual :=
  fun e he a ha => (h e he a ha).mono hST

/-- The pairs of declarations, no aliases among them, that meet all requirements if `S` is taken
for granted. -/
def comparison (s : Store) : TypeRelation →o TypeRelation where
  toFun S e a := (s.get e).isAlias = false ∧ (s.get a).isAlias = false ∧
    ∀ r ∈ Requirement.all (s.get e) (s.get a), r.Met (s.MembersRelated S)
  monotone' _ _ hST _ _ h :=
    ⟨h.1, h.2.1, fun r hr => (h.2.2 r hr).mono fun _ _ => MembersRelated.mono hST⟩

/-- The greatest relation of declarations that justifies itself. -/
def comparable (s : Store) : TypeRelation := s.comparison.gfp

/-- The greatest relation of declarations that justifies itself together with `P`. -/
def comparableUnder (s : Store) (P : TypeRelation) : TypeRelation :=
  (s.comparison.comp ⟨fun S => S ⊔ P, fun _ _ h => sup_le_sup_right h P⟩).gfp

theorem comparison_comparable (s : Store) : s.comparison s.comparable = s.comparable :=
  s.comparison.map_gfp

theorem comparison_comparableUnder (s : Store) (P : TypeRelation) :
    s.comparison (s.comparableUnder P ⊔ P) = s.comparableUnder P :=
  (s.comparison.comp ⟨fun S => S ⊔ P, fun _ _ h => sup_le_sup_right h P⟩).map_gfp

theorem le_comparableUnder {s : Store} {P S : TypeRelation} (h : S ≤ s.comparison (S ⊔ P)) :
    S ≤ s.comparableUnder P :=
  OrderHom.le_gfp _ h

/-- What is comparable under nothing is comparable. -/
theorem comparableUnder_bot (s : Store) : s.comparableUnder ⊥ = s.comparable := by
  apply le_antisymm
  · apply OrderHom.le_gfp
    have hfix := s.comparison_comparableUnder ⊥
    rw [sup_bot_eq] at hfix
    exact hfix.ge
  · apply le_comparableUnder
    rw [sup_bot_eq, comparison_comparable]

/-- What is comparable under `P` and itself is comparable under `P`. -/
theorem le_comparableUnder_of_sup {s : Store} {P X : TypeRelation}
    (h : X ≤ s.comparableUnder (P ⊔ X)) : X ≤ s.comparableUnder P := by
  refine h.trans (le_comparableUnder ?_)
  have hjoin : s.comparableUnder (P ⊔ X) ⊔ (P ⊔ X) ≤ s.comparableUnder (P ⊔ X) ⊔ P :=
    sup_le le_sup_left (sup_le le_sup_right (h.trans le_sup_left))
  calc s.comparableUnder (P ⊔ X)
      = s.comparison (s.comparableUnder (P ⊔ X) ⊔ (P ⊔ X)) :=
        (s.comparison_comparableUnder _).symm
    _ ≤ s.comparison (s.comparableUnder (P ⊔ X) ⊔ P) := s.comparison.mono hjoin

end Store

namespace Relate

variable {store : Store} {relate : Relate}

/-! ### Related types are found compatible -/

theorem requirements_of_met {S : TypeRelation}
    (hrelate : ∀ e a guard, store.Related S false false e a →
      (relate e a guard).1.isCompatible = true)
    {rs : List Requirement} (hmet : ∀ r ∈ rs, r.Met (store.MembersRelated S))
    {answer : Relation} (hanswer : answer.isCompatible = true) (guard : PairGuard) :
    (requirements store relate answer rs guard).1.isCompatible = true := by
  induction rs generalizing answer guard with
  | nil => exact hanswer
  | cons r rest ih =>
    obtain ⟨hfirst, hrest⟩ := List.forall_mem_cons.mp hmet
    cases r with
    | refuted cause => exact hfirst.elim
    | related label expected actual =>
      simp only [requirements]
      split
      · rename_i e a he ha
        have hnested := hrelate e a guard (hfirst e he a ha)
        simp only [Relation.isCompatible, beq_iff_eq] at hnested
        simp only [hnested]
        refine ih hrest ?_ _
        exact hanswer
      · exact ih hrest hanswer guard

/-- A pair that meets its requirements passes the structural stage, whatever is on the path. -/
theorem structural_of_comparable
    (hrelate : ∀ e a guard, store.Related store.comparable false false e a →
      (relate e a guard).1.isCompatible = true)
    {e a : TypeId} (h : store.comparable e a) (guard : PairGuard) :
    (structural store relate e a guard).1.isCompatible = true := by
  have hmet : store.comparison store.comparable e a := by
    rwa [store.comparison_comparable]
  simp only [structural]
  split
  · exact requirements_of_met hrelate hmet.2.2 rfl _
  · rfl

theorem stages_of_related
    (hrelate : ∀ e a guard, store.Related store.comparable false false e a →
      (relate e a guard).1.isCompatible = true)
    (isStrict : Bool) {x y : Bool} {expected actual : TypeId}
    (h : store.Related store.comparable x y expected actual) (guard : PairGuard) :
    (stages store isStrict relate expected actual x y guard).1.isCompatible = true := by
  simp only [stages]
  split
  · rfl
  rename_i hnotSame
  split
  case h_2 => rfl
  rename_i e a he ha
  split
  · rfl
  rename_i herroneous
  cases h with
  | same hx hy => simp [hx, hy] at hnotSame
  | expectedUnresolved h => rw [h] at he; cases he
  | actualUnresolved h => rw [h] at ha; cases ha
  | expectedErroneous h => simp [h] at herroneous
  | actualErroneous h => simp [h] at herroneous
  | resolved he' ha' hkind hmembers hconstraints =>
    obtain rfl := Option.some.inj (he.symm.trans he')
    obtain rfl := Option.some.inj (ha.symm.trans ha')
    have hstructural :
        (if (isStrict && e != a) = true then structural store relate e a guard
          else ({}, guard)).1.isCompatible = true := by
      split
      · rename_i hcompared
        have hne : e ≠ a := by simp at hcompared; exact hcompared.2
        exact structural_of_comparable hrelate (hmembers.resolve_left hne) guard
      · rfl
    simp only [hkind, Bool.not_true, Bool.false_eq_true, if_false, hstructural, if_true,
      constraints]
    split
    · rename_i ce ca hce hca
      rw [hconstraints ce hce ca hca]
      exact hstructural
    · exact hstructural

theorem members_of_related (isStrict : Bool) (levels : Nat) {e a : TypeId} (guard : PairGuard)
    (h : store.Related store.comparable false false e a) :
    (members store isStrict levels e a guard).1.isCompatible = true := by
  induction levels generalizing e a guard with
  | zero => rfl
  | succ levels ih => exact stages_of_related (fun _ _ guard => ih guard) isStrict h guard

/-! ### Types found compatible are related -/

/-- A comparison is sound within some levels if types that it finds compatible without hitting a
limit are related, the pairs on the path being taken for granted. -/
def SoundWithin (store : Store) (relate : Relate) (stays : Stays) (levels : Nat) : Prop :=
  ∀ e a (guard : PairGuard), guard.HasRoom levels → stays e a guard = true →
    (relate e a guard).1.isCompatible = true →
    store.Related (store.comparableUnder guard.pairs ⊔ guard.pairs) false false e a

variable {stays : Stays} {levels : Nat}

theorem requirements_met (hkeeps : relate.KeepsPlace)
    (hsound : SoundWithin store relate stays levels) {answer : Relation} {rs : List Requirement}
    {guard : PairGuard} (hroom : guard.HasRoom levels)
    (hstays : Stays.requirements store relate stays rs guard = true)
    (hcompatible : (requirements store relate answer rs guard).1.isCompatible = true) :
    ∀ r ∈ rs,
      r.Met (store.MembersRelated (store.comparableUnder guard.pairs ⊔ guard.pairs)) := by
  induction rs generalizing answer guard with
  | nil => simp
  | cons r rest ih =>
    cases r with
    | refuted cause => simp [requirements, Relation.isCompatible] at hcompatible
    | related label expected actual =>
      rw [List.forall_mem_cons]
      simp only [requirements] at hcompatible
      simp only [Stays.requirements] at hstays
      split at hstays
      · rename_i e a he ha
        simp only [he, ha] at hcompatible
        simp only [Bool.and_eq_true, Bool.or_eq_true, Bool.not_eq_true'] at hstays
        obtain ⟨hfirst, hrest⟩ := hstays
        have hplace := hkeeps e a guard
        have hpairs : (relate e a guard).2.pairs = guard.pairs := by
          funext x y
          simp only [PathGuard.pairs, hplace.path]
        split at hcompatible
        · rename_i hnested
          have hlevel : (relate e a guard).1.isCompatible = true := by
            simp [Relation.isCompatible, hnested]
          refine ⟨?_, ?_⟩
          · intro e' he' a' ha'
            obtain rfl := Option.some.inj (he.symm.trans he')
            obtain rfl := Option.some.inj (ha.symm.trans ha')
            exact hsound e a guard hroom hfirst hlevel
          · have hstays' := hrest.resolve_left (by simp [hlevel])
            simpa only [hpairs] using ih (hroom.congr hplace) hstays' hcompatible
        · simp [Relation.isCompatible] at hcompatible
        · simp [Relation.isCompatible] at hcompatible
      · rename_i hnone
        split at hcompatible
        · rename_i e a he ha
          exact (hnone e a he ha).elim
        · refine ⟨?_, ih hroom hstays hcompatible⟩
          intro e he a ha
          exact (hnone e a he ha).elim

/-- The structural stage shows a pair comparable under the pairs on the path, or finds it there. -/
theorem comparableUnder_of_structural (hkeeps : relate.KeepsPlace)
    (hsound : SoundWithin store relate stays levels) {e a : TypeId} {guard : PairGuard}
    (hroom : guard.HasRoom (levels + 1)) (he : (store.get e).isAlias = false)
    (ha : (store.get a).isAlias = false)
    (hstays : Stays.structural store relate stays e a guard = true)
    (hcompatible : (structural store relate e a guard).1.isCompatible = true) :
    (store.comparableUnder guard.pairs ⊔ guard.pairs) e a := by
  rcases hentry : guard.enter (e, a) with ⟨entry, next⟩
  have hcases := guard.enter_cases (e, a)
  simp only [hentry, Prod.mk.injEq] at hcases
  rcases hcases with ⟨_, ⟨rfl, rfl⟩, hnew, hdepth, hsame⟩ | ⟨_, ⟨rfl, rfl⟩, hmem, -⟩ |
    ⟨_, _, ⟨rfl, rfl⟩, hlimit, -⟩
  · simp only [Stays.structural, hentry] at hstays
    simp only [structural, hentry] at hcompatible
    have hinner : (requirements store relate {}
        (Requirement.all (store.get e) (store.get a)) next).1.isCompatible = true := by
      simpa [Relation.isCompatible] using hcompatible
    have hmet := requirements_met hkeeps hsound (hroom.entered hnew hdepth hsame) hstays hinner
    -- the path of the requirements is the path of the pair, and the pair itself
    let here : TypeRelation := fun x y => x = e ∧ y = a
    have hpairs : next.pairs = guard.pairs ⊔ here := by
      funext x y
      have hpath : next.path = guard.path.insert (e, a) := hsame.path
      have hmem : (x, y) ∈ next.path ↔ (e, a) = (x, y) ∨ (x, y) ∈ guard.path := by
        rw [hpath, Std.ExtTreeSet.mem_insert, Std.LawfulEqCmp.compare_eq_iff_eq]
      rw [Prod.mk.injEq, eq_comm (a := e), eq_comm (a := a), or_comm] at hmem
      exact propext hmem
    rw [hpairs] at hmet
    have hjust : store.comparableUnder (guard.pairs ⊔ here) e a := by
      rw [← store.comparison_comparableUnder]
      exact ⟨he, ha, hmet⟩
    have hall : here ≤ store.comparableUnder (guard.pairs ⊔ here) := by
      rintro x y ⟨rfl, rfl⟩
      exact hjust
    exact .inl (Store.le_comparableUnder_of_sup hall e a ⟨rfl, rfl⟩)
  · exact .inr hmem
  · rcases hlimit with rfl | rfl <;>
      simp [Stays.structural, hentry, Entry.isLimit] at hstays

theorem related_of_stages (hkeeps : relate.KeepsPlace)
    (hsound : SoundWithin store relate stays levels) {x y : Bool} {expected actual : TypeId}
    {guard : PairGuard} (hroom : guard.HasRoom (levels + 1))
    (hstays : Stays.stages store true relate stays expected actual x y guard = true)
    (hcompatible : (stages store true relate expected actual x y guard).1.isCompatible = true) :
    store.Related (store.comparableUnder guard.pairs ⊔ guard.pairs) x y expected actual := by
  by_cases hsame : expected = actual ∧ !x ∧ !y
  · obtain ⟨rfl, hx, hy⟩ := hsame
    exact .same (by simpa using hx) (by simpa using hy)
  cases he : store.resolveAlias? expected with
  | none => exact .expectedUnresolved he
  | some e =>
  cases ha : store.resolveAlias? actual with
  | none => exact .actualUnresolved ha
  | some a =>
  cases hexpected : store.isErroneous expected with
  | true => exact .expectedErroneous hexpected
  | false =>
  cases hactual : store.isErroneous actual with
  | true => exact .actualErroneous hactual
  | false =>
  simp only [stages, if_neg hsame, he, ha, hexpected, hactual, Bool.or_self, Bool.false_eq_true,
    if_false, Bool.true_and] at hcompatible
  simp only [Stays.stages, if_neg hsame, he, ha, hexpected, hactual, Bool.or_self,
    Bool.false_eq_true, if_false, Bool.true_and] at hstays
  cases hkind : (store.get e).kind.accepts (store.get a).kind (store.get e).dialect
      (store.get a).dialect with
  | false => simp [hkind, Relation.isCompatible] at hcompatible
  | true =>
  simp only [hkind, Bool.not_true, Bool.false_eq_true, if_false] at hcompatible hstays
  -- an answer that is compatible in the end was compatible after the structural stage
  have hstructural : (if (e != a) = true then structural store relate e a guard
      else ({}, guard)).1.isCompatible = true := by
    by_contra hnot
    rw [if_neg hnot] at hcompatible
    exact hnot hcompatible
  simp only [hstructural, if_true] at hcompatible
  refine .resolved he ha hkind ?_ ?_
  · by_cases hea : e = a
    · exact .inl hea
    · have hne : (e != a) = true := by simpa using hea
      simp only [hne, if_true] at hstructural hstays
      exact .inr (comparableUnder_of_structural hkeeps hsound hroom
        (Store.isAlias_of_resolveAlias? he) (Store.isAlias_of_resolveAlias? ha) hstays hstructural)
  · intro ce hce ca hca
    rw [Option.mem_def] at hce hca
    simp only [constraints, hce, hca] at hcompatible
    split at hcompatible
    · assumption
    · simp [Relation.isCompatible] at hcompatible

theorem members_soundWithin (levels : Nat) :
    SoundWithin store (members store true levels) (Stays.members store true levels) levels := by
  induction levels with
  | zero =>
    intro e a guard hroom
    have hle := hroom.depth_le
    have hlt := hroom.lt_levels
    omega
  | succ levels ih =>
    intro e a guard hroom hstays hcompatible
    exact related_of_stages (members_keepsPlace true levels) ih hroom hstays hcompatible

end Relate

namespace Resolver

/-- Related types are found compatible, also where a limit is hit on the way. -/
theorem compute_isCompatible_of_related (r : Resolver) {store : Store} {q : Query}
    (h : store.Related store.comparable q.expectedIsElement q.actualIsElement q.expected q.actual) :
    (r.compute store q).1.isCompatible = true :=
  Relate.stages_of_related (fun _ _ guard => Relate.members_of_related q.isStrict _ guard)
    q.isStrict h r.guard.reset

/-- Types that a strict query finds compatible without hitting a limit are related. -/
theorem related_of_compute {r : Resolver} {store : Store} {q : Query} (hstrict : q.isStrict = true)
    (hstays : r.staysWithin store q = true)
    (hcompatible : (r.compute store q).1.isCompatible = true) :
    store.Related store.comparable q.expectedIsElement q.actualIsElement q.expected q.actual := by
  simp only [staysWithin, hstrict] at hstays
  simp only [compute, hstrict] at hcompatible
  have hrelated := Relate.related_of_stages (Relate.members_keepsPlace true _)
    (Relate.members_soundWithin _) (reset_hasRoom r.guard) hstays hcompatible
  have hempty : r.guard.reset.pairs = ⊥ := by
    funext e a
    simp [PathGuard.pairs, PathGuard.reset]
  rwa [hempty, store.comparableUnder_bot, sup_bot_eq] at hrelated

end Resolver

end TestSpec
