import TestSpec.Proofs.Relation.Memo

/-!
# Types that are compatible with everything

A declaration that has gone wrong should cause one complaint.  So a type **absorbs** what is asked
about it if it is erroneous, if its alias chain is broken, or if it is of the undefined kind under
no constraint.  The first two end a query before anything is compared; the kind stage lets the
undefined kind through, and the later stages are entered.

What they find depends on the side.  Nothing is required of the members of an undefined type that is
expected, so it takes every type in every mode.  As the actual type it is let through outside
strict mode.  In strict mode it is compared as if it had declared no members, and refused where the
expected type demands some: a record or set with fields, or an array of a known dimension.

The same is found at every level of a comparison (`Requirement.Passes`).  Main statement:
`Check.relation_of_absorbs`, over every run of a session.
-/

namespace TestSpec

/-! ### Comparing with a declaration without members -/

/-- The declaration has no members of any sort. -/
structure Declaration.Memberless (d : Declaration) : Prop where
  fields : d.fields = []
  enumerators : d.enumerators = []
  element : d.element = none
  dimension : d.dimension = none

/-- The declaration asks for as many fields, or for the same dimension, as it has itself. -/
def Declaration.demandsMembers (d : Declaration) : Bool :=
  if d.kind.isRecordLike || d.kind.isSetLike then !d.fields.isEmpty
  else d.kind == .array && d.dimension.isSome

namespace Requirement

variable {e a : Declaration}

theorem all_of_undefined (h : e.kind = .undefined) : all e a = [] := by
  rw [all, h]
  rfl

theorem ofRecords_of_memberless (ha : a.Memberless) :
    ofRecords e a =
      if e.fields.isEmpty then [] else [.refuted (.recordFieldCount e.fields.length 0)] := by
  rw [ofRecords, ha.fields]
  cases e.fields <;> rfl

theorem ofSets_of_memberless (ha : a.Memberless) :
    ofSets e a =
      if e.fields.isEmpty then [] else [.refuted (.setFieldCount e.fields.length 0)] := by
  rw [ofSets, ha.fields]
  cases e.fields <;> rfl

theorem ofLists_of_memberless (ha : a.Memberless) :
    ofLists e a =
      if e.kind == .array && e.dimension.isSome then [.refuted (.dimension e.dimension none)]
      else [] := by
  rw [ofLists, ha.element, ha.dimension]
  cases e.dimension <;> cases e.element <;> simp

/-- A declaration without members meets all that is required of it unless members are demanded, in
which case the first requirement is refuted. -/
theorem all_of_memberless (ha : a.Memberless) :
    (e.demandsMembers = false → all e a = []) ∧
      (e.demandsMembers = true → ∃ cause, all e a = [.refuted cause]) := by
  rw [Declaration.demandsMembers, all]
  by_cases hr : e.kind.isRecordLike = true
  · rw [if_pos hr, ofRecords_of_memberless ha, hr, Bool.true_or, if_pos rfl]
    cases e.fields <;> simp
  by_cases hs : e.kind.isSetLike = true
  · rw [if_neg hr, if_pos hs, ofSets_of_memberless ha, hs, Bool.or_true, if_pos rfl]
    cases e.fields <;> simp
  have hneither : ¬ (e.kind.isRecordLike || e.kind.isSetLike) = true := by
    rw [Bool.or_eq_true]
    exact not_or.mpr ⟨hr, hs⟩
  have halternatives : a.fields.map (ofAlternative e a) = [] := by
    rw [ha.fields]
    rfl
  have henumerated : ofEnumerated e a = [] := by
    rw [ofEnumerated, ha.enumerators]
    rfl
  rw [if_neg hr, if_neg hs, if_neg hneither, halternatives, henumerated, ofLists_of_memberless ha]
  by_cases harray : e.kind = .array
  · rw [harray]
    cases e.dimension with
    | none => simp
    | some dimension => exact ⟨nofun, fun _ => ⟨.dimension (some dimension) none, rfl⟩⟩
  · simp [harray]

end Requirement

namespace Store

variable {s s' : Store} {t u : TypeId}

/-! ### Absorbing types -/

/-- What is asked about the type should cause no complaint: it is erroneous, its alias chain is
broken, or it is of the undefined kind under no constraint. -/
inductive Absorbs (s : Store) (u : TypeId) : Prop
  | erroneous (h : s.isErroneous u = true)
  | broken (h : s.resolveAlias? u = none)
  | undefined (hkind : (s.resolvedKind u).1 = .undefined) (hfree : s.effectiveConstraint u = none)

/-- The declaration at the end of the alias chain has no members. -/
def Memberless (s : Store) (u : TypeId) : Prop :=
  ∀ last, s.resolveAlias? u = some last → (s.get last).Memberless

/-- The declaration at the end of the alias chain demands members. -/
def DemandsMembers (s : Store) (t : TypeId) : Prop :=
  ∃ last, s.resolveAlias? t = some last ∧ (s.get last).demandsMembers = true

/-- An absorbing type that is not silenced is of the undefined kind. -/
theorem Absorbs.undefined_of_not_silenced {last : TypeId} (h : s.Absorbs u)
    (hsilenced : s.isSilenced u = false) (hlast : s.resolveAlias? u = some last) :
    (s.get last).kind = .undefined ∧ s.effectiveConstraint u = none := by
  obtain ⟨hmark, -⟩ := isSilenced_eq_false_iff.mp hsilenced
  cases h with
  | erroneous h => exact absurd (hmark.symm.trans h) Bool.false_ne_true
  | broken h => exact absurd (h.symm.trans hlast) nofun
  | undefined hkind hfree =>
    rw [resolvedKind_eq hlast] at hkind
    exact ⟨hkind, hfree⟩

/-! These say the same of two stores that are the same but for stamps, where the type is erroneous
in both or in neither. -/

theorem Absorbs.congr (hsame : s.unstamped = s'.unstamped)
    (hmark : s.isErroneous u = s'.isErroneous u) (h : s.Absorbs u) : s'.Absorbs u := by
  cases h with
  | erroneous h => exact .erroneous (hmark ▸ h)
  | broken h => exact .broken (resolveAlias?_congr hsame u ▸ h)
  | undefined hkind hfree =>
    rw [resolvedKind_congr hsame] at hkind
    rw [effectiveConstraint_congr hsame] at hfree
    exact .undefined hkind hfree

theorem Memberless.congr (hsame : s.unstamped = s'.unstamped) (h : s.Memberless u) :
    s'.Memberless u := by
  intro last hlast
  obtain ⟨hfields, henumerators, helement, hdimension⟩ :=
    h last ((resolveAlias?_congr hsame u).trans hlast)
  have hget := get_congr hsame last
  exact ⟨(congrArg Declaration.fields hget).symm.trans hfields,
    (congrArg Declaration.enumerators hget).symm.trans henumerators,
    (congrArg Declaration.element hget).symm.trans helement,
    (congrArg Declaration.dimension hget).symm.trans hdimension⟩

theorem demandsMembers_congr (hsame : s.unstamped = s'.unstamped) :
    s.DemandsMembers t ↔ s'.DemandsMembers t := by
  have hstamp (d : Declaration) : d.demandsMembers = d.unstamped.demandsMembers := rfl
  have hget (last : TypeId) : (s.get last).demandsMembers = (s'.get last).demandsMembers := by
    rw [hstamp, get_congr hsame, ← hstamp]
  simp only [DemandsMembers, resolveAlias?_congr hsame, hget]

end Store

namespace Relate

variable {s : Store} {relate : Relate} {isStrict : Bool} {t u e a : TypeId}

/-! ### The structural stage -/

/-- Where nothing is required, two declarations are compatible. -/
theorem structural_level_of_nil (h : Requirement.all (s.get e) (s.get a) = [])
    (guard : PairGuard) : (structural s relate e a guard).1.level = .compatible := by
  rw [structural, h]
  split <;> rfl

/-- Where the first requirement is refuted, two declarations that can be entered are not
compatible. -/
theorem structural_level_of_refuted {cause : Mismatch} {guard entered : PairGuard}
    (h : Requirement.all (s.get e) (s.get a) = [.refuted cause])
    (hentered : guard.enter (e, a) = (.entered, entered)) :
    (structural s relate e a guard).1.level = .incompatibleType := by
  rw [structural, h, hentered]
  rfl

/-! ### All stages -/

/-- A silenced type on either side is compatible, and nothing is compared. -/
theorem stages_of_isSilenced (h : s.isSilenced t = true ∨ s.isSilenced u = true) (x y : Bool)
    (guard : PairGuard) : stages s isStrict relate t u x y guard = ({}, guard) := by
  rw [stages]
  split
  · rfl
  split
  · rename_i e a he ha
    have hmark : (s.isErroneous t || s.isErroneous u) = true := by
      simpa [Store.isSilenced, he, ha] using h
    rw [if_pos hmark]
  · rfl

/-- Where one side is of the undefined kind and one under no constraint, the structural stage
decides. -/
theorem stages_level (ht : s.isSilenced t = false) (hu : s.isSilenced u = false)
    (he : s.resolveAlias? t = some e) (ha : s.resolveAlias? u = some a)
    (hkind : (s.get e).kind = .undefined ∨ (s.get a).kind = .undefined)
    (hfree : s.effectiveConstraint t = none ∨ s.effectiveConstraint u = none) (x y : Bool)
    (guard : PairGuard) :
    (stages s isStrict relate t u x y guard).1.level =
      if isStrict && e != a then (structural s relate e a guard).1.level else .compatible := by
  have hmark : (s.isErroneous t || s.isErroneous u) = false := by
    rw [(Store.isSilenced_eq_false_iff.mp ht).1, (Store.isSilenced_eq_false_iff.mp hu).1]
    rfl
  have haccepts : (s.get e).kind.accepts (s.get a).kind (s.get e).dialect (s.get a).dialect =
      true := by
    rcases hkind with h | h <;> simp [Kind.accepts, h]
  have hconstraints : ∀ answer, constraints s t u x y answer = answer := by
    intro answer
    rw [constraints]
    rcases hfree with h | h
    · rw [h]
    · rw [h]
      cases s.effectiveConstraint t <;> rfl
  rw [stages]
  split
  · rename_i hone
    obtain ⟨rfl, -, -⟩ := hone
    obtain rfl : e = a := Option.some.inj (he.symm.trans ha)
    rw [bne_self_eq_false, Bool.and_false]
    rfl
  · simp only [he, ha, hmark, haccepts, hconstraints, Bool.not_true, Bool.false_eq_true, if_false]
    cases isStrict && e != a with
    | false => rfl
    | true =>
      simp only [if_true]
      split <;> rfl

/-- An absorbing type that is expected takes every type. -/
theorem stages_level_expected (hu : s.Absorbs u) (isStrict : Bool) (t : TypeId) (x y : Bool)
    (guard : PairGuard) : (stages s isStrict relate u t x y guard).1.level = .compatible := by
  by_cases hsilenced : s.isSilenced u = true ∨ s.isSilenced t = true
  · rw [stages_of_isSilenced hsilenced]
  obtain ⟨husilenced, htsilenced⟩ := not_or.mp hsilenced
  rw [Bool.not_eq_true] at husilenced htsilenced
  obtain ⟨-, e, he⟩ := Store.isSilenced_eq_false_iff.mp husilenced
  obtain ⟨-, a, ha⟩ := Store.isSilenced_eq_false_iff.mp htsilenced
  obtain ⟨hkind, hfree⟩ := hu.undefined_of_not_silenced husilenced he
  rw [stages_level husilenced htsilenced he ha (.inl hkind) (.inl hfree)]
  split
  · exact structural_level_of_nil (Requirement.all_of_undefined hkind) guard
  · rfl

/-- As the actual type, an absorbing type is compatible outside strict mode, and where members are
not demanded of it that it does not have. -/
theorem stages_level_actual (hu : s.Absorbs u)
    (hfits : isStrict = false ∨ s.isSilenced u = true ∨ s.isSilenced t = true ∨
      s.Memberless u ∧ ¬ s.DemandsMembers t) (x y : Bool) (guard : PairGuard) :
    (stages s isStrict relate t u x y guard).1.level = .compatible := by
  by_cases hsilenced : s.isSilenced t = true ∨ s.isSilenced u = true
  · rw [stages_of_isSilenced hsilenced]
  obtain ⟨htsilenced, husilenced⟩ := not_or.mp hsilenced
  rw [Bool.not_eq_true] at husilenced htsilenced
  obtain ⟨-, e, he⟩ := Store.isSilenced_eq_false_iff.mp htsilenced
  obtain ⟨-, a, ha⟩ := Store.isSilenced_eq_false_iff.mp husilenced
  obtain ⟨hkind, hfree⟩ := hu.undefined_of_not_silenced husilenced ha
  rw [stages_level htsilenced husilenced he ha (.inr hkind) (.inr hfree)]
  split
  · rename_i hcompared
    have hbare : s.Memberless u ∧ ¬ s.DemandsMembers t := by
      simpa [husilenced, htsilenced, (Bool.and_eq_true_iff.mp hcompared).1] using hfits
    have hnone : (s.get e).demandsMembers = false := by
      rw [← Bool.not_eq_true]
      exact fun hdemands => hbare.2 ⟨e, he, hdemands⟩
    exact structural_level_of_nil ((Requirement.all_of_memberless (hbare.1 a ha)).1 hnone) guard
  · rfl

/-- In strict mode, a type that demands members does not take an absorbing type without any, unless
one of them is silenced or the pair is not entered. -/
theorem stages_level_demanded (hu : s.Absorbs u) (husilenced : s.isSilenced u = false)
    (htsilenced : s.isSilenced t = false) (hbare : s.Memberless u) (hdemands : s.DemandsMembers t)
    {guard : PairGuard} (hentered : ∀ pair, ∃ entered, guard.enter pair = (.entered, entered))
    (x y : Bool) : (stages s true relate t u x y guard).1.level = .incompatibleType := by
  obtain ⟨e, he, hdemands⟩ := hdemands
  obtain ⟨-, a, ha⟩ := Store.isSilenced_eq_false_iff.mp husilenced
  obtain ⟨hkind, hfree⟩ := hu.undefined_of_not_silenced husilenced ha
  have hne : e ≠ a := by
    rintro rfl
    rw [Declaration.demandsMembers, hkind] at hdemands
    cases hdemands
  obtain ⟨cause, hrefuted⟩ := (Requirement.all_of_memberless (hbare a ha)).2 hdemands
  obtain ⟨entered, hentered⟩ := hentered (e, a)
  rw [stages_level htsilenced husilenced he ha (.inr hkind) (.inr hfree), Bool.true_and,
    if_pos (bne_iff_ne.mpr hne)]
  exact structural_level_of_refuted hrefuted hentered

/-- Which types take an absorbing type without members, where the pair can be entered. -/
theorem stages_level_actual_iff (hu : s.Absorbs u) (hbare : s.Memberless u) {guard : PairGuard}
    (hentered : ∀ pair, ∃ entered, guard.enter pair = (.entered, entered)) (x y : Bool) :
    (stages s isStrict relate t u x y guard).1.level = .compatible ↔
      isStrict = false ∨ s.isSilenced u = true ∨ s.isSilenced t = true ∨ ¬ s.DemandsMembers t := by
  constructor
  · intro hlevel
    refine Classical.byContradiction fun hnone => ?_
    simp only [not_or, Classical.not_not, Bool.not_eq_true, Bool.not_eq_false] at hnone
    obtain ⟨rfl, husilenced, htsilenced, hdemands⟩ := hnone
    rw [stages_level_demanded hu husilenced htsilenced hbare hdemands hentered] at hlevel
    cases hlevel
  · intro hfits
    refine stages_level_actual hu ?_ x y guard
    rwa [and_iff_right hbare]

/-! ### Members -/

/-- A requirement is passed: the comparison goes on with the requirements behind it, and nothing is
found but that values may be converted. -/
def Passes (s : Store) (relate : Relate) (r : Requirement) : Prop :=
  ∀ answer rest guard, ∃ converts guard', requirements s relate answer (r :: rest) guard =
    requirements s relate { answer with needsConversion := answer.needsConversion || converts }
      rest guard'

/-- Members whose types are related whatever the guard are passed, and so are those whose types are
not known. -/
theorem passes_of_level {label : String} {r r' : TypeRef}
    (h : ∀ e, s.resolveRef? r = some e → ∀ a, s.resolveRef? r' = some a →
      ∀ guard, (relate e a guard).1.level = .compatible) :
    Passes s relate (.related label r r') := by
  intro answer rest guard
  have hunknown : requirements s relate answer rest guard = requirements s relate
      { answer with needsConversion := answer.needsConversion || false } rest guard := by
    rw [Bool.or_false]
  rw [requirements]
  cases he : s.resolveRef? r with
  | none => exact ⟨false, guard, hunknown⟩
  | some e =>
    cases ha : s.resolveRef? r' with
    | none => exact ⟨false, guard, hunknown⟩
    | some a =>
      refine ⟨(relate e a guard).1.needsConversion, (relate e a guard).2, ?_⟩
      simp only [h e he a ha guard]

/-- A member is passed at every level if its types are related whatever the guard. -/
theorem passes_members {label : String} {r r' : TypeRef}
    (h : ∀ e, s.resolveRef? r = some e → ∀ a, s.resolveRef? r' = some a →
      ∀ relate guard, (stages s isStrict relate e a false false guard).1.level = .compatible)
    (levels : Nat) : Passes s (members s isStrict levels) (.related label r r') := by
  refine passes_of_level fun e he a ha guard => ?_
  cases levels with
  | zero => rfl
  | succ levels => exact h e he a ha _ guard

end Relate

/-! ### Queries -/

/-- A query walks from an empty path, which every pair can be put on. -/
theorem PathGuard.enter_structural (pair : TypeId × TypeId) :
    ∃ entered, (structural : PairGuard).enter pair = (.entered, entered) := by
  simp [enter, structural, depth, greatestSteps]

/-- An answer comes from the stages on a store that is the present one but for stamps, and has the
marks of the present one on the two types. -/
theorem Recorded.exists_stages {s : Session} {l : Ledger} (h : Recorded s l)
    (expected actual : TypeId) (x y : Bool) :
    ∃ store : Store, s.store.unstamped = store.unstamped ∧
      s.store.isErroneous expected = store.isErroneous expected ∧
      s.store.isErroneous actual = store.isErroneous actual ∧ ∃ relate,
        s.answer expected actual x y = (Relate.stages store s.options.strictStructural relate
          expected actual x y .structural).1 := by
  obtain ⟨hsame, hexpected, hactual⟩ := h.firstAsked_marks expected actual x y
  exact ⟨_, hsame.symm, hexpected.symm, hactual.symm, _, h.relation_fst expected actual x y⟩

/-- **What absorbing types are compatible with.**  Let a session whose resolver remembered nothing
at first have come to hold an absorbing type.  Where the type is expected, every type is compatible
with it.  As the actual type it is compatible with every type outside strict mode, and in both modes
if it is erroneous or its alias chain is broken.  An undefined type without members is compatible in
strict mode too, except with a type that demands members and is not silenced itself.  And a member
of an absorbing type is passed in a comparison under the same conditions. -/
theorem Check.relation_of_absorbs {start s : Session} {l : Ledger} (hstart : start.resolver = {})
    (hrun : start.Runs s l) {u : TypeId} (hu : s.store.Absorbs u) :
    (∀ t x y, (s.answer u t x y).level = .compatible) ∧
      (s.options.strictStructural = false ∨ s.store.isSilenced u = true →
        ∀ t x y, (s.answer t u x y).level = .compatible) ∧
      (s.store.Memberless u → ∀ t x y, ((s.answer t u x y).level = .compatible ↔
        s.options.strictStructural = false ∨ s.store.isSilenced u = true ∨
          s.store.isSilenced t = true ∨ ¬ s.store.DemandsMembers t)) ∧
      ∀ isStrict levels label r r',
        (s.store.resolveRef? r = some u →
          Relate.Passes s.store (Relate.members s.store isStrict levels) (.related label r r')) ∧
        (s.store.resolveRef? r' = some u →
          isStrict = false ∨ s.store.isSilenced u = true ∨
            s.store.Memberless u ∧
              (∀ t, s.store.resolveRef? r = some t → ¬ s.store.DemandsMembers t) →
          Relate.Passes s.store (Relate.members s.store isStrict levels)
            (.related label r r')) := by
  have hrecord := Recorded.of_runs hstart hrun
  refine ⟨?_, ?_, ?_, fun isStrict levels label r r' => ⟨?_, ?_⟩⟩
  · intro t x y
    obtain ⟨store, hsame, hmark, -, relate, hanswer⟩ := hrecord.exists_stages u t x y
    rw [hanswer]
    exact Relate.stages_level_expected (hu.congr hsame hmark) _ t x y _
  · intro hfits t x y
    obtain ⟨store, hsame, -, hmark, relate, hanswer⟩ := hrecord.exists_stages t u x y
    rw [hanswer]
    rw [Store.isSilenced_congr hsame hmark] at hfits
    exact Relate.stages_level_actual (hu.congr hsame hmark) (hfits.imp_right .inl) x y _
  · intro hbare t x y
    obtain ⟨store, hsame, hmark', hmark, relate, hanswer⟩ := hrecord.exists_stages t u x y
    rw [hanswer, Store.isSilenced_congr hsame hmark, Store.isSilenced_congr hsame hmark',
      Store.demandsMembers_congr hsame]
    exact Relate.stages_level_actual_iff (hu.congr hsame hmark) (hbare.congr hsame)
      PathGuard.enter_structural x y
  · intro hr
    refine Relate.passes_members (fun e he a ha relate guard => ?_) levels
    obtain rfl := Option.some.inj (hr.symm.trans he)
    exact Relate.stages_level_expected hu isStrict a false false guard
  · intro hr' hfits
    refine Relate.passes_members (fun e he a ha relate guard => ?_) levels
    obtain rfl := Option.some.inj (hr'.symm.trans ha)
    refine Relate.stages_level_actual hu ?_ false false guard
    exact hfits.imp_right (Or.imp_right fun hbare => .inr ⟨hbare.1, hbare.2 e he⟩)

/-- A session in strict mode over an undefined type, a record with a field, and a list. -/
def Session.withUndefined : Session where
  store := ⟨#[
    { name := "Unknown", kind := .undefined },
    { name := "integer", kind := .integer },
    { name := "Record", kind := .record, fields := [⟨"x", .name "integer", false⟩] },
    { name := "List", kind := .recordOf, element := some (.name "integer") }]⟩
  options := { strictStructural := true }
  pass := 1

theorem Session.withUndefined_absorbs : Session.withUndefined.store.Absorbs 0 :=
  .undefined (by decide) (by decide)

theorem Session.withUndefined_memberless : Session.withUndefined.store.Memberless 0 := by
  intro last hlast
  have hend : Session.withUndefined.store.resolveAlias? 0 = some 0 := by decide
  obtain rfl := Option.some.inj (hend.symm.trans hlast)
  exact ⟨rfl, rfl, rfl, rfl⟩

/-- The undefined type takes the record, and is taken by the list. -/
theorem Check.relation_of_absorbs_list :
    Session.withUndefined.store.Absorbs 0 ∧
      (Session.withUndefined.answer 0 2 false false).level = .compatible ∧
      (Session.withUndefined.answer 3 0 false false).level = .compatible := by
  have habsorbs := Session.withUndefined_absorbs
  obtain ⟨hexpected, -, hactual, -⟩ := Check.relation_of_absorbs rfl .start habsorbs
  have hlist : ¬ Session.withUndefined.store.DemandsMembers 3 := by
    rintro ⟨last, hlast, hdemands⟩
    have hend : Session.withUndefined.store.resolveAlias? 3 = some 3 := by decide
    obtain rfl := Option.some.inj (hend.symm.trans hlast)
    revert hdemands
    decide
  exact ⟨habsorbs, hexpected 2 false false,
    (hactual Session.withUndefined_memberless 3 false false).mpr (.inr (.inr (.inr hlist)))⟩

/-- The record does not take the undefined type. -/
theorem Session.answer_undefined_record :
    (Session.withUndefined.store.resolvedKind 0).1 = .undefined ∧
      Session.withUndefined.store.effectiveConstraint 0 = none ∧
      (Session.withUndefined.answer 2 0 false false).level = .incompatibleType := by
  decide

end TestSpec
