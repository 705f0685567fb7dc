import TestSpec.Proofs.Relation.Absorption
import TestSpec.Proofs.Relation.Stages

/-!
# Strict and nominal answers

Outside strict mode a query is **nominal**: members are not looked at.  The structural
stage of strict mode can only turn a nominal answer down, since the stages before it and
after it are the same in both modes.  What it adds to an answer that it does not turn down
is the mark that values are converted, and only where the two declarations differ and have
members to convert (`Store.Converts`).

An answer may be remembered from a time when other erroneous marks were on the
declarations behind the members.  Neither nominal answers nor the mark of a conversion look
there, so that all of this holds of answers that are computed and of those that are
remembered.  Main statement: `Resolver.query_modes`.
-/

namespace TestSpec

/-- A kind without members that are types is compared by other things. -/
theorem Kind.memberless_of_unstructured {k : Kind} (h : (k.isStructured || k.isList) = false) :
    k.isRecordLike = false ∧ k.isSetLike = false ∧ k.isUnionLike = false ∧ k.isList = false := by
  revert h
  cases k <;> decide

namespace Requirement

/-- Only declarations of structured kinds and of lists have members to relate. -/
theorem structured_of_mem {e a : Declaration} {label : String} {r r' : TypeRef}
    (h : .related label r r' ∈ all e a) : (e.kind.isStructured || e.kind.isList) = true := by
  rw [← Bool.not_eq_false]
  intro hplain
  obtain ⟨hrecord, hset, hunion, hlist⟩ := Kind.memberless_of_unstructured hplain
  simp [all, hrecord, hset, hunion, hlist, ofEnumerated] at h

end Requirement

namespace Store

variable {s s' : Store} {isStrict : Bool} {t u e a : TypeId} {x y : Bool} {answer : Relation}

/-- Values of one type are converted to the other: the mode is strict, neither type is erroneous,
and their alias chains end in two declarations, the expected one structured or a list. -/
structure Converts (s : Store) (isStrict : Bool) (expected actual : TypeId) : Prop where
  strict : isStrict = true
  expected_unmarked : s.isErroneous expected = false
  actual_unmarked : s.isErroneous actual = false
  ends : ∃ e a, s.resolveAlias? expected = some e ∧ s.resolveAlias? actual = some a ∧ e ≠ a ∧
    ((s.get e).kind.isStructured = true ∨ (s.get e).kind.isList = true)

/-- The same declarations convert where the same marks are on the two types. -/
theorem converts_congr (hsame : s.unstamped = s'.unstamped)
    (ht : s.isErroneous t = s'.isErroneous t) (hu : s.isErroneous u = s'.isErroneous u) :
    s.Converts isStrict t u ↔ s'.Converts isStrict t u := by
  constructor
  · rintro ⟨hstrict, htmark, humark, hends⟩
    simp only [resolveAlias?_congr hsame, kind_congr hsame] at hends
    exact ⟨hstrict, ht ▸ htmark, hu ▸ humark, hends⟩
  · rintro ⟨hstrict, htmark, humark, hends⟩
    simp only [← resolveAlias?_congr hsame, ← kind_congr hsame] at hends
    exact ⟨hstrict, ht ▸ htmark, hu ▸ humark, hends⟩

/-- Declarations that are compared are those whose values are converted, if they have members. -/
theorem ComparesMembers.converts_iff (h : s.ComparesMembers isStrict t u e a) :
    s.Converts isStrict t u ↔ ((s.get e).kind.isStructured || (s.get e).kind.isList) = true := by
  rw [Bool.or_eq_true]
  obtain ⟨he, ha, ht, hu⟩ := h.meets
  constructor
  · rintro ⟨-, -, -, e', a', he', -, -, hkind⟩
    obtain rfl := Option.some.inj (he.symm.trans he')
    exact hkind
  · exact fun hkind => ⟨h.strict, ht, hu, e, a, he, ha, h.ne, hkind⟩

namespace Settled

/-- Types that are settled as compatible have a bare answer. -/
theorem eq_of_compatible (h : s.Settled isStrict t u x y answer)
    (hlevel : answer.level = .compatible) : answer = {} := by
  cases h with
  | same | silenced => rfl
  | unaccepted => cases hlevel
  | uncompared hmeets hdiffer hkind hone =>
    rcases Relate.constraints_cases s t u x y with hfree | hclash
    · exact hfree {}
    · rw [hclash] at hlevel
      cases hlevel

/-- Types that are settled as compatible are not converted. -/
theorem not_converts (h : s.Settled isStrict t u x y answer)
    (hlevel : answer.level = .compatible) : ¬ s.Converts isStrict t u := by
  rintro ⟨hstrict, ht, hu, e, a, he, ha, hne, -⟩
  have hends : s.Meets t u e a := ⟨he, ha, ht, hu⟩
  cases h with
  | same htypes =>
    subst htypes
    exact hne hends.end_eq
  | silenced h => exact hends.not_silenced h
  | unaccepted => cases hlevel
  | uncompared hmeets hdiffer hkind hone =>
    obtain ⟨rfl, rfl⟩ := hends.unique hmeets
    rcases hone with hnominal | hsame
    · exact Bool.false_ne_true (hnominal.symm.trans hstrict)
    · exact hne hsame

/-- What is settled in either mode is settled so outside strict mode. -/
theorem nominal (h : s.Settled isStrict t u x y answer) : s.Settled false t u x y answer := by
  cases h with
  | same htypes hx hy => exact .same htypes hx hy
  | silenced h => exact .silenced h
  | unaccepted hmeets hdiffer hkind => exact .unaccepted hmeets hdiffer hkind
  | uncompared hmeets hdiffer hkind _ => exact .uncompared hmeets hdiffer hkind (.inl rfl)

end Settled

/-- Types whose declarations are compared in strict mode are settled outside it by their
constraints. -/
theorem ComparesMembers.nominal (h : s.ComparesMembers isStrict t u e a) :
    s.Settled false t u x y (Relate.constraints s t u x y {}) :=
  .uncompared h.meets (fun hsame => h.ne_types hsame.1) h.accepts (.inl rfl)

end Store

namespace Relate

variable {s : Store} {relate relate' : Relate} {isStrict : Bool} {t u e a : TypeId} {x y : Bool}
  {guard guard' : PairGuard}

/-! ### The mark of a conversion -/

/-- Without members to relate, no conversion is found. -/
theorem requirements_needsConversion {rs : List Requirement}
    (h : ∀ label r r', .related label r r' ∉ rs) (answer : Relation) (guard : PairGuard) :
    (requirements s relate answer rs guard).1.needsConversion = answer.needsConversion := by
  cases rs with
  | nil => rfl
  | cons r rest =>
    cases r with
    | refuted cause => rfl
    | related label r r' => exact absurd List.mem_cons_self (h label r r')

/-- Compatible declarations that could be entered are converted exactly if they have members. -/
theorem structural_needsConversion {entered : PairGuard}
    (hentered : guard.enter (e, a) = (.entered, entered))
    (hlevel : (structural s relate e a guard).1.isCompatible = true) :
    (structural s relate e a guard).1.needsConversion =
      ((s.get e).kind.isStructured || (s.get e).kind.isList) := by
  simp only [structural, hentered] at hlevel ⊢
  generalize hkind : ((s.get e).kind.isStructured || (s.get e).kind.isList) = hasMembers
  have hcompatible : (requirements s relate {} (Requirement.all (s.get e) (s.get a))
      entered).1.isCompatible = true := hlevel
  rw [hcompatible, Bool.true_and]
  cases hasMembers with
  | true => exact Bool.or_true _
  | false =>
    rw [Bool.or_false]
    refine requirements_needsConversion (fun label r r' hr => ?_) {} entered
    exact Bool.false_ne_true (hkind.symm.trans (Requirement.structured_of_mem hr))

/-- An answer that is completed as compatible was compatible, and is not changed. -/
theorem completed_eq_of_compatible {answer : Relation}
    (h : (completed s t u x y answer).level = .compatible) :
    answer.isCompatible = true ∧ completed s t u x y answer = answer ∧
      constraints s t u x y {} = {} := by
  unfold completed at h ⊢
  cases hanswer : answer.isCompatible with
  | false =>
    rw [hanswer, if_neg Bool.false_ne_true] at h
    exact absurd (beq_iff_eq.mpr h) (Bool.not_eq_true _ ▸ hanswer)
  | true =>
    rw [hanswer, if_pos rfl] at h
    rcases constraints_cases s t u x y with hfree | hclash
    · exact ⟨rfl, hfree answer, hfree {}⟩
    · rw [hclash] at h
      cases h

/-- Where pairs can be entered, a compatible answer says that values are converted exactly if they
are. -/
theorem stages_needsConversion_iff
    (hentered : ∀ pair, ∃ entered, guard.enter pair = (.entered, entered))
    (hlevel : (stages s isStrict relate t u x y guard).1.level = .compatible) :
    (stages s isStrict relate t u x y guard).1.needsConversion = true ↔
      s.Converts isStrict t u := by
  rcases s.settled_or_compares isStrict t u x y with ⟨answer, hsettled⟩ | ⟨e, a, hcompares⟩
  · rw [stages_of_settled hsettled] at hlevel ⊢
    rw [hsettled.eq_of_compatible hlevel]
    exact iff_of_false Bool.false_ne_true (hsettled.not_converts hlevel)
  · rw [stages_of_compares hcompares] at hlevel ⊢
    obtain ⟨hcompatible, heq, -⟩ := completed_eq_of_compatible hlevel
    obtain ⟨entered, hentered⟩ := hentered (e, a)
    rw [heq, structural_needsConversion hentered hcompatible, hcompares.converts_iff]

/-! ### The two modes -/

/-- Types that are compatible in strict mode are so outside it, and nothing else is to be said of
them there; types whose kinds do not go together outside strict mode do not do so in it. -/
theorem stages_modes (s : Store) (relate relate' : Relate) (t u : TypeId) (x y : Bool)
    (guard guard' : PairGuard) :
    ((stages s true relate t u x y guard).1.level = .compatible →
        (stages s false relate' t u x y guard').1 = {}) ∧
      ((stages s false relate' t u x y guard').1.level = .incompatibleType →
        (stages s true relate t u x y guard).1.level = .incompatibleType) := by
  rcases s.settled_or_compares true t u x y with ⟨answer, hsettled⟩ | ⟨e, a, hcompares⟩
  · rw [stages_of_settled hsettled, stages_of_settled hsettled.nominal]
    exact ⟨hsettled.eq_of_compatible, id⟩
  · rw [stages_of_compares hcompares, stages_of_settled hcompares.nominal]
    constructor
    · exact fun hlevel => (completed_eq_of_compatible hlevel).2.2
    · -- constraints never find that types have nothing in common
      intro hlevel
      rcases constraints_cases s t u x y with hfree | hclash
      · rw [hfree] at hlevel
        cases hlevel
      · rw [hclash] at hlevel
        cases hlevel

end Relate

/-! ### Queries -/

/-- **Strict mode refines nominal mode.**  Let two resolvers be in use over one store.  Types that
one finds compatible in strict mode the other finds compatible outside it, without a conversion, and
types whose kinds do not go together outside strict mode do not do so in it.  In either mode, a
compatible answer says that values are converted exactly if the mode is strict, neither type is
erroneous, and their alias chains end in two declarations of which the expected one is structured or
a list. -/
theorem Resolver.query_modes {s : Store} {r : Resolver} (h : InUse s r) (pass : Pass)
    (expected actual : TypeId) (x y : Bool) :
    (∀ isStrict, (r.query s pass isStrict expected actual x y).1.level = .compatible →
        ((r.query s pass isStrict expected actual x y).1.needsConversion = true ↔
          s.Converts isStrict expected actual)) ∧
      ∀ (r' : Resolver) (pass' : Pass), InUse s r' →
        ((r.query s pass true expected actual x y).1.level = .compatible →
            (r'.query s pass' false expected actual x y).1 = {}) ∧
          ((r'.query s pass' false expected actual x y).1.level = .incompatibleType →
            (r.query s pass true expected actual x y).1.level = .incompatibleType) := by
  constructor
  · intro isStrict hlevel
    obtain ⟨store, hsame, hexpected, hactual, relate, hanswer⟩ :=
      h.exists_stages pass isStrict expected actual x y
    rw [hanswer] at hlevel ⊢
    rw [Relate.stages_needsConversion_iff PathGuard.enter_structural hlevel,
      Store.converts_congr hsame hexpected hactual]
  · intro r' pass' h'
    obtain ⟨store, hsame, hexpected, hactual, relate, hanswer⟩ :=
      h.exists_stages pass true expected actual x y
    obtain ⟨store', hsame', hexpected', hactual', relate', hanswer'⟩ :=
      h'.exists_stages pass' false expected actual x y
    -- the store that the nominal answer comes from gives the same as the other one
    have hmoved : Relate.stages store' false relate' expected actual x y .structural =
        Relate.stages store false relate' expected actual x y .structural :=
      Relate.stages_congr (hsame'.symm.trans hsame) (hexpected'.symm.trans hexpected)
        (hactual'.symm.trans hactual) (fun hstrict => absurd hstrict Bool.false_ne_true) x y
    rw [hanswer, hanswer', hmoved]
    exact Relate.stages_modes store relate relate' expected actual x y .structural .structural

/-- Two records that each lead back to themselves. -/
def Store.twoChains : Store where
  declarations := #[
    { name := "Chain", kind := .record,
      fields := [⟨"value", .name "integer", false⟩, ⟨"next", .name "Chain", true⟩] },
    { name := "Links", kind := .record,
      fields := [⟨"value", .name "integer", false⟩, ⟨"next", .name "Links", true⟩] },
    { name := "integer", kind := .integer }]

/-- The resolver that was asked about the two records in strict mode, and remembers the answer. -/
def Resolver.chainsCompared : Resolver :=
  (({} : Resolver).query .twoChains 1 true 0 1 false false).2

/-- The records are compatible in strict mode, with a conversion, also from memory; outside it they
are so without one.  A record and an integer go together in neither mode. -/
theorem Resolver.query_modes_chains :
    InUse .twoChains .chainsCompared ∧
      (chainsCompared.query .twoChains 1 true 0 1 false false).1.level = .compatible ∧
      (chainsCompared.query .twoChains 1 true 0 1 false false).1.needsConversion = true ∧
      (chainsCompared.query .twoChains 2 false 0 1 false false).1 = {} ∧
      (chainsCompared.query .twoChains 2 false 0 2 false false).1.level = .incompatibleType ∧
      (chainsCompared.query .twoChains 1 true 0 2 false false).1.level = .incompatibleType := by
  have huse : InUse .twoChains .chainsCompared := .query .fresh rfl 1 true 0 1 false false
  obtain ⟨hconverts, hrecords⟩ := query_modes huse 1 0 1 false false
  obtain ⟨-, hinteger⟩ := query_modes huse 1 0 2 false false
  have hlevel : (chainsCompared.query .twoChains 1 true 0 1 false false).1.level =
      .compatible := by decide
  have hends : Store.twoChains.Converts true 0 1 :=
    ⟨rfl, by decide, by decide, 0, 1, by decide, by decide, by decide, .inl (by decide)⟩
  have hkinds : (chainsCompared.query .twoChains 2 false 0 2 false false).1.level =
      .incompatibleType := by decide
  exact ⟨huse, hlevel, (hconverts true hlevel).mpr hends, (hrecords _ 2 huse).1 hlevel, hkinds,
    (hinteger _ 2 huse).2 hkinds⟩

end TestSpec
