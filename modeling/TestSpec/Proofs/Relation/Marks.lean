import TestSpec.Proofs.Relation.Limits
import TestSpec.Proofs.Store.Stamp

/-!
# What an answer depends on

An answer to a query depends on the declarations that the two types reach, and of
their check stamps on the erroneous marks alone (`Resolver.compute_congr`).  Outside
strict mode members are not looked at, and only the marks on the two alias chains
count (`Resolver.compute_congr_of_nominal`).
-/

namespace TestSpec

namespace Requirement

/-- Requirements relate the types of members of the two declarations. -/
theorem memberTypes_of_mem {e a : Declaration} {label : String} {r r' : TypeRef}
    (h : .related label r r' ∈ all e a) : r ∈ e.memberTypes ∧ r' ∈ a.memberTypes := by
  have hfields {f g : Field} (hf : f ∈ e.fields) (hg : g ∈ a.fields) :
      f.type ∈ e.memberTypes ∧ g.type ∈ a.memberTypes :=
    ⟨List.mem_append_left _ (List.mem_map_of_mem hf),
      List.mem_append_left _ (List.mem_map_of_mem hg)⟩
  unfold all at h
  split at h
  · unfold ofRecords at h
    split at h
    · rw [← List.map_uncurry_zip_eq_zipWith] at h
      obtain ⟨⟨f, g⟩, hmem, heq⟩ := List.mem_map.mp h
      have hpair := List.of_mem_zip hmem
      simp only [Function.uncurry_apply_pair, ofRecordFields] at heq
      split at heq
      · cases heq
        exact hfields hpair.1 hpair.2
      · cases heq
    · simp at h
  split at h
  · unfold ofSets at h
    split at h
    · obtain ⟨g, hg, heq⟩ := List.mem_map.mp h
      unfold ofSetField at heq
      split at heq
      · cases heq
      · rename_i f hf
        split at heq
        · cases heq
          exact hfields (List.mem_of_find?_eq_some hf) hg
        · cases heq
    · simp at h
  split at h
  · obtain ⟨g, hg, heq⟩ := List.mem_map.mp h
    unfold ofAlternative at heq
    split at heq
    · cases heq
    · rename_i f hf
      cases heq
      exact hfields (List.mem_of_find?_eq_some hf) hg
  split at h
  · obtain ⟨_, -, heq⟩ := List.mem_map.mp h
    cases heq
  split at h
  · unfold ofLists at h
    split at h
    · simp at h
    split at h
    · rename_i t u ht hu
      simp only [List.mem_singleton, related.injEq] at h
      obtain ⟨-, rfl, rfl⟩ := h
      exact ⟨Store.mem_memberTypes_of_element ht, Store.mem_memberTypes_of_element hu⟩
    · cases h
  · cases h

end Requirement

namespace Store

/-- The erroneous marks of all declarations that a type reaches are the same in two stores. -/
def MarksAgree (s s' : Store) (type : TypeId) : Prop :=
  ∀ u, s.Reaches type u → (s.get u).isErroneous = (s'.get u).isErroneous

theorem MarksAgree.of_reaches {s s' : Store} {t u : TypeId} (h : s.MarksAgree s' t)
    (hu : s.Reaches t u) : s.MarksAgree s' u :=
  fun v hv => h v (hu.trans hv)

end Store

namespace Relate

variable {s s' : Store} {relate relate' : Relate}

/-- Two ways to relate types agree where the marks do. -/
def AgreeOnMarks (s s' : Store) (relate relate' : Relate) : Prop :=
  ∀ e a guard, s.MarksAgree s' e → s.MarksAgree s' a → relate e a guard = relate' e a guard

theorem requirements_congr (hsame : s.unstamped = s'.unstamped)
    (hrelate : AgreeOnMarks s s' relate relate') {rs : List Requirement}
    (hrs : ∀ label r r', .related label r r' ∈ rs →
      (∀ e ∈ s.resolveRef? r, s.MarksAgree s' e) ∧ ∀ a ∈ s.resolveRef? r', s.MarksAgree s' a)
    (answer : Relation) (guard : PairGuard) :
    requirements s relate answer rs guard = requirements s' relate' answer rs guard := by
  induction rs generalizing answer guard with
  | nil => rfl
  | cons r rest ih =>
    have hrest := ih fun label r r' hr => hrs label r r' (List.mem_cons_of_mem _ hr)
    cases r with
    | refuted cause => rfl
    | related label expected actual =>
      obtain ⟨hexpected, hactual⟩ := hrs label expected actual List.mem_cons_self
      simp only [requirements, ← Store.resolveRef?_congr hsame, ← Store.name_congr hsame]
      cases he : s.resolveRef? expected with
      | none => exact hrest _ _
      | some e =>
        cases ha : s.resolveRef? actual with
        | none => exact hrest _ _
        | some a =>
          simp only [hrelate e a guard (hexpected e he) (hactual a ha), hrest]

theorem structural_congr (hsame : s.unstamped = s'.unstamped)
    (hrelate : AgreeOnMarks s s' relate relate') {e a : TypeId} (he : s.MarksAgree s' e)
    (ha : s.MarksAgree s' a) (guard : PairGuard) :
    structural s relate e a guard = structural s' relate' e a guard := by
  -- requirements do not look at the stamp of a declaration
  have hstamp (d d' : Declaration) :
      Requirement.all d d' = Requirement.all d.unstamped d'.unstamped := rfl
  have hall : Requirement.all (s'.get e) (s'.get a) = Requirement.all (s.get e) (s.get a) := by
    rw [hstamp, ← Store.get_congr hsame, ← Store.get_congr hsame, ← hstamp]
  have hmembers : ∀ label r r', .related label r r' ∈ Requirement.all (s.get e) (s.get a) →
      (∀ t ∈ s.resolveRef? r, s.MarksAgree s' t) ∧ ∀ u ∈ s.resolveRef? r', s.MarksAgree s' u := by
    intro label r r' hr
    obtain ⟨hmem, hmem'⟩ := Requirement.memberTypes_of_mem hr
    exact ⟨fun t ht => he.of_reaches (.member .refl hmem ht),
      fun u hu => ha.of_reaches (.member .refl hmem' hu)⟩
  have hrequirements := requirements_congr hsame hrelate hmembers
  simp only [structural, hall, ← Store.kind_congr hsame, hrequirements]

/-- All stages agree in two stores that are the same but for stamps, where the two types are
erroneous alike and the structural stage, if there is one, agrees. -/
theorem stages_congr (hsame : s.unstamped = s'.unstamped) {isStrict : Bool}
    {expected actual : TypeId} (hexpected : s.isErroneous expected = s'.isErroneous expected)
    (hactual : s.isErroneous actual = s'.isErroneous actual) {guard : PairGuard}
    (hstructural : isStrict = true → ∀ e a, s.resolveAlias? expected = some e →
      s.resolveAlias? actual = some a →
      structural s relate e a guard = structural s' relate' e a guard) (x y : Bool) :
    stages s isStrict relate expected actual x y guard =
      stages s' isStrict relate' expected actual x y guard := by
  simp only [stages, constraints, ← Store.resolveAlias?_congr hsame, ← Store.kind_congr hsame,
    ← Store.dialect_congr hsame, ← Store.effectiveConstraint_congr hsame, ← hexpected, ← hactual]
  cases he : s.resolveAlias? expected with
  | none => rfl
  | some e =>
    cases ha : s.resolveAlias? actual with
    | none => rfl
    | some a =>
      cases isStrict with
      | false => rfl
      | true => simp only [hstructural rfl e a he ha]

theorem members_congr (hsame : s.unstamped = s'.unstamped) (isStrict : Bool) (levels : Nat) :
    AgreeOnMarks s s' (members s isStrict levels) (members s' isStrict levels) := by
  induction levels with
  | zero => exact fun _ _ _ _ _ => rfl
  | succ levels ih =>
    intro e a guard he ha
    refine stages_congr hsame (Store.isErroneous_congr hsame he)
      (Store.isErroneous_congr hsame ha) (fun _ e' a' he' ha' => ?_) false false
    exact structural_congr hsame ih (he.of_reaches (Store.reaches_of_resolveAlias? he'))
      (ha.of_reaches (Store.reaches_of_resolveAlias? ha')) guard

end Relate

namespace Resolver

variable {s s' : Store}

/-- A query has one answer in two stores that are the same but for stamps, if the two types reach
declarations with the same marks. -/
theorem compute_congr (r : Resolver) (hsame : s.unstamped = s'.unstamped) {q : Query}
    (hexpected : s.MarksAgree s' q.expected) (hactual : s.MarksAgree s' q.actual) :
    r.compute s q = r.compute s' q := by
  refine Relate.stages_congr hsame (Store.isErroneous_congr hsame hexpected)
    (Store.isErroneous_congr hsame hactual) (fun _ e a he ha => ?_) _ _
  exact Relate.structural_congr hsame (Relate.members_congr hsame _ _)
    (hexpected.of_reaches (Store.reaches_of_resolveAlias? he))
    (hactual.of_reaches (Store.reaches_of_resolveAlias? ha)) _

/-- Outside strict mode it is enough that the two types are erroneous alike. -/
theorem compute_congr_of_nominal (r : Resolver) (hsame : s.unstamped = s'.unstamped) {q : Query}
    (hnominal : q.isStrict = false)
    (hexpected : s.isErroneous q.expected = s'.isErroneous q.expected)
    (hactual : s.isErroneous q.actual = s'.isErroneous q.actual) :
    r.compute s q = r.compute s' q :=
  Relate.stages_congr hsame hexpected hactual
    (fun hstrict => absurd (hnominal.symm.trans hstrict) (by decide)) _ _

end Resolver

end TestSpec
