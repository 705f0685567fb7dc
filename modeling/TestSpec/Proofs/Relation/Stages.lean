import TestSpec.Proofs.Relation.Memo

/-!
# What a query comes to

Two types are either **settled** without a look at their members, with an answer that the
declarations, the constraints and the erroneous marks of the two decide
(`Store.Settled`), or their declarations are **compared** (`Store.ComparesMembers`), and
what the structural stage answers is completed by the constraints in force.
`Store.settled_or_compares` says that one of the two is the case, `Relate.stages_of_settled`
and `Relate.stages_of_compares` what the stages then come to.  What is said about all
stages is proved by these two cases.

A resolver may also remember the answer, from a time when other marks were on the
declarations.  `Resolver.InUse` says how a resolver is used over one store, whoever sets
the marks, and `Resolver.InUse.exists_stages` that every answer comes from the stages on a store
that has the same declarations, and the same marks on the two types.
-/

namespace TestSpec

namespace Store

/-- Two types that are not erroneous, and the declarations at the ends of their alias chains. -/
structure Meets (s : Store) (expected actual e a : TypeId) : Prop where
  expected_end : s.resolveAlias? expected = some e
  actual_end : s.resolveAlias? actual = some a
  expected_unmarked : s.isErroneous expected = false
  actual_unmarked : s.isErroneous actual = false

/-- The kind of one declaration accepts that of another. -/
def acceptsEnd (s : Store) (e a : TypeId) : Bool :=
  (s.get e).kind.accepts (s.get a).kind (s.get e).dialect (s.get a).dialect

/-- The answer about two types that are not compared member by member. -/
inductive Settled (s : Store) (isStrict : Bool) (expected actual : TypeId)
    (expectedIsElement actualIsElement : Bool) : Relation → Prop
  | same (htypes : expected = actual) (hexpected : expectedIsElement = false)
      (hactual : actualIsElement = false) :
      Settled s isStrict expected actual expectedIsElement actualIsElement {}
  | silenced (h : s.isSilenced expected = true ∨ s.isSilenced actual = true) :
      Settled s isStrict expected actual expectedIsElement actualIsElement {}
  | unaccepted {e a : TypeId} (hmeets : s.Meets expected actual e a)
      (hdiffer : ¬ (expected = actual ∧ expectedIsElement = false ∧ actualIsElement = false))
      (hkind : s.acceptsEnd e a = false) :
      Settled s isStrict expected actual expectedIsElement actualIsElement
        { level := .incompatibleType }
  | uncompared {e a : TypeId} (hmeets : s.Meets expected actual e a)
      (hdiffer : ¬ (expected = actual ∧ expectedIsElement = false ∧ actualIsElement = false))
      (hkind : s.acceptsEnd e a = true) (hone : isStrict = false ∨ e = a) :
      Settled s isStrict expected actual expectedIsElement actualIsElement
        (Relate.constraints s expected actual expectedIsElement actualIsElement {})

/-- In strict mode, the declarations of two types differ and are compared member by member. -/
structure ComparesMembers (s : Store) (isStrict : Bool) (expected actual e a : TypeId) : Prop where
  meets : s.Meets expected actual e a
  accepts : s.acceptsEnd e a = true
  strict : isStrict = true
  ne : e ≠ a

variable {s : Store} {isStrict : Bool} {t u e a : TypeId} {x y : Bool}

namespace Meets

/-- The ends of two alias chains are determined. -/
theorem unique {e' a' : TypeId} (h : s.Meets t u e a) (h' : s.Meets t u e' a') :
    e = e' ∧ a = a' :=
  ⟨Option.some.inj (h.expected_end.symm.trans h'.expected_end),
    Option.some.inj (h.actual_end.symm.trans h'.actual_end)⟩

theorem end_eq (h : s.Meets t t e a) : e = a :=
  Option.some.inj (h.expected_end.symm.trans h.actual_end)

theorem not_silenced (h : s.Meets t u e a) :
    ¬ (s.isSilenced t = true ∨ s.isSilenced u = true) := by
  obtain ⟨he, ha, ht, hu⟩ := h
  simp [isSilenced, he, ha, ht, hu]

end Meets

/-- Two types are settled, or their declarations are compared. -/
theorem settled_or_compares (s : Store) (isStrict : Bool) (t u : TypeId) (x y : Bool) :
    (∃ answer, s.Settled isStrict t u x y answer) ∨ ∃ e a, s.ComparesMembers isStrict t u e a := by
  by_cases hsame : t = u ∧ x = false ∧ y = false
  · exact .inl ⟨_, .same hsame.1 hsame.2.1 hsame.2.2⟩
  cases ht : s.isSilenced t with
  | true => exact .inl ⟨_, .silenced (.inl ht)⟩
  | false =>
  cases hu : s.isSilenced u with
  | true => exact .inl ⟨_, .silenced (.inr hu)⟩
  | false =>
  obtain ⟨htmark, e, he⟩ := isSilenced_eq_false_iff.mp ht
  obtain ⟨humark, a, ha⟩ := isSilenced_eq_false_iff.mp hu
  have hmeets : s.Meets t u e a := ⟨he, ha, htmark, humark⟩
  cases hkind : s.acceptsEnd e a with
  | false => exact .inl ⟨_, .unaccepted hmeets hsame hkind⟩
  | true =>
  by_cases hone : isStrict = false ∨ e = a
  · exact .inl ⟨_, .uncompared hmeets hsame hkind hone⟩
  · rw [not_or, Bool.not_eq_false] at hone
    exact .inr ⟨e, a, hmeets, hkind, hone.1, hone.2⟩

theorem ComparesMembers.ne_types (h : s.ComparesMembers isStrict t u e a) : t ≠ u := by
  rintro rfl
  exact h.ne h.meets.end_eq

end Store

namespace Relate

variable {s : Store} {relate : Relate} {isStrict : Bool} {t u e a : TypeId} {x y : Bool}
  {answer : Relation}

/-- What the structural stage answered, completed by the constraints in force if the declarations
are compatible. -/
def completed (s : Store) (expected actual : TypeId) (expectedIsElement actualIsElement : Bool)
    (answer : Relation) : Relation :=
  if answer.isCompatible then
    constraints s expected actual expectedIsElement actualIsElement answer
  else answer

/-- Constraints have a common value whatever was found before, or they make the answer
incompatible. -/
theorem constraints_cases (s : Store) (t u : TypeId) (x y : Bool) :
    (∀ answer, constraints s t u x y answer = answer) ∨
      ∀ answer, (constraints s t u x y answer).level = .incompatibleSubtype := by
  unfold constraints
  split
  · split
    · exact .inl fun _ => rfl
    · exact .inr fun _ => rfl
  · exact .inl fun _ => rfl

/-- Types that are settled are answered at once, and the guard is not asked. -/
theorem stages_of_settled (h : s.Settled isStrict t u x y answer) (guard : PairGuard) :
    stages s isStrict relate t u x y guard = (answer, guard) := by
  rw [stages]
  cases h with
  | same htypes hx hy => simp [htypes, hx, hy]
  | silenced h =>
    split
    · rfl
    split
    · rename_i he ha
      have hmark : (s.isErroneous t || s.isErroneous u) = true := by
        simpa [Store.isSilenced, he, ha] using h
      rw [if_pos hmark]
    · rfl
  | unaccepted hmeets hdiffer hkind =>
    obtain ⟨he, ha, ht, hu⟩ := hmeets
    rw [Store.acceptsEnd] at hkind
    rw [if_neg (by simpa using hdiffer)]
    simp only [he, ha, ht, hu, hkind, Bool.or_self, Bool.false_eq_true, if_false, Bool.not_false,
      if_true]
  | @uncompared e a hmeets hdiffer hkind hone =>
    obtain ⟨he, ha, ht, hu⟩ := hmeets
    rw [Store.acceptsEnd] at hkind
    rw [if_neg (by simpa using hdiffer)]
    have hnot : (isStrict && e != a) = false := by
      rcases hone with rfl | rfl
      · rfl
      · simp
    simp only [he, ha, ht, hu, hkind, hnot, Bool.or_self, Bool.false_eq_true, if_false,
      Bool.not_true]
    rfl

/-- Types whose declarations are compared are answered by the structural stage, completed. -/
theorem stages_of_compares (h : s.ComparesMembers isStrict t u e a) (guard : PairGuard) :
    stages s isStrict relate t u x y guard =
      (completed s t u x y (structural s relate e a guard).1,
        (structural s relate e a guard).2) := by
  have hne := h.ne_types
  obtain ⟨⟨he, ha, ht, hu⟩, hkind, rfl, hends⟩ := h
  rw [Store.acceptsEnd] at hkind
  have hcompared : (true && e != a) = true := by simpa using hends
  rw [stages, if_neg fun hsame => hne hsame.1]
  simp only [he, ha, ht, hu, hkind, hcompared, Bool.or_self, Bool.false_eq_true, if_false,
    Bool.not_true, if_true, completed]
  split <;> rfl

end Relate

/-! ### Resolvers in use -/

theorem PassCache.entries_sync_subset {κ α : Type} (c : PassCache κ α) (pass : Pass) :
    (c.sync pass).entries ⊆ c.entries := by
  unfold sync
  split
  · exact List.Subset.refl _
  · exact List.nil_subset _

namespace Resolver

/-- The resolvers that a store comes to have.  At first nothing is remembered; then queries are
answered, in any pass and mode, each under the check stamps that are on the declarations at the
time; and answers may be forgotten. -/
inductive InUse (s : Store) : Resolver → Prop
  | fresh : InUse s {}
  | query {r : Resolver} (h : InUse s r) {store : Store} (hsame : store.unstamped = s.unstamped)
      (pass : Pass) (isStrict : Bool) (expected actual : TypeId) (x y : Bool) :
      InUse s (r.query store pass isStrict expected actual x y).2
  | forget {r : Resolver} (h : InUse s r) : InUse s r.forget

/-- A resolver without memory gives the answer on the declarations of a store, under some stamps
with the marks that the key holds. -/
def Answers (s : Store) (q : Query) (answer : Relation) : Prop :=
  ∃ store : Store, s.unstamped = store.unstamped ∧
    q.expectedErroneous = store.isErroneous q.expected ∧
    q.actualErroneous = store.isErroneous q.actual ∧ answer = store.answer q

/-- A resolver walks within the bounds of the structural stage, and remembers answers only. -/
structure Faithful (s : Store) (r : Resolver) : Prop where
  guard : r.guard.reset = .structural
  entries : ∀ e ∈ r.cache.entries, Answers s e.1 e.2

namespace Faithful

variable {s store : Store} {r : Resolver}

theorem answers_query (h : Faithful s r) (hsame : store.unstamped = s.unstamped) (pass : Pass)
    (isStrict : Bool) (expected actual : TypeId) (x y : Bool) :
    Answers s (keyOf store isStrict expected actual x y)
      (r.query store pass isStrict expected actual x y).1 := by
  rw [query_fst]
  cases hfound : (r.cache.sync pass).entries.lookup
      (keyOf store isStrict expected actual x y) with
  | none => exact ⟨store, hsame.symm, rfl, rfl, compute_fst h.guard _⟩
  | some answer =>
    obtain ⟨l₁, l₂, hentries, -⟩ := List.lookup_eq_some_iff.mp hfound
    have hmem : (keyOf store isStrict expected actual x y, answer) ∈
        (r.cache.sync pass).entries := by
      simp [hentries]
    exact h.entries _ (r.cache.entries_sync_subset pass hmem)

theorem query (h : Faithful s r) (hsame : store.unstamped = s.unstamped) (pass : Pass)
    (isStrict : Bool) (expected actual : TypeId) (x y : Bool) :
    Faithful s (r.query store pass isStrict expected actual x y).2 where
  guard := (query_guard ..).trans h.guard
  entries := by
    have hold : ∀ e ∈ (r.cache.sync pass).entries, Answers s e.1 e.2 :=
      fun e he => h.entries e (r.cache.entries_sync_subset pass he)
    rw [(r.query_cache store pass isStrict expected actual x y).2]
    split
    · exact hold
    · rw [List.forall_mem_cons]
      exact ⟨⟨store, hsame.symm, rfl, rfl, compute_fst h.guard _⟩, hold⟩

end Faithful

namespace InUse

variable {s : Store} {r : Resolver}

theorem faithful (h : InUse s r) : Faithful s r := by
  induction h with
  | fresh => exact ⟨rfl, fun _ he => absurd he List.not_mem_nil⟩
  | query _ hsame pass isStrict expected actual x y ih =>
    exact ih.query hsame pass isStrict expected actual x y
  | forget _ ih => exact ⟨ih.guard, fun _ he => absurd he List.not_mem_nil⟩

/-- Every answer comes from the stages on a store with the same declarations and the same marks on
the two types. -/
theorem exists_stages (h : InUse s r) (pass : Pass) (isStrict : Bool) (expected actual : TypeId)
    (x y : Bool) :
    ∃ store : Store, s.unstamped = store.unstamped ∧
      s.isErroneous expected = store.isErroneous expected ∧
      s.isErroneous actual = store.isErroneous actual ∧ ∃ relate,
        (r.query s pass isStrict expected actual x y).1 =
          (Relate.stages store isStrict relate expected actual x y .structural).1 := by
  obtain ⟨store, hsame, hexpected, hactual, hanswer⟩ :=
    h.faithful.answers_query rfl pass isStrict expected actual x y
  exact ⟨store, hsame, hexpected, hactual, _, hanswer⟩

end InUse

end Resolver

end TestSpec
