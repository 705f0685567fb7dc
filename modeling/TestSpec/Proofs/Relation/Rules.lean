import Mathlib.Data.List.Forall2
import Mathlib.Data.List.Nodup
import Mathlib.Data.List.Perm.Subperm
import TestSpec.Proofs.Kind.Table
import TestSpec.Proofs.Relation.Greatest

/-!
# The rules of structural compatibility

`Declaration.Obeys` states, kind by kind, what two declarations have in common that
are compared member by member, without the order in which a resolver looks at them
and without its search for a counterpart.  Where field names are distinct, the rules
say the same as the requirements (`Declaration.obeys_iff`), and structural
compatibility is the greatest relation that obeys them
(`Resolver.compute_isCompatible_iff`).
-/

namespace TestSpec

/-- The rules for two declarations, by the kind of the expected one, types of members being
related by `R`.  Other kinds impose nothing. -/
structure Declaration.Obeys (R : TypeRef → TypeRef → Prop) (e a : Declaration) : Prop where
  /-- Fields of records agree position by position. -/
  records : e.kind.isRecordLike = true →
    List.Forall₂ (fun f g => f.isOptional = g.isOptional ∧ R f.type g.type) e.fields a.fields
  /-- Sets have as many fields, and each field of the actual one a counterpart by name. -/
  sets : e.kind.isSetLike = true → e.fields.length = a.fields.length ∧
    ∀ g ∈ a.fields, ∃ f ∈ e.fields,
      f.name = g.name ∧ f.isOptional = g.isOptional ∧ R f.type g.type
  /-- Each alternative of the actual union has a counterpart. -/
  unions : e.kind.isUnionLike = true →
    ∀ g ∈ a.fields, ∃ f ∈ e.fields, f.name = g.name ∧ R f.type g.type
  /-- Each enumerator of the actual type has a counterpart. -/
  enumerated : e.kind.isEnumerated = true →
    ∀ y ∈ a.enumerators, ∃ x ∈ e.enumerators, x.name = y.name
  /-- Arrays have one dimension, and lists related elements if both declare their type. -/
  lists : e.kind.isList = true → (e.kind = .array → e.dimension = a.dimension) ∧
    ∀ t ∈ e.element, ∀ u ∈ a.element, R t u

/-- The field names of a declaration are distinct. -/
def Declaration.NamesDistinct (d : Declaration) : Prop := (d.fields.map Field.name).Nodup

namespace Declaration

variable {e a : Declaration} {R : TypeRef → TypeRef → Prop}

theorem Obeys.mono {R' : TypeRef → TypeRef → Prop} (himp : ∀ t u, R t u → R' t u)
    (h : e.Obeys R a) : e.Obeys R' a where
  records hk := (h.records hk).imp fun _ _ hfg => ⟨hfg.1, himp _ _ hfg.2⟩
  sets hk := ⟨(h.sets hk).1, fun g hg =>
    let ⟨f, hf, hname, hoptional, htype⟩ := (h.sets hk).2 g hg
    ⟨f, hf, hname, hoptional, himp _ _ htype⟩⟩
  unions hk g hg :=
    let ⟨f, hf, hname, htype⟩ := h.unions hk g hg
    ⟨f, hf, hname, himp _ _ htype⟩
  enumerated := h.enumerated
  lists hk := ⟨(h.lists hk).1, fun t ht u hu => himp _ _ ((h.lists hk).2 t ht u hu)⟩

theorem mem_of_field? {d : Declaration} {name : String} {f : Field} (h : d.field? name = some f) :
    f ∈ d.fields ∧ f.name = name :=
  ⟨List.mem_of_find?_eq_some h, by simpa using List.find?_some h⟩

/-- Where names are distinct, a field is the one that its name means. -/
theorem field?_of_mem {d : Declaration} (hnames : d.NamesDistinct) {f : Field}
    (hf : f ∈ d.fields) : d.field? f.name = some f := by
  cases hfound : d.field? f.name with
  | none =>
    have hnone := List.find?_eq_none.mp hfound f hf
    simp at hnone
  | some g =>
    obtain ⟨hg, hname⟩ := mem_of_field? hfound
    rw [List.inj_on_of_nodup_map hnames hg hf hname]

/-! ### The requirements of each class of kinds say what its rule says -/

theorem all_of_isEnumerated (h : e.kind.isEnumerated = true) :
    Requirement.all e a = Requirement.ofEnumerated e a := by
  have hclass := e.kind.class_cases
  simp only [h, List.mem_cons, Prod.mk.injEq, Bool.true_eq_false, List.not_mem_nil, false_and,
    and_false, or_false, false_or, true_and] at hclass
  obtain ⟨hr, hs, hu, -⟩ := hclass
  simp [Requirement.all, hr, hs, hu, h]

theorem all_of_isList (h : e.kind.isList = true) :
    Requirement.all e a = Requirement.ofLists e a := by
  have hclass := e.kind.class_cases
  simp only [h, List.mem_cons, Prod.mk.injEq, Bool.true_eq_false, List.not_mem_nil, and_false,
    or_false, false_or, and_true] at hclass
  obtain ⟨hr, hs, hu, he⟩ := hclass
  simp [Requirement.all, hr, hs, hu, he, h]

theorem ofRecords_met_iff :
    (∀ r ∈ Requirement.ofRecords e a, r.Met R) ↔
      List.Forall₂ (fun f g => f.isOptional = g.isOptional ∧ R f.type g.type)
        e.fields a.fields := by
  have hfield (f g : Field) : (Requirement.ofRecordFields f g).Met R ↔
      f.isOptional = g.isOptional ∧ R f.type g.type := by
    simp only [Requirement.ofRecordFields]
    split <;> simp_all [Requirement.Met]
  unfold Requirement.ofRecords
  split
  · rename_i hlength
    rw [List.forall₂_iff_zip, ← List.map_uncurry_zip_eq_zipWith]
    simp only [List.forall_mem_map, Prod.forall, Function.uncurry_apply_pair, hfield, hlength, true_and]
  · rename_i hlength
    constructor
    · intro h
      exact (h _ (List.mem_singleton_self _)).elim
    · intro h
      exact absurd h.length_eq hlength

theorem ofSets_met_iff (hnames : e.NamesDistinct) :
    (∀ r ∈ Requirement.ofSets e a, r.Met R) ↔ e.fields.length = a.fields.length ∧
      ∀ g ∈ a.fields, ∃ f ∈ e.fields,
        f.name = g.name ∧ f.isOptional = g.isOptional ∧ R f.type g.type := by
  have hfield (g : Field) : (Requirement.ofSetField e a g).Met R ↔ ∃ f ∈ e.fields,
      f.name = g.name ∧ f.isOptional = g.isOptional ∧ R f.type g.type := by
    unfold Requirement.ofSetField
    cases hfound : e.field? g.name with
    | none =>
      refine iff_of_false id ?_
      rintro ⟨f, hf, hname, -⟩
      rw [← hname, field?_of_mem hnames hf] at hfound
      cases hfound
    | some f =>
      obtain ⟨hf, hname⟩ := mem_of_field? hfound
      constructor
      · intro hmet
        dsimp only at hmet
        split at hmet
        · rename_i hoptional
          exact ⟨f, hf, hname, hoptional, hmet⟩
        · exact hmet.elim
      · rintro ⟨f', hf', hname', hoptional, htype⟩
        obtain rfl := List.inj_on_of_nodup_map hnames hf' hf (hname'.trans hname.symm)
        simpa [hoptional, Requirement.Met] using htype
  unfold Requirement.ofSets
  split
  · rename_i hlength
    simp [hlength, hfield]
  · rename_i hlength
    simp [hlength, Requirement.Met]

theorem ofAlternatives_met_iff (hnames : e.NamesDistinct) :
    (∀ r ∈ a.fields.map (Requirement.ofAlternative e a), r.Met R) ↔
      ∀ g ∈ a.fields, ∃ f ∈ e.fields, f.name = g.name ∧ R f.type g.type := by
  have hfield (g : Field) : (Requirement.ofAlternative e a g).Met R ↔
      ∃ f ∈ e.fields, f.name = g.name ∧ R f.type g.type := by
    unfold Requirement.ofAlternative
    cases hfound : e.field? g.name with
    | none =>
      refine iff_of_false id ?_
      rintro ⟨f, hf, hname, -⟩
      rw [← hname, field?_of_mem hnames hf] at hfound
      cases hfound
    | some f =>
      obtain ⟨hf, hname⟩ := mem_of_field? hfound
      constructor
      · intro htype
        exact ⟨f, hf, hname, htype⟩
      · rintro ⟨f', hf', hname', htype⟩
        obtain rfl := List.inj_on_of_nodup_map hnames hf' hf (hname'.trans hname.symm)
        exact htype
  simp [hfield]

theorem ofEnumerated_met_iff :
    (∀ r ∈ Requirement.ofEnumerated e a, r.Met R) ↔
      ∀ y ∈ a.enumerators, ∃ x ∈ e.enumerators, x.name = y.name := by
  simp only [Requirement.ofEnumerated, List.mem_map, List.mem_filter, Option.isNone_iff_eq_none,
    enumerator?, List.find?_eq_none]
  constructor
  · intro h y hy
    by_contra hnone
    refine h _ ⟨y, ⟨hy, ?_⟩, rfl⟩
    intro x hx hname
    exact hnone ⟨x, hx, by simpa using hname⟩
  · rintro h _ ⟨y, ⟨hy, hnone⟩, rfl⟩
    obtain ⟨x, hx, hname⟩ := h y hy
    exact absurd (by simpa using hname) (hnone x hx)

theorem ofLists_met_iff :
    (∀ r ∈ Requirement.ofLists e a, r.Met R) ↔
      (e.kind = .array → e.dimension = a.dimension) ∧ ∀ t ∈ e.element, ∀ u ∈ a.element, R t u := by
  unfold Requirement.ofLists
  split
  · rename_i hdimension
    simp [Requirement.Met, hdimension]
  · rename_i hdimension
    have hsame : e.kind = .array → e.dimension = a.dimension := by
      simpa using hdimension
    rw [and_iff_right hsame]
    cases e.element <;> cases a.element <;> simp [Requirement.Met]

/-- Where the field names of the expected declaration are distinct, obeying the rules is meeting
the requirements. -/
theorem obeys_iff (hnames : e.NamesDistinct) :
    e.Obeys R a ↔ ∀ r ∈ Requirement.all e a, r.Met R := by
  have hobeys : e.Obeys R a ↔
      (e.kind.isRecordLike = true → ∀ r ∈ Requirement.ofRecords e a, r.Met R) ∧
      (e.kind.isSetLike = true → ∀ r ∈ Requirement.ofSets e a, r.Met R) ∧
      (e.kind.isUnionLike = true →
        ∀ r ∈ a.fields.map (Requirement.ofAlternative e a), r.Met R) ∧
      (e.kind.isEnumerated = true → ∀ r ∈ Requirement.ofEnumerated e a, r.Met R) ∧
      (e.kind.isList = true → ∀ r ∈ Requirement.ofLists e a, r.Met R) := by
    rw [ofRecords_met_iff, ofSets_met_iff hnames, ofAlternatives_met_iff hnames,
      ofEnumerated_met_iff, ofLists_met_iff]
    exact ⟨fun h => ⟨h.records, h.sets, h.unions, h.enumerated, h.lists⟩,
      fun ⟨hr, hs, hu, he, hl⟩ => ⟨hr, hs, hu, he, hl⟩⟩
  rw [hobeys]
  -- in each class the other four rules are void
  have hclass := e.kind.class_cases
  simp only [List.mem_cons, Prod.mk.injEq, List.not_mem_nil, or_false] at hclass
  rcases hclass with h | h | h | h | h | h <;> obtain ⟨hr, hs, hu, he, hl⟩ := h <;>
    simp [Requirement.all, hr, hs, hu, he, hl]

/-- Sets that obey the rules have the same field names. -/
theorem Obeys.mem_names_iff (ha : a.NamesDistinct) (h : e.Obeys R a)
    (hset : e.kind.isSetLike = true) (name : String) :
    name ∈ e.fields.map Field.name ↔ name ∈ a.fields.map Field.name := by
  obtain ⟨hlength, hcounterpart⟩ := h.sets hset
  have hsub : a.fields.map Field.name ⊆ e.fields.map Field.name := by
    intro n hn
    obtain ⟨g, hg, rfl⟩ := List.mem_map.mp hn
    obtain ⟨f, hf, hname, -⟩ := hcounterpart g hg
    exact List.mem_map.mpr ⟨f, hf, hname⟩
  have hperm := (List.subperm_of_subset ha hsub).perm_of_length_le (by simp [hlength])
  exact hperm.mem_iff.symm

end Declaration

namespace Store

/-- The field names within each declaration are distinct. -/
def FieldNamesDistinct (s : Store) : Prop := ∀ d ∈ s.declarations, d.NamesDistinct

theorem FieldNamesDistinct.get {s : Store} (h : s.FieldNamesDistinct) (id : TypeId) :
    (s.get id).NamesDistinct := by
  unfold Store.get
  rw [Array.getD_eq_getD_getElem?]
  cases hd : s.declarations[id]? with
  | none => exact List.nodup_nil
  | some d => exact h d (Array.mem_of_getElem? hd)

/-- The pairs of declarations, no aliases among them, that obey the rules if members are related
over `S`. -/
def memberRules (s : Store) : TypeRelation →o TypeRelation where
  toFun S e a := (s.get e).isAlias = false ∧ (s.get a).isAlias = false ∧
    (s.get e).Obeys (s.MembersRelated S) (s.get a)
  monotone' _ _ hST _ _ h := ⟨h.1, h.2.1, h.2.2.mono fun _ _ => MembersRelated.mono hST⟩

theorem memberRules_eq_comparison {s : Store} (hnames : s.FieldNamesDistinct) :
    s.memberRules = s.comparison := by
  ext S e a
  exact and_congr_right fun _ => and_congr_right fun _ => Declaration.obeys_iff (hnames.get e)

end Store

namespace Resolver

/-- Strict structural compatibility is the greatest fixed point of the member rules.  In a store
whose field names are distinct within each declaration, a strict query that hits no limit finds
two types compatible exactly if they are related over the greatest relation that obeys the rules.
A resolver that remembers nothing answers so; and sets in that relation have the same field
names. -/
theorem compute_isCompatible_iff {store : Store} (hnames : store.FieldNamesDistinct)
    (r : Resolver) (q : Query) (hstrict : q.isStrict = true)
    (hstays : r.staysWithin store q = true) :
    ((r.compute store q).1.level = .compatible ↔
      store.Related store.memberRules.gfp q.expectedIsElement q.actualIsElement
        q.expected q.actual) ∧
    (∀ pass, (({ guard := r.guard } : Resolver).query store pass true q.expected q.actual
      q.expectedIsElement q.actualIsElement).1 = (r.compute store q).1) ∧
    ∀ e a, store.memberRules.gfp e a → (store.get e).kind.isSetLike = true →
      ∀ name, name ∈ (store.get e).fields.map Field.name ↔
        name ∈ (store.get a).fields.map Field.name := by
  refine ⟨?_, ?_, ?_⟩
  · have hlevel (answer : Relation) :
        answer.level = .compatible ↔ answer.isCompatible = true := by
      simp [Relation.isCompatible]
    rw [hlevel, store.memberRules_eq_comparison hnames]
    exact ⟨related_of_compute hstrict hstays, compute_isCompatible_of_related r⟩
  · intro pass
    rw [query_of_lookup_none (by rfl)]
    simp only [compute, keyOf, hstrict]
  · intro e a hea hset
    rw [← store.memberRules.map_gfp] at hea
    exact hea.2.2.mem_names_iff (hnames.get a) hset

end Resolver

/-- Two records, each of which holds the other in an optional field. -/
def Store.mutualRecords : Store where
  declarations := #[
    { name := "Node", kind := .record,
      fields := [⟨"next", .name "Knot", true⟩, ⟨"load", .name "integer", false⟩] },
    { name := "Knot", kind := .record,
      fields := [⟨"next", .name "Node", true⟩, ⟨"load", .name "integer", false⟩] },
    { name := "integer", kind := .integer }]

/-- Records that hold each other are related, the cycle between them notwithstanding. -/
theorem Resolver.compute_isCompatible_iff_mutualRecords :
    (({} : Resolver).compute .mutualRecords
        { expected := 0, actual := 1, isStrict := true }).1.level = .compatible ∧
      Store.mutualRecords.Related Store.mutualRecords.memberRules.gfp false false 0 1 := by
  have hnames : Store.mutualRecords.FieldNamesDistinct := by
    intro d hd
    simp only [Store.mutualRecords, List.mem_toArray, List.mem_cons, List.not_mem_nil,
      or_false] at hd
    rcases hd with rfl | rfl | rfl <;> simp [Declaration.NamesDistinct]
  have hlevel : (({} : Resolver).compute .mutualRecords
      { expected := 0, actual := 1, isStrict := true }).1.level = .compatible := by decide
  have hiff := Resolver.compute_isCompatible_iff hnames {}
    { expected := 0, actual := 1, isStrict := true } rfl (by decide)
  exact ⟨hlevel, hiff.1.mp hlevel⟩

end TestSpec
