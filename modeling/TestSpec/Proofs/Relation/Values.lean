import TestSpec.Proofs.Check.Value
import TestSpec.Proofs.Document.Shape
import TestSpec.Proofs.Relation.Rules
import TestSpec.Session.Basic

/-!
# Compatible types accept the same values

If a strict query finds an actual type compatible with an expected one, each value
that is read for the actual type and accepted by it is accepted by the expected type
too.  This holds of types that reach nothing which would silence or refine a check
(`Store.Plain`), where records that are compared have the same field names position
by position.

The two recursions meet in `Store.Covers`, which two types keep from one part of a
value to the next: a value has finitely many parts, however the types refer to each
other, so the proof is an induction on the value against a relation of types that is
a greatest fixed point.
-/

namespace TestSpec

namespace Requirement

/-- Records with the same field names: a field of the actual one has a field of that name in the
expected one at the same position. -/
theorem exists_recordField {es as : List Field} (hnames : es.map Field.name = as.map Field.name)
    {name : String} {g : Field} (hg : as.find? (fun f => f.name == name) = some g) :
    ∃ f, es.find? (fun f => f.name == name) = some f ∧
      ofRecordFields f g ∈ List.zipWith ofRecordFields es as := by
  induction as generalizing es with
  | nil => cases hg
  | cons a as ih =>
    obtain ⟨e, es, rfl⟩ : ∃ e es', es = e :: es' := by
      cases es with
      | nil => cases hnames
      | cons e es => exact ⟨e, es, rfl⟩
    simp only [List.map_cons, List.cons.injEq] at hnames
    obtain ⟨hfirst, hrest⟩ := hnames
    rw [List.find?_cons, ← hfirst] at hg
    rw [List.find?_cons]
    cases hname : e.name == name with
    | true =>
      simp only [hname, Option.some.injEq] at hg
      subst hg
      exact ⟨e, rfl, List.mem_cons_self⟩
    | false =>
      simp only [hname] at hg
      obtain ⟨f, hf, hmem⟩ := ih hrest hg
      exact ⟨f, hf, List.mem_cons_of_mem _ hmem⟩

/-- Where all requirements are met, a field or alternative of the actual declaration has one of its
name in the expected declaration, and their types are required to be related. -/
theorem exists_counterpart {e a : Declaration} {R : TypeRef → TypeRef → Prop}
    (hmet : ∀ r ∈ all e a, r.Met R)
    (hclass : e.kind.isRecordLike = true ∨ e.kind.isSetLike = true ∨ e.kind.isUnionLike = true)
    (hnames : e.kind.isRecordLike = true → e.fields.map Field.name = a.fields.map Field.name)
    {name : String} {g : Field} (hg : a.field? name = some g) :
    ∃ f label, e.field? name = some f ∧ .related label f.type g.type ∈ all e a := by
  obtain ⟨hmem, hname⟩ := Declaration.mem_of_field? hg
  by_cases hrecord : e.kind.isRecordLike = true
  · have hall : all e a = ofRecords e a := by simp [all, hrecord]
    have hlength : e.fields.length = a.fields.length := by
      simpa using congrArg List.length (hnames hrecord)
    rw [ofRecords, if_pos hlength] at hall
    rw [hall] at hmet ⊢
    obtain ⟨f, hf, hpair⟩ := exists_recordField (hnames hrecord) hg
    have hoptional : f.isOptional = g.isOptional := by
      by_contra hne
      have hrefuted := hmet _ hpair
      rw [ofRecordFields, if_neg hne] at hrefuted
      exact hrefuted
    rw [ofRecordFields, if_pos hoptional] at hpair
    exact ⟨f, _, hf, hpair⟩
  by_cases hset : e.kind.isSetLike = true
  · have hall : all e a = ofSets e a := by simp [all, hrecord, hset]
    rw [hall] at hmet ⊢
    rw [ofSets] at hmet ⊢
    split at hmet
    · rename_i hlength
      rw [if_pos hlength]
      have hpair := List.mem_map_of_mem (f := ofSetField e a) hmem
      have hfield := hmet _ hpair
      rw [ofSetField, hname] at hpair hfield
      cases hf : e.field? name with
      | none =>
        rw [hf] at hfield
        exact hfield.elim
      | some f =>
        simp only [hf] at hpair hfield
        split at hfield
        · rename_i hoptional
          rw [if_pos hoptional] at hpair
          exact ⟨f, _, rfl, hpair⟩
        · exact hfield.elim
    · exact (hmet _ (List.mem_singleton_self _)).elim
  · have hunion : e.kind.isUnionLike = true := (hclass.resolve_left hrecord).resolve_left hset
    have hall : all e a = a.fields.map (ofAlternative e a) := by simp [all, hrecord, hset, hunion]
    rw [hall] at hmet ⊢
    have hpair := List.mem_map_of_mem (f := ofAlternative e a) hmem
    have hfield := hmet _ hpair
    rw [ofAlternative, hname] at hpair hfield
    cases hf : e.field? name with
    | none =>
      rw [hf] at hfield
      exact hfield.elim
    | some f =>
      simp only [hf] at hpair
      exact ⟨f, _, rfl, hpair⟩

end Requirement

namespace Store

variable {s : Store}

/-- The pairs of declarations that are looked at when two types are compared: the ends of their
alias chains, and from a pair of two declarations those of the types that its requirements ask to
be related. -/
inductive Compared (s : Store) (expected actual : TypeId) : TypeId → TypeId → Prop
  | ends {e a : TypeId} (he : s.resolveAlias? expected = some e)
      (ha : s.resolveAlias? actual = some a) : Compared s expected actual e a
  | member {e a t u e' a' : TypeId} {label : String} {r r' : TypeRef}
      (h : Compared s expected actual e a) (hne : e ≠ a)
      (hr : .related label r r' ∈ Requirement.all (s.get e) (s.get a))
      (ht : s.resolveRef? r = some t) (hu : s.resolveRef? r' = some u)
      (he : s.resolveAlias? t = some e') (ha : s.resolveAlias? u = some a') :
      Compared s expected actual e' a'

/-- Two types with one end of their alias chains are compared with nothing but equal pairs. -/
theorem Compared.eq_of_ends {expected actual last e a : TypeId}
    (hexpected : s.resolveAlias? expected = some last)
    (hactual : s.resolveAlias? actual = some last) (h : s.Compared expected actual e a) :
    e = a := by
  induction h with
  | ends he ha =>
    rw [hexpected] at he
    rw [hactual] at ha
    exact (Option.some.inj he).symm.trans (Option.some.inj ha)
  | member _ hne _ _ _ _ _ ih => exact absurd ih hne

/-- An expected type that accepts the values of an actual one: the types are related, both are
plain, and records that are compared have the same field names position by position. -/
structure Covers (s : Store) (expectedIsElement actualIsElement : Bool)
    (expected actual : TypeId) : Prop where
  related : s.Related s.comparable expectedIsElement actualIsElement expected actual
  expectedPlain : s.Plain expected
  actualPlain : s.Plain actual
  names : ∀ e a, s.Compared expected actual e a → (s.get e).kind.isRecordLike = true →
    (s.get e).fields.map Field.name = (s.get a).fields.map Field.name

namespace Covers

variable {x y : Bool} {expected actual : TypeId}

/-- A plain type accepts its own values. -/
theorem of_plain {type : TypeId} (h : s.Plain type) : s.Covers false false type type where
  related := .same rfl rfl
  expectedPlain := h
  actualPlain := h
  names e a hcompared _ := by
    obtain ⟨last, hlast⟩ := h.exists_last
    rw [hcompared.eq_of_ends hlast hlast]

/-- The ends of the two alias chains are one declaration, or two that are comparable and of which
the one accepts the kind of the other. -/
theorem exists_ends (h : s.Covers x y expected actual) :
    ∃ e a, s.resolveAlias? expected = some e ∧ s.resolveAlias? actual = some a ∧
      (e = a ∨ e ≠ a ∧ s.comparable e a ∧
        (s.get e).kind.accepts (s.get a).kind (s.get e).dialect (s.get a).dialect = true) := by
  obtain ⟨e, he⟩ := h.expectedPlain.exists_last
  obtain ⟨a, ha⟩ := h.actualPlain.exists_last
  refine ⟨e, a, he, ha, ?_⟩
  cases h.related with
  | same _ _ => exact .inl (Option.some.inj (he.symm.trans ha))
  | expectedUnresolved hnone => rw [he] at hnone; cases hnone
  | actualUnresolved hnone => rw [ha] at hnone; cases hnone
  | expectedErroneous hmark => rw [h.expectedPlain.isErroneous] at hmark; cases hmark
  | actualErroneous hmark => rw [h.actualPlain.isErroneous] at hmark; cases hmark
  | resolved he' ha' hkind hmembers _ =>
    obtain rfl := Option.some.inj (he.symm.trans he')
    obtain rfl := Option.some.inj (ha.symm.trans ha')
    rcases Decidable.em (e = a) with hea | hea
    · exact .inl hea
    · exact .inr ⟨hea, hmembers.resolve_left hea, hkind⟩

/-- From two types to the types of members that they require to be related. -/
theorem member (h : s.Covers x y expected actual) {e a t u : TypeId}
    (he : s.resolveAlias? expected = some e) (ha : s.resolveAlias? actual = some a)
    (hne : e ≠ a) (hcomparable : s.comparable e a) {label : String} {r r' : TypeRef}
    (hr : .related label r r' ∈ Requirement.all (s.get e) (s.get a))
    (ht : s.resolveRef? r = some t) (hu : s.resolveRef? r' = some u)
    (hexpected : s.Reaches expected t) (hactual : s.Reaches actual u) :
    s.Covers false false t u where
  related := by
    rw [← s.comparison_comparable] at hcomparable
    exact hcomparable.2.2 _ hr t ht u hu
  expectedPlain := h.expectedPlain.of_reaches hexpected
  actualPlain := h.actualPlain.of_reaches hactual
  names e' a' hcompared := by
    -- a pair compared on the way from the members is compared on the way from the types
    refine h.names e' a' ?_
    induction hcompared with
    | ends he' ha' => exact .member (.ends he ha) hne hr ht hu he' ha'
    | member _ hne' hr' ht' hu' he' ha' ih => exact .member ih hne' hr' ht' hu' he' ha'

/-- The requirements of two comparable declarations are met. -/
theorem requirements_met {e a : TypeId} (h : s.comparable e a) :
    ∀ r ∈ Requirement.all (s.get e) (s.get a), r.Met (s.MembersRelated s.comparable) := by
  rw [← s.comparison_comparable] at h
  exact h.2.2

/-- A kind that the actual type accepts from its own values is accepted by the expected type. -/
theorem acceptsKind (h : s.Covers x y expected actual) {a : TypeId}
    (ha : s.resolveAlias? actual = some a)
    (haccepts : s.acceptsKind actual (s.get a).kind = true) :
    s.acceptsKind expected (s.get a).kind = true := by
  obtain ⟨e, a', he, ha', hends⟩ := h.exists_ends
  obtain rfl := Option.some.inj (ha.symm.trans ha')
  rw [Store.acceptsKind, resolvedKind_eq ha] at haccepts
  rw [Store.acceptsKind, resolvedKind_eq he]
  rcases hends with rfl | ⟨-, -, hkind⟩
  · exact haccepts
  · exact Kind.accepts_ttcn3 hkind

/-- The classes of the two kinds are the same. -/
theorem classes (h : s.Covers x y expected actual) {e a : TypeId}
    (he : s.resolveAlias? expected = some e) (ha : s.resolveAlias? actual = some a)
    (hkind : (s.get e).kind.accepts (s.get a).kind (s.get e).dialect (s.get a).dialect = true) :
    (s.get e).kind.isRecordLike = (s.get a).kind.isRecordLike ∧
      (s.get e).kind.isSetLike = (s.get a).kind.isSetLike ∧
      (s.get e).kind.isUnionLike = (s.get a).kind.isUnionLike ∧
      (s.get e).kind.isEnumerated = (s.get a).kind.isEnumerated ∧
      (s.get e).kind.isList = (s.get a).kind.isList :=
  Kind.classes_of_accepts (h.expectedPlain e (reaches_of_resolveAlias? he)).defined
    (h.actualPlain a (reaches_of_resolveAlias? ha)).defined hkind

/-- A field or alternative of the actual type is one of the expected type, which accepts the values
of its type. -/
theorem field (h : s.Covers x y expected actual) {a u : TypeId}
    (ha : s.resolveAlias? actual = some a)
    (hclass : (s.get a).kind.isRecordLike = true ∨ (s.get a).kind.isSetLike = true ∨
      (s.get a).kind.isUnionLike = true) {name : String}
    (hu : s.fieldType actual name = some u) :
    ∃ t, s.fieldType expected name = some t ∧ s.Covers false false t u := by
  obtain ⟨e, a', he, ha', hends⟩ := h.exists_ends
  obtain rfl := Option.some.inj (ha.symm.trans ha')
  have hreaches := reaches_of_fieldType hu
  rcases hends with rfl | ⟨hne, hcomparable, hkind⟩
  · refine ⟨u, ?_, of_plain (h.actualPlain.of_reaches hreaches)⟩
    rw [fieldType_eq he, ← fieldType_eq ha, hu]
  · obtain ⟨hrecord, hset, hunion, -⟩ := h.classes he ha hkind
    rw [← hrecord, ← hset, ← hunion] at hclass
    rw [fieldType_eq ha, Option.bind_eq_some_iff] at hu
    obtain ⟨g, hg, hu⟩ := hu
    obtain ⟨f, label, hf, hr⟩ := Requirement.exists_counterpart (requirements_met hcomparable)
      hclass (h.names e a (.ends he ha)) hg
    have hrefers := (h.expectedPlain e (reaches_of_resolveAlias? he)).refers _
      (mem_memberTypes_of_field? hf)
    obtain ⟨t, ht⟩ := Option.isSome_iff_exists.mp hrefers
    have hfield : s.fieldType expected name = some t := by
      rw [fieldType_eq he, hf]
      exact ht
    exact ⟨t, hfield, h.member he ha hne hcomparable hr ht hu (reaches_of_fieldType hfield)
      hreaches⟩

/-- The type of the elements of the expected type, if it has one, accepts the values of that of the
actual type. -/
theorem element (h : s.Covers x y expected actual) {a t u : TypeId}
    (ha : s.resolveAlias? actual = some a) (hlist : (s.get a).kind.isList = true)
    (ht : s.elementType expected = some t) (hu : s.elementType actual = some u) :
    s.Covers false false t u := by
  obtain ⟨e, a', he, ha', hends⟩ := h.exists_ends
  obtain rfl := Option.some.inj (ha.symm.trans ha')
  have hexpected := reaches_of_elementType ht
  have hactual := reaches_of_elementType hu
  rw [elementType_eq he, Option.bind_eq_some_iff] at ht
  rw [elementType_eq ha, Option.bind_eq_some_iff] at hu
  obtain ⟨r, hr, ht⟩ := ht
  obtain ⟨r', hr', hu⟩ := hu
  rcases hends with rfl | ⟨hne, hcomparable, hkind⟩
  · obtain rfl := Option.some.inj (hr.symm.trans hr')
    obtain rfl := Option.some.inj (ht.symm.trans hu)
    exact of_plain (h.actualPlain.of_reaches hactual)
  · obtain ⟨-, -, -, -, hlists⟩ := h.classes he ha hkind
    have hall : Requirement.all (s.get e) (s.get a) = Requirement.ofLists (s.get e) (s.get a) :=
      Declaration.all_of_isList (hlists.trans hlist)
    have hmet := requirements_met hcomparable
    have hmem : .related "element type" r r' ∈ Requirement.all (s.get e) (s.get a) := by
      rw [hall, Requirement.ofLists] at hmet ⊢
      split at hmet
      · exact (hmet _ (List.mem_singleton_self _)).elim
      · rename_i hdimension
        simp [hdimension, hr, hr']
    exact h.member he ha hne hcomparable hmem ht hu hexpected hactual

/-- An enumerator of the actual type is one of the expected type. -/
theorem enumerator (h : s.Covers x y expected actual) {a : TypeId}
    (ha : s.resolveAlias? actual = some a) (henumerated : (s.get a).kind.isEnumerated = true)
    {name : String} (hok : (s.checkEnumerator actual name).ok = true) :
    (s.checkEnumerator expected name).ok = true := by
  obtain ⟨e, a', he, ha', hends⟩ := h.exists_ends
  obtain rfl := Option.some.inj (ha.symm.trans ha')
  simp only [checkEnumerator, he, ha] at hok ⊢
  rcases hends with rfl | ⟨hne, hcomparable, hkind⟩
  · split at hok
    · rename_i hsome
      simp [hsome, Findings.clean]
    · cases hok
  · obtain ⟨-, -, -, hsame, -⟩ := h.classes he ha hkind
    have hmet := requirements_met hcomparable
    rw [Declaration.all_of_isEnumerated (hsame.trans henumerated),
      Declaration.ofEnumerated_met_iff] at hmet
    split at hok
    · rename_i hsome
      obtain ⟨item, hitem⟩ := Option.isSome_iff_exists.mp hsome
      have hname : item.name = name := by simpa using List.find?_some hitem
      obtain ⟨counterpart, hmem, hcounterpart⟩ := hmet item (List.mem_of_find?_eq_some hitem)
      have hfound : ((s.get e).enumerator? name).isSome = true := by
        rw [Declaration.enumerator?, List.find?_isSome]
        exact ⟨counterpart, hmem, by simp [hcounterpart, hname]⟩
      simp [hfound, Findings.clean]
    · cases hok

end Covers

/-- An expected type accepts each value of an actual type that it covers, if the actual type
does. -/
theorem Shaped.ok_of_covers {isNumeric : Bool} {actual : TypeId} {v : Value}
    (hv : s.Shaped Eq isNumeric actual v) {x y : Bool} {expected : TypeId}
    (h : s.Covers x y expected actual) {n : Nesting}
    (hok : (s.checkValue actual n v).1.ok = true) :
    (s.checkValue expected n v).1.ok = true := by
  induction hv generalizing x y expected n with
  | @scalar actual last kind content hlast hkind hcontent _ =>
    subst hkind
    rw [h.actualPlain.scalar_ok_iff] at hok
    rw [h.expectedPlain.scalar_ok_iff]
    obtain ⟨hdeeper, haccepts, henumerator⟩ := hok
    refine ⟨hdeeper, h.acceptsKind hlast haccepts, ?_⟩
    rintro name ordinal rfl
    exact h.enumerator hlast (Scalar.isEnumerated_of_fits hcontent) (henumerator name ordinal rfl)
  | @record actual last kind fields hlast hkind hform _ _ ih =>
    subst hkind
    rw [h.actualPlain.record_ok_iff] at hok
    rw [h.expectedPlain.record_ok_iff]
    obtain ⟨deeper, hdeeper, haccepts, hfields⟩ := hok
    refine ⟨deeper, hdeeper, h.acceptsKind hlast haccepts, ?_⟩
    intro f hf
    obtain ⟨u, hu, hvalue⟩ := hfields f hf
    have hclass : (s.get last).kind.isRecordLike = true ∨ (s.get last).kind.isSetLike = true ∨
        (s.get last).kind.isUnionLike = true := by
      rw [Bool.or_eq_true] at hform
      exact hform.imp_right .inl
    obtain ⟨t, ht, hcovers⟩ := h.field hlast hclass hu
    refine ⟨t, ht, ?_⟩
    intro v hv
    cases f with
    | omitted name => cases hv
    | present name value =>
      obtain rfl := Option.some.inj hv
      exact ih name value u hf hu hcovers (hvalue value rfl)
  | @union actual last u kind alternative value hlast hkind hform hfield _ ih =>
    subst hkind
    rw [h.actualPlain.union_ok_iff] at hok
    rw [h.expectedPlain.union_ok_iff]
    obtain ⟨deeper, hdeeper, haccepts, u', hu', hvalue⟩ := hok
    obtain rfl := Option.some.inj (hfield.symm.trans hu')
    obtain ⟨t, ht, hcovers⟩ := h.field hlast (.inr (.inr hform)) hfield
    exact ⟨deeper, hdeeper, h.acceptsKind hlast haccepts, t, ht, ih hcovers hvalue⟩
  | @list actual last u kind elements hlast hkind hform helement _ ih =>
    subst hkind
    rw [h.actualPlain.list_ok_iff] at hok
    rw [h.expectedPlain.list_ok_iff]
    obtain ⟨deeper, hdeeper, haccepts, helements⟩ := hok
    refine ⟨deeper, hdeeper, h.acceptsKind hlast haccepts, ?_⟩
    intro t ht value hvalue
    have hcovers := h.element hlast hform ht helement
    exact ih value hvalue hcovers (helements u helement value hvalue)

end Store

namespace Check

/-- Strict compatibility is sound for values.  Two types reach only plain declarations, and records
that are compared have the same field names position by position.  If a strict query finds them
compatible without hitting a limit, then a check that accepts a value, read for the actual type,
against the actual type accepts it against the expected type. -/
theorem value_of_compatible {session : Session} {r : Resolver} {q : Query}
    (hexpected : session.store.Plain q.expected) (hactual : session.store.Plain q.actual)
    (hnames : ∀ e a, session.store.Compared q.expected q.actual e a →
      (session.store.get e).kind.isRecordLike = true →
      (session.store.get e).fields.map Field.name = (session.store.get a).fields.map Field.name)
    (hstrict : q.isStrict = true) (hstays : r.staysWithin session.store q = true)
    (hcompatible : (r.compute session.store q).1.level = .compatible) {j : Json} {v : Value}
    (hread : Document.readValue session.store q.actual j = .ok v) (location : Location)
    (haccepted : ((Check.value location q.actual v).run session).1 = true) :
    ((Check.value location q.expected v).run session).1 = true := by
  have hrelated := Resolver.related_of_compute hstrict hstays
    (by simp [Relation.isCompatible, hcompatible])
  have hcovers : session.store.Covers q.expectedIsElement q.actualIsElement q.expected q.actual :=
    ⟨hrelated, hexpected, hactual, hnames⟩
  have hshaped : session.store.Shaped Eq false q.actual v :=
    Document.readValue_shaped j (by simp) hread
  exact hshaped.ok_of_covers hcovers haccepted

/-- Of the two records that hold each other, one accepts a value of the other with another value of
the one in it. -/
theorem value_of_compatible_mutualRecords :
    ((Check.value (.ofFile "knots") 0
      (.record .record [
        .present "next" (.record .record [.omitted "next", .present "load" (.integer 2)]),
        .present "load" (.integer 1)])).run { store := .mutualRecords, pass := 1 }).1 = true := by
  have hplain (u : TypeId) (hu : u < 3) : Store.mutualRecords.PlainAt u := by
    match u, hu with
    | 0, _ | 1, _ | 2, _ => constructor <;> decide
  -- the pairs that are compared are the records both ways round, and the integers
  have hcompared (e a : TypeId) (h : Store.mutualRecords.Compared 0 1 e a) :
      (e = 0 ∧ a = 1) ∨ (e = 1 ∧ a = 0) ∨ (e = 2 ∧ a = 2) := by
    induction h with
    | ends he ha =>
      obtain rfl := Option.some.inj he
      obtain rfl := Option.some.inj ha
      exact .inl ⟨rfl, rfl⟩
    | member _ hne hr ht hu he ha ih =>
      rcases ih with ⟨rfl, rfl⟩ | ⟨rfl, rfl⟩ | ⟨rfl, rfl⟩
      · have hall : Requirement.all (Store.mutualRecords.get 0) (Store.mutualRecords.get 1) =
            [.related "next" (.name "Knot") (.name "Node"),
              .related "load" (.name "integer") (.name "integer")] := by decide
        simp only [hall, List.mem_cons, Requirement.related.injEq, List.not_mem_nil,
          or_false] at hr
        rcases hr with ⟨rfl, rfl, rfl⟩ | ⟨rfl, rfl, rfl⟩ <;> cases ht <;> cases hu <;>
          cases he <;> cases ha <;> simp
      · have hall : Requirement.all (Store.mutualRecords.get 1) (Store.mutualRecords.get 0) =
            [.related "next" (.name "Node") (.name "Knot"),
              .related "load" (.name "integer") (.name "integer")] := by decide
        simp only [hall, List.mem_cons, Requirement.related.injEq, List.not_mem_nil,
          or_false] at hr
        rcases hr with ⟨rfl, rfl, rfl⟩ | ⟨rfl, rfl, rfl⟩ <;> cases ht <;> cases hu <;>
          cases he <;> cases ha <;> simp
      · exact absurd rfl hne
  have hnames (e a : TypeId) (h : Store.mutualRecords.Compared 0 1 e a)
      (_ : (Store.mutualRecords.get e).kind.isRecordLike = true) :
      (Store.mutualRecords.get e).fields.map Field.name =
        (Store.mutualRecords.get a).fields.map Field.name := by
    rcases hcompared e a h with ⟨rfl, rfl⟩ | ⟨rfl, rfl⟩ | ⟨rfl, rfl⟩ <;> rfl
  exact @value_of_compatible { store := .mutualRecords, pass := 1 } {}
    { expected := 0, actual := 1, isStrict := true }
    (Store.Plain.of_size hplain (by decide)) (Store.Plain.of_size hplain (by decide)) hnames rfl
    (by decide) (by decide)
    (.object [("next", .object [("next", .null), ("load", .integer 2)]), ("load", .integer 1)])
    _ (by rfl) _ (by decide)

end Check

end TestSpec
