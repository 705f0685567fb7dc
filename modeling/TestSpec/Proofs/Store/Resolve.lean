import TestSpec.Store.Resolve

/-!
# Ends of alias chains, and what a type reaches

The end of an alias chain is no alias, so that resolving it again changes nothing, and
members of a type are those of the end of its chain.

A type **reaches** the declarations that are found from it along alias chains and
through fields and elements.  What a check or a comparison learns about a type it
learns from declarations that the type reaches: a property of all of them is a
property of the constraint in force, of the erroneous mark and of the types of
members.
-/

namespace TestSpec

/-- The references of a declaration to the types of its fields and elements. -/
def Declaration.memberTypes (d : Declaration) : List TypeRef :=
  d.fields.map Field.type ++ d.element.toList

namespace Store

variable {s : Store}

/-- The declarations found from a type along alias chains and through fields and elements. -/
inductive Reaches (s : Store) (type : TypeId) : TypeId → Prop
  | refl : Reaches s type type
  | target {u v : TypeId} (hu : Reaches s type u) (hnext : s.nextAlias? u = some v) :
      Reaches s type v
  | member {u v : TypeId} {r : TypeRef} (hu : Reaches s type u)
      (hr : r ∈ (s.get u).memberTypes) (hv : s.resolveRef? r = some v) : Reaches s type v

theorem Reaches.trans {t u v : TypeId} (htu : s.Reaches t u) (huv : s.Reaches u v) :
    s.Reaches t v := by
  induction huv with
  | refl => exact htu
  | target _ hnext ih => exact .target ih hnext
  | member _ hr hv ih => exact .member ih hr hv

/-! ### References lead to declarations of the store -/

theorem lt_of_lookupBelow {name : String} {count id : Nat}
    (h : s.lookupBelow name count = some id) : id < count := by
  induction count with
  | zero => cases h
  | succ count ih =>
    rw [lookupBelow] at h
    split at h
    · obtain rfl := Option.some.inj h
      exact Nat.lt_succ_self _
    · exact Nat.lt_succ_of_lt (ih h)

theorem lt_size_of_resolveRef? {r : TypeRef} {id : TypeId} (h : s.resolveRef? r = some id) :
    id < s.size := by
  cases r with
  | id t =>
    by_cases ht : t < s.size
    · have hid : s.resolveRef? (.id t) = some t := by simp [resolveRef?, resolveRef, ht]
      rw [hid, Option.some.injEq] at h
      rwa [← h]
    · simp [resolveRef?, resolveRef, ht] at h
  | name name =>
    cases hfound : s.lookup name with
    | none => simp [resolveRef?, resolveRef, hfound] at h
    | some t =>
      have hid : s.resolveRef? (.name name) = some t := by simp [resolveRef?, resolveRef, hfound]
      rw [hid, Option.some.injEq] at h
      rw [← h]
      exact lt_of_lookupBelow hfound

theorem lt_size_of_nextAlias? {u v : TypeId} (h : s.nextAlias? u = some v) : v < s.size := by
  simp only [nextAlias?] at h
  split at h
  · obtain ⟨r, -, hr⟩ := Option.bind_eq_some_iff.mp h
    exact lt_size_of_resolveRef? hr
  · cases h

/-! ### The end of an alias chain -/

/-- What following aliases comes to: the declaration is the end of the chain, or it is an alias and
its target is followed in its place. -/
theorem followAlias_ok {hops : Nat} {passed : List TypeId} {id last : TypeId}
    (h : s.followAlias hops passed id = .ok last) :
    ((s.get id).isAlias = false ∧ id = last) ∨
      ∃ hops' passed' next, hops = hops' + 1 ∧ s.nextAlias? id = some next ∧
        s.followAlias hops' passed' next = .ok last := by
  cases hid : (s.get id).isAlias with
  | false =>
    rw [followAlias.eq_def] at h
    simp only [hid, Bool.not_false, if_true, Except.ok.injEq] at h
    exact .inl ⟨rfl, h⟩
  | true =>
    cases hops with
    | zero => simp [followAlias, hid] at h
    | succ hops =>
      simp only [followAlias, hid, Bool.not_true, Bool.false_eq_true, if_false] at h
      split at h
      · cases h
      split at h
      · cases h
      rename_i target htarget
      split at h
      · cases h
      · rename_i next hnext
        refine .inr ⟨hops, _, next, rfl, ?_, h⟩
        simp [nextAlias?, hid, htarget, resolveRef?, hnext]

theorem followAlias_isAlias {hops : Nat} {passed : List TypeId} {id last : TypeId}
    (h : s.followAlias hops passed id = .ok last) : (s.get last).isAlias = false := by
  induction hops generalizing passed id with
  | zero =>
    rcases followAlias_ok h with ⟨hid, rfl⟩ | ⟨_, _, _, hzero, -⟩
    · exact hid
    · cases hzero
  | succ hops ih =>
    rcases followAlias_ok h with ⟨hid, rfl⟩ | ⟨_, _, _, hsucc, -, hrest⟩
    · exact hid
    · cases hsucc
      exact ih hrest

theorem followAlias_reaches {hops : Nat} {passed : List TypeId} {type id last : TypeId}
    (hid : s.Reaches type id) (h : s.followAlias hops passed id = .ok last) :
    s.Reaches type last := by
  induction hops generalizing passed id with
  | zero =>
    rcases followAlias_ok h with ⟨-, rfl⟩ | ⟨_, _, _, hzero, -⟩
    · exact hid
    · cases hzero
  | succ hops ih =>
    rcases followAlias_ok h with ⟨-, rfl⟩ | ⟨_, _, _, hsucc, hnext, hrest⟩
    · exact hid
    · cases hsucc
      exact ih (hid.target hnext) hrest

theorem resolveAlias?_eq_some_iff {type last : TypeId} :
    s.resolveAlias? type = some last ↔ s.followAlias maxAliasHops [] type = .ok last := by
  simp only [resolveAlias?, resolveAlias]
  split <;> simp_all

/-- The end of an alias chain is no alias. -/
theorem isAlias_of_resolveAlias? {type last : TypeId} (h : s.resolveAlias? type = some last) :
    (s.get last).isAlias = false :=
  followAlias_isAlias (resolveAlias?_eq_some_iff.mp h)

/-- A type reaches the end of its alias chain. -/
theorem reaches_of_resolveAlias? {type last : TypeId} (h : s.resolveAlias? type = some last) :
    s.Reaches type last :=
  followAlias_reaches .refl (resolveAlias?_eq_some_iff.mp h)

/-- A declaration that is no alias is the end of its own chain. -/
theorem resolveAlias?_of_isAlias {type : TypeId} (h : (s.get type).isAlias = false) :
    s.resolveAlias? type = some type := by
  rw [resolveAlias?_eq_some_iff, followAlias.eq_def]
  simp [h]

/-- Resolving the end of an alias chain again changes nothing. -/
theorem resolveAlias?_last {type last : TypeId} (h : s.resolveAlias? type = some last) :
    s.resolveAlias? last = some last :=
  resolveAlias?_of_isAlias (isAlias_of_resolveAlias? h)

/-! ### Members of a type are those of the end of its chain -/

theorem fieldType_eq {type last : TypeId} (h : s.resolveAlias? type = some last) (name : String) :
    s.fieldType type name = ((s.get last).field? name).bind fun f => s.resolveRef? f.type := by
  simp only [fieldType, h]
  rfl

theorem elementType_eq {type last : TypeId} (h : s.resolveAlias? type = some last) :
    s.elementType type = (s.get last).element.bind s.resolveRef? := by
  simp only [elementType, h]
  rfl

theorem fieldType_last {type last : TypeId} (h : s.resolveAlias? type = some last)
    (name : String) : s.fieldType last name = s.fieldType type name := by
  rw [fieldType_eq h, fieldType_eq (resolveAlias?_last h)]

theorem elementType_last {type last : TypeId} (h : s.resolveAlias? type = some last) :
    s.elementType last = s.elementType type := by
  rw [elementType_eq h, elementType_eq (resolveAlias?_last h)]

theorem resolvedKind_eq {type last : TypeId} (h : s.resolveAlias? type = some last) :
    s.resolvedKind type = ((s.get last).kind, (s.get last).dialect) := by
  simp only [resolvedKind, h]

/-- A type is not silenced exactly if it is not erroneous and its chain has an end. -/
theorem isSilenced_eq_false_iff {type : TypeId} :
    s.isSilenced type = false ↔
      s.isErroneous type = false ∧ ∃ last, s.resolveAlias? type = some last := by
  rw [isSilenced, Bool.or_eq_false_iff, Option.isNone_eq_false_iff, Option.isSome_iff_exists]

/-! ### Properties of everything that a type reaches -/

/-- A type whose chain carries no constraint has none in force. -/
theorem effectiveConstraint_eq_none {type : TypeId}
    (h : ∀ u, s.Reaches type u → (s.get u).constraint = none) :
    s.effectiveConstraint type = none := by
  have hwithin (count : Nat) : ∀ u, s.Reaches type u → s.constraintWithin count u = none := by
    induction count with
    | zero => exact fun _ _ => rfl
    | succ count ih =>
      intro u hu
      simp only [constraintWithin, h u hu]
      cases hnext : s.nextAlias? u with
      | none => rfl
      | some v => exact ih v (hu.target hnext)
  exact hwithin _ _ .refl

/-- A type whose chain carries no erroneous mark is not erroneous. -/
theorem isErroneous_eq_false {type : TypeId}
    (h : ∀ u, s.Reaches type u → (s.get u).isErroneous = false) :
    s.isErroneous type = false := by
  have hwithin (count : Nat) : ∀ u, s.Reaches type u → s.erroneousWithin count u = false := by
    induction count with
    | zero => exact fun _ _ => rfl
    | succ count ih =>
      intro u hu
      simp only [erroneousWithin, h u hu, Bool.false_or]
      cases hnext : s.nextAlias? u with
      | none => rfl
      | some v => exact ih v (hu.target hnext)
  exact hwithin _ _ .refl

theorem mem_memberTypes_of_field? {d : Declaration} {name : String} {f : Field}
    (h : d.field? name = some f) : f.type ∈ d.memberTypes :=
  List.mem_append_left _ (List.mem_map_of_mem (List.mem_of_find?_eq_some h))

theorem mem_memberTypes_of_element {d : Declaration} {r : TypeRef} (h : d.element = some r) :
    r ∈ d.memberTypes :=
  List.mem_append_right _ (by simp [h])

/-- A type reaches the types of its fields. -/
theorem reaches_of_fieldType {type t : TypeId} {name : String}
    (h : s.fieldType type name = some t) : s.Reaches type t := by
  cases hlast : s.resolveAlias? type with
  | none => simp [fieldType, hlast] at h
  | some last =>
    rw [fieldType_eq hlast, Option.bind_eq_some_iff] at h
    obtain ⟨f, hf, ht⟩ := h
    exact (reaches_of_resolveAlias? hlast).member (mem_memberTypes_of_field? hf) ht

/-- A type reaches the type of its elements. -/
theorem reaches_of_elementType {type t : TypeId} (h : s.elementType type = some t) :
    s.Reaches type t := by
  cases hlast : s.resolveAlias? type with
  | none => simp [elementType, hlast] at h
  | some last =>
    rw [elementType_eq hlast, Option.bind_eq_some_iff] at h
    obtain ⟨r, hr, ht⟩ := h
    exact (reaches_of_resolveAlias? hlast).member (mem_memberTypes_of_element hr) ht

end Store

end TestSpec
