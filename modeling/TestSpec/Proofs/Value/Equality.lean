import TestSpec.Proofs.Value.Order

/-!
# What values are equal to

A value is equal to a record, a union or a list if it is one too, with equal parts, and a
value that is bound at every depth is equal to itself (`Value.equals_self`).
-/

namespace TestSpec

namespace Value

variable {kind : Kind} {v w : Value}

/-- Only bound values are equal to something. -/
theorem isBound_of_equals (h : w.equals v = .ok true) : w.isBound = true := by
  cases w with
  | unbound => cases h
  | _ => rfl

/-- What is equal to a record is a record, whose fields are equal one by one. -/
theorem equals_record_iff {fields : List FieldValue} :
    w.equals (.record kind fields) = .ok true ↔ ∃ kind' fields', w = .record kind' fields' ∧
      List.Forall₂ (FieldValue.Related fun a b => a.equals b = .ok true) fields' fields := by
  cases w with
  | record kind' fields' =>
    rw [record_equals_iff]
    constructor
    · rintro ⟨_, _, ⟨⟩, h⟩
      exact ⟨_, _, rfl, h⟩
    · rintro ⟨_, _, ⟨⟩, h⟩
      exact ⟨_, _, rfl, h⟩
  | _ => simp [equals]

/-- What is equal to a union is a union with the same alternative, whose value is equal. -/
theorem equals_union_iff {alternative : String} :
    w.equals (.union kind alternative v) = .ok true ↔
      ∃ kind' w', w = .union kind' alternative w' ∧ w'.equals v = .ok true := by
  cases w with
  | union kind' alternative' w' =>
    rw [union_equals_iff]
    constructor
    · rintro ⟨_, _, ⟨⟩, h⟩
      exact ⟨_, _, rfl, h⟩
    · rintro ⟨_, _, ⟨⟩, h⟩
      exact ⟨_, _, rfl, h⟩
  | _ => simp [equals]

/-- What is equal to a list is a list, whose elements are equal one by one. -/
theorem equals_list_iff {elements : List Value} :
    w.equals (.list kind elements) = .ok true ↔ ∃ kind' elements', w = .list kind' elements' ∧
      List.Forall₂ (fun a b => a.equals b = .ok true) elements' elements := by
  cases w with
  | list kind' elements' =>
    rw [list_equals_iff]
    constructor
    · rintro ⟨_, _, ⟨⟩, h⟩
      exact ⟨_, _, rfl, h⟩
    · rintro ⟨_, _, ⟨⟩, h⟩
      exact ⟨_, _, rfl, h⟩
  | _ => simp [equals]

mutual

/-- A value without unbound parts is equal to itself. -/
theorem equals_self : (v : Value) → v.isFullyBound = true → v.equals v = .ok true
  | .unbound _, h => by cases h
  | .scalar _ content, _ => by rw [equals, Scalar.equals_self]
  | .record _ fields, h => record_equals_iff.mpr ⟨_, _, rfl, fields_related_self fields h⟩
  | .union _ _ v, h => union_equals_iff.mpr ⟨_, _, rfl, equals_self v h⟩
  | .list _ elements, h => list_equals_iff.mpr ⟨_, _, rfl, elements_equal_self elements h⟩

theorem fields_related_self : (fields : List FieldValue) → fieldsFullyBound fields = true →
    List.Forall₂ (FieldValue.Related fun a b => a.equals b = .ok true) fields fields
  | [], _ => .nil
  | .omitted _ :: rest, h => .cons .omitted (fields_related_self rest h)
  | .present _ v :: rest, h => by
    rw [fieldsFullyBound, Bool.and_eq_true] at h
    exact .cons (.present (equals_self v h.1)) (fields_related_self rest h.2)

theorem elements_equal_self : (elements : List Value) → elementsFullyBound elements = true →
    List.Forall₂ (fun a b => a.equals b = .ok true) elements elements
  | [], _ => .nil
  | v :: rest, h => by
    rw [elementsFullyBound, Bool.and_eq_true] at h
    exact .cons (equals_self v h.1) (elements_equal_self rest h.2)

end

end Value

end TestSpec
