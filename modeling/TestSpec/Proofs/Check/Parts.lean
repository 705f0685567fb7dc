import TestSpec.Proofs.Check.Template

/-!
# Complaints about a value, part by part

A check of a value that has room to go deeper finds the complaints about the value itself
and those about its parts, one after another, all found at one nesting.

What is found about a part may be that it was given up, which is no complaint.  So the
complaints do not tell whether all parts were walked; the verdict on the value does.
-/

namespace TestSpec

namespace Store

variable {s : Store} {type last : TypeId} {n deeper : Nesting}

theorem checkValue_of_enter?_eq_none (h : n.enter? = none) (v : Value) :
    (s.checkValue type n v).1 = .abandoned := by
  cases v with
  | unbound => rw [checkValue_unbound, Nesting.within_of_none h]
  | scalar => rw [checkValue_scalar, Nesting.within_of_none h]
  | record => rw [checkValue_record, Nesting.within_of_none h]
  | union => rw [checkValue_union, Nesting.within_of_none h]
  | list => rw [checkValue_list, Nesting.within_of_none h]

/-- There is nothing to complain about for a silenced type. -/
theorem checkValue_of_isSilenced (h : s.isSilenced type = true) (v : Value) :
    (s.checkValue type n v).1.complaints = [] := by
  cases hdeeper : n.enter? with
  | none =>
    rw [checkValue_of_enter?_eq_none hdeeper]
    rfl
  | some deeper =>
    cases v with
    | unbound => rw [checkValue_unbound, Nesting.within_of_enter? hdeeper]; rfl
    | scalar => rw [checkValue_scalar, Nesting.within_of_enter? hdeeper, if_pos h]; rfl
    | record => rw [checkValue_record, Nesting.within_of_enter? hdeeper, if_pos h]; rfl
    | union => rw [checkValue_union, Nesting.within_of_enter? hdeeper, if_pos h]; rfl
    | list => rw [checkValue_list, Nesting.within_of_enter? hdeeper, if_pos h]; rfl

/-- The complaints about a field of a record. -/
def fieldComplaints (s : Store) (type : TypeId) (n : Nesting) (f : FieldValue) : List Complaint :=
  match s.fieldType type f.name with
  | none => [⟨.unknownField, [f.name, s.name type]⟩]
  | some t => f.value?.elim [] fun v => (s.checkValue t n v).1.complaints

theorem checkFields_complaints (fields : List FieldValue) :
    (s.checkFields type n fields).1.complaints = fields.flatMap (s.fieldComplaints type n) := by
  induction fields with
  | nil => rfl
  | cons f rest ih =>
    rw [List.flatMap_cons, ← ih]
    cases f with
    | present name value =>
      rw [checkFields, fieldComplaints, FieldValue.name]
      cases ht : s.fieldType type name with
      | none => rfl
      | some t =>
        simp only [checkValue_nesting t n value]
        rfl
    | omitted name =>
      rw [checkFields, fieldComplaints, FieldValue.name]
      cases ht : s.fieldType type name <;> rfl

theorem checkElements_complaints (elements : List Value) :
    (s.checkElements type n elements).1.complaints =
      elements.flatMap fun v => (s.checkValue type n v).1.complaints := by
  induction elements with
  | nil => rfl
  | cons v rest ih =>
    rw [List.flatMap_cons, ← ih, checkElements]
    simp only [checkValue_nesting type n v]
    rfl

/-- No constraint can name a value with parts, so that it adds nothing to what they draw. -/
theorem completeCheck_complaints {v : Value} (hliteral : v.literal? = none) (parts : Findings) :
    (s.completeCheck type v parts).complaints = parts.complaints := by
  have hclean : s.checkConstraint type v = .clean := by
    unfold checkConstraint
    rw [hliteral]
    cases s.effectiveConstraint type <;> rfl
  unfold completeCheck
  rw [hclean]
  split
  · exact List.append_nil _
  · rfl

section

variable (hdeeper : n.enter? = some deeper)

include hdeeper

theorem checkValue_record_complaints (kind : Kind) (fields : List FieldValue) :
    (s.checkValue type n (.record kind fields)).1.complaints =
      if s.isSilenced type then []
      else if !s.acceptsKind type kind then [⟨.incompatibleValue, [s.name type]⟩]
      else fields.flatMap (s.fieldComplaints type deeper) := by
  rw [checkValue_record, Nesting.within_of_enter? hdeeper, ← checkFields_complaints]
  split
  · rfl
  split
  · rfl
  · exact completeCheck_complaints rfl _

theorem checkValue_union_complaints (kind : Kind) (alternative : String) (v : Value) :
    (s.checkValue type n (.union kind alternative v)).1.complaints =
      if s.isSilenced type then []
      else if !s.acceptsKind type kind then [⟨.incompatibleValue, [s.name type]⟩]
      else match s.fieldType type alternative with
        | none => [⟨.unknownAlternative, [alternative, s.name type]⟩]
        | some t => (s.checkValue t deeper v).1.complaints := by
  rw [checkValue_union, Nesting.within_of_enter? hdeeper]
  split
  · rfl
  split
  · rfl
  cases s.fieldType type alternative with
  | none => rfl
  | some t => exact completeCheck_complaints rfl _

theorem checkValue_list_complaints (kind : Kind) (elements : List Value) :
    (s.checkValue type n (.list kind elements)).1.complaints =
      if s.isSilenced type then []
      else if !s.acceptsKind type kind then [⟨.incompatibleValue, [s.name type]⟩]
      else (s.elementType type).elim [] fun t =>
        elements.flatMap fun v => (s.checkValue t deeper v).1.complaints := by
  rw [checkValue_list, Nesting.within_of_enter? hdeeper]
  split
  · rfl
  split
  · rfl
  cases s.elementType type with
  | none => exact completeCheck_complaints rfl _
  | some t => exact (completeCheck_complaints rfl _).trans (checkElements_complaints elements)

end

end Store

end TestSpec
