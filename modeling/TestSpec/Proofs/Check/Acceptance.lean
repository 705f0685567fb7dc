import TestSpec.Proofs.Check.Value

/-!
# Accepted values of any type

What it takes for a value to be accepted where a type may be silenced and may carry a
constraint.  A bound value is accepted by a type that is not silenced if four things
hold: the walk has room for it, the type accepts its kind, its parts are in order
(`Store.PartsInOrder`), and the constraint in force admits its literal
(`Store.Admits`).  Main statement: `Store.checkValue_ok_iff`.

A check that is content has found no complaint
(`Store.checkValue_complaints_eq_nil`).
-/

namespace TestSpec

namespace Findings

/-- A check is content only if it has found no complaint. -/
def IsFair (f : Findings) : Prop := f.ok = true → f.complaints = []

theorem clean_isFair : clean.IsFair := fun _ => rfl

theorem complaint_isFair (message : Message) (args : List String) :
    (complaint message args).IsFair := nofun

theorem and_isFair {f g : Findings} (hf : f.IsFair) (hg : g.IsFair) : (f.and g).IsFair := by
  intro h
  simp only [and, Bool.and_eq_true] at h
  simp [and, hf h.1, hg h.2]

end Findings

theorem Nesting.within_isFair {check : Nesting → Findings × Nesting}
    (h : ∀ n, (check n).1.IsFair) (n : Nesting) : (n.within check).1.IsFair := by
  unfold within
  split
  · exact nofun
  · rename_i deeper _
    exact h deeper

namespace Store

variable {s : Store}

/-! ### A check that is content has found no complaint -/

theorem checkConstraint_isFair (type : TypeId) (v : Value) :
    (s.checkConstraint type v).IsFair := by
  unfold checkConstraint
  split
  · split
    · exact Findings.clean_isFair
    · exact Findings.complaint_isFair _ _
  · exact Findings.clean_isFair

theorem checkEnumerator_isFair (type : TypeId) (name : String) :
    (s.checkEnumerator type name).IsFair := by
  unfold checkEnumerator
  split
  · exact Findings.clean_isFair
  split
  · exact Findings.clean_isFair
  · exact Findings.complaint_isFair _ _

theorem completeCheck_isFair {type : TypeId} {v : Value} {parts : Findings}
    (h : parts.IsFair) : (s.completeCheck type v parts).IsFair := by
  unfold completeCheck
  split
  · exact Findings.and_isFair h (checkConstraint_isFair type v)
  · exact h

mutual

theorem checkValue_isFair (type : TypeId) (n : Nesting) :
    (v : Value) → (s.checkValue type n v).1.IsFair
  | .unbound _ => by
    rw [checkValue_unbound]
    exact Nesting.within_isFair (fun _ => Findings.clean_isFair) n
  | .scalar kind content => by
    rw [checkValue_scalar]
    refine Nesting.within_isFair (fun n => ?_) n
    split
    · exact Findings.clean_isFair
    split
    · exact Findings.complaint_isFair _ _
    · refine completeCheck_isFair ?_
      split
      · exact checkEnumerator_isFair type _
      · exact Findings.clean_isFair
  | .record kind fields => by
    rw [checkValue_record]
    refine Nesting.within_isFair (fun n => ?_) n
    split
    · exact Findings.clean_isFair
    split
    · exact Findings.complaint_isFair _ _
    · exact completeCheck_isFair (checkFields_isFair type n fields)
  | .union kind alternative value => by
    rw [checkValue_union]
    refine Nesting.within_isFair (fun n => ?_) n
    split
    · exact Findings.clean_isFair
    split
    · exact Findings.complaint_isFair _ _
    split
    · exact Findings.complaint_isFair _ _
    · exact completeCheck_isFair (checkValue_isFair _ n value)
  | .list kind elements => by
    rw [checkValue_list]
    refine Nesting.within_isFair (fun n => ?_) n
    split
    · exact Findings.clean_isFair
    split
    · exact Findings.complaint_isFair _ _
    split
    · exact completeCheck_isFair Findings.clean_isFair
    · exact completeCheck_isFair (checkElements_isFair _ n elements)

theorem checkFields_isFair (type : TypeId) (n : Nesting) :
    (fields : List FieldValue) → (s.checkFields type n fields).1.IsFair
  | [] => by
    rw [checkFields]
    exact Findings.clean_isFair
  | .present name value :: rest => by
    rw [checkFields]
    cases s.fieldType type name with
    | none =>
      exact Findings.and_isFair (Findings.complaint_isFair _ _) (checkFields_isFair type n rest)
    | some t =>
      exact Findings.and_isFair (checkValue_isFair t n value) (checkFields_isFair type _ rest)
  | .omitted name :: rest => by
    rw [checkFields]
    refine Findings.and_isFair ?_ (checkFields_isFair type n rest)
    split
    · exact Findings.complaint_isFair _ _
    · exact Findings.clean_isFair

theorem checkElements_isFair (type : TypeId) (n : Nesting) :
    (elements : List Value) → (s.checkElements type n elements).1.IsFair
  | [] => by
    rw [checkElements]
    exact Findings.clean_isFair
  | value :: rest => by
    rw [checkElements]
    exact Findings.and_isFair (checkValue_isFair type n value) (checkElements_isFair type _ rest)

end

/-- A check of a value that is content has found no complaint. -/
theorem checkValue_complaints_eq_nil {type : TypeId} {n : Nesting} {v : Value}
    (h : (s.checkValue type n v).1.ok = true) : (s.checkValue type n v).1.complaints = [] :=
  checkValue_isFair type n v h

/-! ### What it takes to be accepted -/

/-- The parts of a value are in order for a type: it has the enumerator, the fields and the
alternative of the value, and the values in them, and all elements, are accepted in their turn. -/
def PartsInOrder (s : Store) (type : TypeId) (n : Nesting) : Value → Prop
  | .scalar _ (.enumerated name _) => (s.checkEnumerator type name).ok = true
  | .unbound _ | .scalar _ _ => True
  | .record _ fields => ∀ f ∈ fields, ∃ t, s.fieldType type f.name = some t ∧
      ∀ v ∈ f.value?, (s.checkValue t n v).1.ok = true
  | .union _ alternative value => ∃ t, s.fieldType type alternative = some t ∧
      (s.checkValue t n value).1.ok = true
  | .list _ elements =>
    ∀ t ∈ s.elementType type, ∀ v ∈ elements, (s.checkValue t n v).1.ok = true

/-- The constraint in force for a type, if there is one, admits the literal that a value corresponds
to, if it corresponds to one. -/
def Admits (s : Store) (type : TypeId) (v : Value) : Prop :=
  ∀ c ∈ s.effectiveConstraint type, ∀ x ∈ v.literal?, c.admits x = true

theorem checkConstraint_ok_iff {type : TypeId} {v : Value} :
    (s.checkConstraint type v).ok = true ↔ s.Admits type v := by
  unfold checkConstraint Admits
  cases s.effectiveConstraint type with
  | none => simp [Findings.clean]
  | some c =>
    cases v.literal? with
    | none => simp [Findings.clean]
    | some x => cases hx : c.admits x <;> simp [hx, Findings.clean, Findings.complaint]

theorem completeCheck_ok_iff {type : TypeId} {v : Value} {parts : Findings} :
    (s.completeCheck type v parts).ok = true ↔ parts.ok = true ∧ s.Admits type v := by
  rw [← checkConstraint_ok_iff]
  unfold completeCheck
  cases hparts : parts.ok <;> simp [hparts, Findings.and]

/-- **What it takes to be accepted.**  A value is accepted by a type if the walk has room for it and
either it is unbound, or the type is silenced, or the type accepts its kind, its parts are in order
one level deeper, and the constraint in force admits its literal. -/
theorem checkValue_ok_iff {type : TypeId} {n : Nesting} {v : Value} :
    (s.checkValue type n v).1.ok = true ↔ ∃ deeper, n.enter? = some deeper ∧
      (v.isBound = true → s.isSilenced type = false →
        s.acceptsKind type v.kind = true ∧ s.PartsInOrder type deeper v ∧ s.Admits type v) := by
  cases v with
  | unbound kind =>
    rw [checkValue_unbound, Nesting.within_ok_iff]
    simp [Value.isBound, Findings.clean]
  | scalar kind content =>
    rw [checkValue_scalar, Nesting.within_ok_iff]
    simp only [Value.isBound, Value.kind, forall_const]
    cases s.isSilenced type with
    | true => simp [Findings.clean]
    | false =>
      cases s.acceptsKind type kind with
      | false => simp [Findings.complaint]
      | true => cases content <;> simp [completeCheck_ok_iff, PartsInOrder, Findings.clean]
  | record kind fields =>
    rw [checkValue_record, Nesting.within_ok_iff]
    simp only [Value.isBound, Value.kind, forall_const, PartsInOrder, ← checkFields_ok_iff]
    cases s.isSilenced type with
    | true => simp [Findings.clean]
    | false => cases s.acceptsKind type kind <;> simp [completeCheck_ok_iff, Findings.complaint]
  | union kind alternative value =>
    rw [checkValue_union, Nesting.within_ok_iff]
    simp only [Value.isBound, Value.kind, forall_const, PartsInOrder]
    cases s.isSilenced type with
    | true => simp [Findings.clean]
    | false =>
      cases s.acceptsKind type kind with
      | false => simp [Findings.complaint]
      | true =>
        cases s.fieldType type alternative <;> simp [completeCheck_ok_iff, Findings.complaint]
  | list kind elements =>
    rw [checkValue_list, Nesting.within_ok_iff]
    simp only [Value.isBound, Value.kind, forall_const, PartsInOrder]
    cases s.isSilenced type with
    | true => simp [Findings.clean]
    | false =>
      cases s.acceptsKind type kind with
      | false => simp [Findings.complaint]
      | true =>
        cases s.elementType type with
        | none => simp [completeCheck_ok_iff, Findings.clean]
        | some t => simp [completeCheck_ok_iff, checkElements_ok_iff]

end Store

end TestSpec
