import TestSpec.Check.Value
import TestSpec.Proofs.Store.Resolve

/-!
# What it takes for a value to be accepted

A check of a value comes back at the nesting it was started with
(`Store.checkValue_nesting`), so that all parts of a value are checked at one
nesting, and the fields and elements of a value are in order exactly if each of them
is (`Store.checkFields_ok_iff`, `Store.checkElements_ok_iff`).

Where a type is **plain**, nothing that it reaches silences or refines a check, and
what is accepted is read off the value: a kind that the type accepts, parts that it
has, and parts that are accepted in their turn.
-/

namespace TestSpec

namespace Nesting

variable {n deeper : Nesting}

theorem leave_of_enter? (h : n.enter? = some deeper) : deeper.leave = n := by
  unfold enter? at h
  split at h
  · obtain rfl := Option.some.inj h
    simp [leave]
  · cases h

/-- A check one level deeper comes back where it started if the check inside does. -/
theorem within_nesting {check : Nesting → Findings × Nesting} (hcheck : ∀ n, (check n).2 = n)
    (n : Nesting) : (n.within check).2 = n := by
  unfold within
  split
  · rfl
  · rename_i deeper hdeeper
    rw [← leave_of_enter? hdeeper]
    simp only [hcheck]

/-- How many levels deeper a walk may go. -/
def room (n : Nesting) : Nat := n.maxDepth - n.depth

theorem room_of_enter? (h : n.enter? = some deeper) : n.room = deeper.room + 1 := by
  unfold enter? at h
  split at h
  · obtain rfl := Option.some.inj h
    simp only [room]
    omega
  · cases h

theorem enter?_eq_none_iff : n.enter? = none ↔ n.room = 0 := by
  simp only [enter?, room, ite_eq_right_iff, reduceCtorEq, imp_false, Nat.not_lt]
  omega

theorem exists_deeper {r : Nat} (h : n.room = r + 1) :
    ∃ deeper, n.enter? = some deeper ∧ deeper.room = r := by
  cases hdeeper : n.enter? with
  | none =>
    rw [enter?_eq_none_iff.mp hdeeper] at h
    cases h
  | some deeper => exact ⟨deeper, rfl, Nat.succ.inj ((room_of_enter? hdeeper).symm.trans h)⟩

theorem exists_deeper_of_lt {r : Nat} (h : r < n.room) :
    ∃ deeper, n.enter? = some deeper ∧ r ≤ deeper.room := by
  obtain ⟨deeper, hdeeper, hroom⟩ := exists_deeper (Nat.sub_add_cancel (Nat.one_le_of_lt h)).symm
  exact ⟨deeper, hdeeper, by omega⟩

/-- A check with room to go deeper finds what is found there. -/
theorem within_of_enter? {check : Nesting → Findings × Nesting}
    (h : n.enter? = some deeper) : (n.within check).1 = (check deeper).1 := by
  simp only [within, h]

/-- A check without room to go deeper is given up. -/
theorem within_of_none {check : Nesting → Findings × Nesting}
    (h : n.enter? = none) : (n.within check).1 = .abandoned := by
  simp only [within, h]

/-- A check one level deeper is content if there is room for it and it is content there. -/
theorem within_ok_iff {n : Nesting} {check : Nesting → Findings × Nesting} :
    (n.within check).1.ok = true ↔
      ∃ deeper, n.enter? = some deeper ∧ (check deeper).1.ok = true := by
  unfold within
  cases n.enter? <;> simp [Findings.abandoned]

end Nesting

namespace Store

variable {s : Store}

/-! ### The check of a value, by the form of the value -/

theorem checkValue_unbound (type : TypeId) (n : Nesting) (kind : Kind) :
    s.checkValue type n (.unbound kind) = n.within fun n => (.clean, n) := rfl

theorem checkValue_scalar (type : TypeId) (n : Nesting) (kind : Kind) (content : Scalar) :
    s.checkValue type n (.scalar kind content) = n.within fun n =>
      if s.isSilenced type then (.clean, n)
      else if !s.acceptsKind type kind then (.complaint .incompatibleValue [s.name type], n)
      else
        let parts := match content with
          | .enumerated name _ => s.checkEnumerator type name
          | _ => .clean
        (s.completeCheck type (.scalar kind content) parts, n) := rfl

theorem checkValue_record (type : TypeId) (n : Nesting) (kind : Kind)
    (fields : List FieldValue) :
    s.checkValue type n (.record kind fields) = n.within fun n =>
      if s.isSilenced type then (.clean, n)
      else if !s.acceptsKind type kind then (.complaint .incompatibleValue [s.name type], n)
      else
        let (parts, n) := s.checkFields type n fields
        (s.completeCheck type (.record kind fields) parts, n) := rfl

theorem checkValue_union (type : TypeId) (n : Nesting) (kind : Kind) (alternative : String)
    (value : Value) :
    s.checkValue type n (.union kind alternative value) = n.within fun n =>
      if s.isSilenced type then (.clean, n)
      else if !s.acceptsKind type kind then (.complaint .incompatibleValue [s.name type], n)
      else
        match s.fieldType type alternative with
        | none => (.complaint .unknownAlternative [alternative, s.name type], n)
        | some t =>
          let (parts, n) := s.checkValue t n value
          (s.completeCheck type (.union kind alternative value) parts, n) := rfl

theorem checkValue_list (type : TypeId) (n : Nesting) (kind : Kind) (elements : List Value) :
    s.checkValue type n (.list kind elements) = n.within fun n =>
      if s.isSilenced type then (.clean, n)
      else if !s.acceptsKind type kind then (.complaint .incompatibleValue [s.name type], n)
      else
        match s.elementType type with
        | none => (s.completeCheck type (.list kind elements) .clean, n)
        | some t =>
          let (parts, n) := s.checkElements t n elements
          (s.completeCheck type (.list kind elements) parts, n) := rfl

/-! ### Nesting -/

mutual

/-- The check of a value comes back at the nesting it was started with. -/
theorem checkValue_nesting (type : TypeId) (n : Nesting) :
    (v : Value) → (s.checkValue type n v).2 = n
  | .unbound _ => by
    rw [checkValue_unbound]
    exact Nesting.within_nesting (fun _ => rfl) n
  | .scalar kind content => by
    rw [checkValue_scalar]
    refine Nesting.within_nesting (fun n => ?_) n
    split
    · rfl
    split <;> rfl
  | .record kind fields => by
    rw [checkValue_record]
    refine Nesting.within_nesting (fun n => ?_) n
    split
    · rfl
    split
    · rfl
    · exact checkFields_nesting type n fields
  | .union kind alternative value => by
    rw [checkValue_union]
    refine Nesting.within_nesting (fun n => ?_) n
    split
    · rfl
    split
    · rfl
    split
    · rfl
    · exact checkValue_nesting _ n value
  | .list kind elements => by
    rw [checkValue_list]
    refine Nesting.within_nesting (fun n => ?_) n
    split
    · rfl
    split
    · rfl
    split
    · rfl
    · exact checkElements_nesting _ n elements

/-- The check of fields comes back at the nesting it was started with. -/
theorem checkFields_nesting (type : TypeId) (n : Nesting) :
    (fields : List FieldValue) → (s.checkFields type n fields).2 = n
  | [] => by rw [checkFields]
  | .present name value :: rest => by
    rw [checkFields]
    cases s.fieldType type name with
    | none => exact checkFields_nesting type n rest
    | some t =>
      simp only [checkValue_nesting t n value]
      exact checkFields_nesting type n rest
  | .omitted name :: rest => by
    rw [checkFields]
    exact checkFields_nesting type n rest

/-- The check of elements comes back at the nesting it was started with. -/
theorem checkElements_nesting (type : TypeId) (n : Nesting) :
    (elements : List Value) → (s.checkElements type n elements).2 = n
  | [] => by rw [checkElements]
  | value :: rest => by
    rw [checkElements]
    simp only [checkValue_nesting type n value]
    exact checkElements_nesting type n rest

end

/-! ### What is in order -/

/-- Fields are in order if each is a field of the type, and its value, if it has one, is accepted
by the type of the field. -/
theorem checkFields_ok_iff {type : TypeId} {n : Nesting} {fields : List FieldValue} :
    (s.checkFields type n fields).1.ok = true ↔
      ∀ f ∈ fields, ∃ t, s.fieldType type f.name = some t ∧
        ∀ v ∈ f.value?, (s.checkValue t n v).1.ok = true := by
  induction fields with
  | nil => simp [checkFields, Findings.clean]
  | cons f rest ih =>
    rw [List.forall_mem_cons, ← ih]
    cases f with
    | present name value =>
      rw [checkFields]
      cases ht : s.fieldType type name with
      | none => simp [FieldValue.name, ht, Findings.and, Findings.complaint]
      | some t =>
        simp [FieldValue.name, FieldValue.value?, ht, Findings.and, checkValue_nesting t n value]
    | omitted name =>
      rw [checkFields]
      cases ht : s.fieldType type name <;>
        simp [FieldValue.name, FieldValue.value?, ht, Findings.and, Findings.complaint,
          Findings.clean]

/-- Elements are in order if each is accepted by the type of the elements. -/
theorem checkElements_ok_iff {type : TypeId} {n : Nesting} {elements : List Value} :
    (s.checkElements type n elements).1.ok = true ↔
      ∀ v ∈ elements, (s.checkValue type n v).1.ok = true := by
  induction elements with
  | nil => simp [checkElements, Findings.clean]
  | cons v rest ih =>
    rw [List.forall_mem_cons, ← ih, checkElements]
    simp [Findings.and, checkValue_nesting type n v]

/-- Without a constraint in force, nothing is added to what is found in the parts. -/
theorem completeCheck_ok {type : TypeId} {v : Value} {parts : Findings}
    (h : s.effectiveConstraint type = none) :
    (s.completeCheck type v parts).ok = parts.ok := by
  unfold completeCheck checkConstraint
  rw [h]
  cases hparts : parts.ok <;> simp [hparts, Findings.and, Findings.clean]

/-! ### When a plain type accepts a value -/

/-- Nothing in a declaration silences or refines a check: its alias chain has an end, each of its
references a declaration, its kind is defined, and it carries neither a constraint nor an erroneous
mark. -/
structure PlainAt (s : Store) (u : TypeId) : Prop where
  resolves : (s.resolveAlias? u).isSome = true
  refers : ∀ r ∈ (s.get u).memberTypes, (s.resolveRef? r).isSome = true
  defined : (s.get u).kind ≠ .undefined
  unconstrained : (s.get u).constraint = none
  unmarked : (s.get u).isErroneous = false

/-- A type is plain if every declaration that it reaches is. -/
def Plain (s : Store) (type : TypeId) : Prop := ∀ u, s.Reaches type u → s.PlainAt u

namespace Plain

variable {type : TypeId}

theorem of_reaches {u : TypeId} (h : s.Plain type) (hu : s.Reaches type u) : s.Plain u :=
  fun v hv => h v (hu.trans hv)

/-- In a store of plain declarations alone, every type is plain. -/
theorem of_size (h : ∀ u < s.size, s.PlainAt u) (htype : type < s.size) : s.Plain type := by
  intro u hu
  have hlt : u < s.size := by
    cases hu with
    | refl => exact htype
    | target _ hnext => exact lt_size_of_nextAlias? hnext
    | member _ _ hv => exact lt_size_of_resolveRef? hv
  exact h u hlt

theorem isErroneous (h : s.Plain type) : s.isErroneous type = false :=
  isErroneous_eq_false fun u hu => (h u hu).unmarked

theorem exists_last (h : s.Plain type) : ∃ last, s.resolveAlias? type = some last :=
  Option.isSome_iff_exists.mp (h type .refl).resolves

theorem isSilenced (h : s.Plain type) : s.isSilenced type = false :=
  isSilenced_eq_false_iff.mpr ⟨h.isErroneous, h.exists_last⟩

theorem effectiveConstraint (h : s.Plain type) : s.effectiveConstraint type = none :=
  effectiveConstraint_eq_none fun u hu => (h u hu).unconstrained

theorem scalar_ok_iff (h : s.Plain type) {n : Nesting} {kind : Kind} {content : Scalar} :
    (s.checkValue type n (.scalar kind content)).1.ok = true ↔
      (∃ deeper, n.enter? = some deeper) ∧ s.acceptsKind type kind = true ∧
        ∀ name ordinal, content = .enumerated name ordinal →
          (s.checkEnumerator type name).ok = true := by
  rw [checkValue_scalar, Nesting.within_ok_iff]
  simp only [h.isSilenced, Bool.false_eq_true, if_false]
  cases s.acceptsKind type kind with
  | false => simp [Findings.complaint]
  | true => cases content <;> simp [completeCheck_ok h.effectiveConstraint, Findings.clean]

theorem record_ok_iff (h : s.Plain type) {n : Nesting} {kind : Kind} {fields : List FieldValue} :
    (s.checkValue type n (.record kind fields)).1.ok = true ↔
      ∃ deeper, n.enter? = some deeper ∧ s.acceptsKind type kind = true ∧
        ∀ f ∈ fields, ∃ t, s.fieldType type f.name = some t ∧
          ∀ v ∈ f.value?, (s.checkValue t deeper v).1.ok = true := by
  rw [checkValue_record, Nesting.within_ok_iff]
  simp only [h.isSilenced, Bool.false_eq_true, if_false, ← checkFields_ok_iff]
  cases s.acceptsKind type kind with
  | false => simp [Findings.complaint]
  | true => simp [completeCheck_ok h.effectiveConstraint]

theorem union_ok_iff (h : s.Plain type) {n : Nesting} {kind : Kind} {alternative : String}
    {value : Value} :
    (s.checkValue type n (.union kind alternative value)).1.ok = true ↔
      ∃ deeper, n.enter? = some deeper ∧ s.acceptsKind type kind = true ∧
        ∃ t, s.fieldType type alternative = some t ∧
          (s.checkValue t deeper value).1.ok = true := by
  rw [checkValue_union, Nesting.within_ok_iff]
  simp only [h.isSilenced, Bool.false_eq_true, if_false]
  cases s.acceptsKind type kind with
  | false => simp [Findings.complaint]
  | true =>
    cases s.fieldType type alternative with
    | none => simp [Findings.complaint]
    | some t => simp [completeCheck_ok h.effectiveConstraint]

theorem list_ok_iff (h : s.Plain type) {n : Nesting} {kind : Kind} {elements : List Value} :
    (s.checkValue type n (.list kind elements)).1.ok = true ↔
      ∃ deeper, n.enter? = some deeper ∧ s.acceptsKind type kind = true ∧
        ∀ t ∈ s.elementType type, ∀ v ∈ elements, (s.checkValue t deeper v).1.ok = true := by
  rw [checkValue_list, Nesting.within_ok_iff]
  simp only [h.isSilenced, Bool.false_eq_true, if_false]
  cases s.acceptsKind type kind with
  | false => simp [Findings.complaint]
  | true =>
    cases s.elementType type with
    | none => simp [completeCheck_ok h.effectiveConstraint, Findings.clean]
    | some t => simp [completeCheck_ok h.effectiveConstraint, checkElements_ok_iff]

end Plain

end Store

end TestSpec
