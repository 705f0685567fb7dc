import TestSpec.Check.Template
import TestSpec.Proofs.Check.Value
import TestSpec.Proofs.Store.Resolve

/-!
# What the check of a template finds

A check of a template leaves the nesting as it was (`Store.checkTemplate_nesting`).
A type is **checked** if it is not silenced; for such a type the check of a template
that is not nested too deep finds the complaints about its modifiers and those about its
selector, one after another (`Store.checkTemplate_findings`), and none exactly if there are
none of either (`Store.checkTemplate_eq_nil_iff`).  Templates in a list are checked one by
one, all at one nesting.

How deep a template is nested is its `Template.height`.
-/

namespace TestSpec

namespace Template

mutual

/-- How many templates are nested in one another, the template itself included. -/
def height : Template → Nat
  | .mk selector _ _ => selectorHeight selector + 1

/-- How many templates are nested in one another inside a selector. -/
def selectorHeight : Selector → Nat
  | .record _ fields => fieldsHeight fields
  | .union _ _ template => height template
  | .elements _ items | .valueList items | .complement items => itemsHeight items
  | .decoded _ inner => height inner
  | .uninitialized | .omit | .any | .anyOrOmit | .specific _ | .range _ | .pattern _ => 0

/-- How many templates are nested in one another in field templates. -/
def fieldsHeight : List FieldTemplate → Nat
  | [] => 0
  | .mk _ template :: rest => max (height template) (fieldsHeight rest)

/-- How many templates are nested in one another in a list. -/
def itemsHeight : List Template → Nat
  | [] => 0
  | template :: rest => max (height template) (itemsHeight rest)

end

theorem height_eq (t : Template) : t.height = selectorHeight t.selector + 1 := by
  cases t with
  | mk selector ifPresent length => rfl

theorem height_le_fieldsHeight {f : FieldTemplate} {fields : List FieldTemplate}
    (h : f ∈ fields) : f.template.height ≤ fieldsHeight fields := by
  induction fields with
  | nil => cases h
  | cons g rest ih =>
    obtain ⟨name, template⟩ := g
    rw [fieldsHeight]
    rcases List.mem_cons.mp h with rfl | h
    · exact Nat.le_max_left _ _
    · exact Nat.le_trans (ih h) (Nat.le_max_right _ _)

theorem height_le_itemsHeight {t : Template} {items : List Template} (h : t ∈ items) :
    t.height ≤ itemsHeight items := by
  induction items with
  | nil => cases h
  | cons u rest ih =>
    rw [itemsHeight]
    rcases List.mem_cons.mp h with rfl | h
    · exact Nat.le_max_left _ _
    · exact Nat.le_trans (ih h) (Nat.le_max_right _ _)

end Template

namespace Store

variable {s : Store}

/-! ### Nesting -/

theorem checkTemplate_mk (type : TypeId) (isOptional : Bool) (n : Nesting) (selector : Selector)
    (ifPresent : Bool) (length : Option LengthRestriction) :
    s.checkTemplate type isOptional n (.mk selector ifPresent length) = n.within fun n =>
      if s.isSilenced type then (.clean, n)
      else match s.resolveAlias? type with
        | none => (.clean, n)
        | some last =>
          let d := s.get last
          let modifiers :=
            (if ifPresent && !isOptional then [⟨.ifPresentNotAllowed, []⟩] else []) ++
              length.elim [] (lengthComplaints d.kind (s.name type))
          let (selected, n) := s.checkSelector type last isOptional n selector
          (.ofComplaints (modifiers ++ selected), n) := rfl

mutual

/-- The check of a template comes back at the nesting it was started with. -/
theorem checkTemplate_nesting (type : TypeId) (isOptional : Bool) (n : Nesting) :
    (t : Template) → (s.checkTemplate type isOptional n t).2 = n
  | .mk selector ifPresent length => by
    rw [checkTemplate_mk]
    refine Nesting.within_nesting (fun n => ?_) n
    split
    · rfl
    split
    · rfl
    · exact checkSelector_nesting type _ isOptional n selector

/-- The check of a selector comes back at the nesting it was started with. -/
theorem checkSelector_nesting (type last : TypeId) (isOptional : Bool) (n : Nesting) :
    (selector : Selector) → (s.checkSelector type last isOptional n selector).2 = n
  | .uninitialized | .any | .anyOrOmit | .omit => rfl
  | .specific value => s.checkValue_nesting type n value
  | .record kind fields => by
    rw [checkSelector]
    dsimp only
    split
    · exact checkFieldTemplates_nesting type _ n fields
    · rfl
  | .union kind alternative template => by
    rw [checkSelector]
    split
    · split
      · exact checkTemplate_nesting _ false n template
      · rfl
    · rfl
  | .elements kind items => by
    rw [checkSelector]
    dsimp only
    split
    · split
      · exact checkTemplates_nesting _ false n items
      · rfl
    · rfl
  | .valueList items => checkTemplates_nesting type isOptional n items
  | .complement items => checkTemplates_nesting type isOptional n items
  | .range r => by
    rw [checkSelector]
    split <;> rfl
  | .decoded target inner => by
    rw [checkSelector]
    split
    · split
      · exact checkTemplate_nesting _ false n inner
      · rfl
    · rfl
  | .pattern p => by
    rw [checkSelector]
    split <;> rfl

/-- The check of field templates comes back at the nesting it was started with. -/
theorem checkFieldTemplates_nesting (type : TypeId) (d : Declaration) (n : Nesting) :
    (fields : List FieldTemplate) → (s.checkFieldTemplates type d n fields).2 = n
  | [] => rfl
  | .mk name template :: rest => by
    rw [checkFieldTemplates]
    cases d.field? name with
    | none => exact checkFieldTemplates_nesting type d n rest
    | some f =>
      dsimp only
      cases s.resolveRef? f.type with
      | none => exact checkFieldTemplates_nesting type d n rest
      | some t =>
        simp only [checkTemplate_nesting t f.isOptional n template]
        exact checkFieldTemplates_nesting type d n rest

/-- The check of templates for one type comes back at the nesting it was started with. -/
theorem checkTemplates_nesting (type : TypeId) (isOptional : Bool) (n : Nesting) :
    (items : List Template) → (s.checkTemplates type isOptional n items).2 = n
  | [] => rfl
  | template :: rest => by
    rw [checkTemplates]
    simp only [checkTemplate_nesting type isOptional n template]
    exact checkTemplates_nesting type isOptional n rest

end

/-! ### Complaints, part by part -/

section

variable {type last : TypeId} {n deeper : Nesting}

/-- The complaints about a template for a field of a declaration. -/
def fieldTemplateComplaints (s : Store) (type : TypeId) (d : Declaration) (n : Nesting)
    (f : FieldTemplate) : List Complaint :=
  match d.field? f.name with
  | none => [⟨.unknownField, [f.name, s.name type]⟩]
  | some g => (s.resolveRef? g.type).elim [] fun t =>
    (s.checkTemplate t g.isOptional n f.template).1.complaints

theorem checkFieldTemplates_complaints (d : Declaration) (fields : List FieldTemplate) :
    (s.checkFieldTemplates type d n fields).1 =
      fields.flatMap (s.fieldTemplateComplaints type d n) := by
  induction fields with
  | nil => rfl
  | cons f rest ih =>
    obtain ⟨name, template⟩ := f
    rw [List.flatMap_cons, ← ih, checkFieldTemplates, fieldTemplateComplaints, FieldTemplate.name]
    cases d.field? name with
    | none => rfl
    | some g =>
      cases ht : s.resolveRef? g.type with
      | none => simp only [ht, Option.elim_none]
      | some t =>
        simp only [ht, checkTemplate_nesting t g.isOptional n template]
        rfl

theorem checkTemplates_complaints (isOptional : Bool) (items : List Template) :
    (s.checkTemplates type isOptional n items).1 =
      items.flatMap fun t => (s.checkTemplate type isOptional n t).1.complaints := by
  induction items with
  | nil => rfl
  | cons t rest ih =>
    rw [List.flatMap_cons, ← ih, checkTemplates]
    simp only [checkTemplate_nesting type isOptional n t]

/-- The complaints about the modifiers of a template. -/
def modifierComplaints (s : Store) (type last : TypeId) (isOptional : Bool) (t : Template) :
    List Complaint :=
  (if t.ifPresent && !isOptional then [⟨.ifPresentNotAllowed, []⟩] else []) ++
    t.length.elim [] (lengthComplaints (s.get last).kind (s.name type))

/-- The verdict on a template with room to go deeper is read off the complaints about its modifiers
and its selector. -/
theorem checkTemplate_findings (hdeeper : n.enter? = some deeper) (isOptional : Bool)
    (t : Template) :
    (s.checkTemplate type isOptional n t).1 =
      .ofComplaints (if s.isSilenced type then []
        else (s.resolveAlias? type).elim [] fun last =>
          s.modifierComplaints type last isOptional t ++
            (s.checkSelector type last isOptional deeper t.selector).1) := by
  obtain ⟨selector, ifPresent, length⟩ := t
  rw [checkTemplate_mk, Nesting.within_of_enter? hdeeper]
  split
  · rfl
  cases s.resolveAlias? type <;> rfl

/-- A template with room to go deeper is in order exactly if no complaint about it is an error. -/
theorem checkTemplate_ok_iff (hdeeper : n.enter? = some deeper) (isOptional : Bool) (t : Template) :
    (s.checkTemplate type isOptional n t).1.ok = true ↔
      ∀ c ∈ (s.checkTemplate type isOptional n t).1.complaints, c.isError = false := by
  rw [checkTemplate_findings hdeeper]
  simp [Findings.ofComplaints]

end

/-! ### Checks that find no complaint -/

/-- No complaint is found about field templates exactly if each stands for a field of the type, and
none is found about its template. -/
theorem checkFieldTemplates_eq_nil_iff {type : TypeId} {d : Declaration} {n : Nesting}
    {fields : List FieldTemplate} :
    (s.checkFieldTemplates type d n fields).1 = [] ↔
      ∀ f ∈ fields, ∃ g, d.field? f.name = some g ∧ ∀ t ∈ s.resolveRef? g.type,
        (s.checkTemplate t g.isOptional n f.template).1.complaints = [] := by
  rw [checkFieldTemplates_complaints, List.flatMap_eq_nil_iff]
  refine forall₂_congr fun f _ => ?_
  rw [fieldTemplateComplaints]
  cases d.field? f.name with
  | none => simp
  | some g => cases ht : s.resolveRef? g.type <;> simp [ht]

/-- No complaint is found about templates for one type exactly if none is found about each. -/
theorem checkTemplates_eq_nil_iff {type : TypeId} {isOptional : Bool} {n : Nesting}
    {items : List Template} :
    (s.checkTemplates type isOptional n items).1 = [] ↔
      ∀ t ∈ items, (s.checkTemplate type isOptional n t).1.complaints = [] := by
  rw [checkTemplates_complaints, List.flatMap_eq_nil_iff]

/-- Where there is room to go deeper, no complaint is found about a template for a type that is not
silenced exactly if none is found about its modifiers and its selector. -/
theorem checkTemplate_eq_nil_iff {type last : TypeId} {isOptional : Bool} {n deeper : Nesting}
    {t : Template} (hsilenced : s.isSilenced type = false)
    (hlast : s.resolveAlias? type = some last) (hdeeper : n.enter? = some deeper) :
    (s.checkTemplate type isOptional n t).1.complaints = [] ↔
      (t.ifPresent = true → isOptional = true) ∧
        (∀ r ∈ t.length, lengthComplaints (s.get last).kind (s.name type) r = []) ∧
        (s.checkSelector type last isOptional deeper t.selector).1 = [] := by
  rw [checkTemplate_findings hdeeper, hsilenced, hlast]
  simp only [Bool.false_eq_true, if_false, Option.elim_some, Findings.ofComplaints,
    modifierComplaints, List.append_eq_nil_iff, and_assoc]
  refine and_congr ?_ (and_congr ?_ Iff.rfl)
  · cases t.ifPresent <;> cases isOptional <;> simp
  · cases t.length <;> simp

/-- A length restriction without a complaint stands on a type whose values have a length. -/
theorem hasLength_of_lengthComplaints {kind : Kind} {typeName : String} {r : LengthRestriction}
    (h : lengthComplaints kind typeName r = []) : kind.hasLength = true := by
  cases hkind : kind.hasLength with
  | true => rfl
  | false => simp [lengthComplaints, hkind] at h

/-! What a selector without a complaint stands for, by the form of the selector. -/

section

variable {type last : TypeId} {isOptional : Bool} {n : Nesting}

theorem checkSelector_record_eq_nil {kind : Kind} {fields : List FieldTemplate}
    (h : (s.checkSelector type last isOptional n (.record kind fields)).1 = []) :
    ((s.get last).kind.isRecordLike || (s.get last).kind.isSetLike) = true ∧
      ∀ f ∈ fields, ∃ g, (s.get last).field? f.name = some g ∧ ∀ t ∈ s.resolveRef? g.type,
        (s.checkTemplate t g.isOptional n f.template).1.complaints = [] := by
  rw [checkSelector] at h
  dsimp only at h
  split at h
  · rename_i hform
    rw [List.append_eq_nil_iff] at h
    exact ⟨hform, checkFieldTemplates_eq_nil_iff.mp h.1⟩
  · cases h

theorem checkSelector_union_eq_nil {kind : Kind} {alternative : String} {template : Template}
    (h : (s.checkSelector type last isOptional n (.union kind alternative template)).1 = []) :
    (s.get last).kind.isUnionLike = true ∧ ∃ t, s.fieldType last alternative = some t ∧
      (s.checkTemplate t false n template).1.complaints = [] := by
  rw [checkSelector] at h
  split at h
  · rename_i hform
    split at h
    · rename_i t ht
      exact ⟨hform, t, ht, h⟩
    · cases h
  · cases h

theorem checkSelector_elements_eq_nil {kind : Kind} {items : List Template}
    (h : (s.checkSelector type last isOptional n (.elements kind items)).1 = []) :
    (s.get last).kind.isList = true ∧ ∀ t ∈ s.elementType last, ∀ item ∈ items,
      (s.checkTemplate t false n item).1.complaints = [] := by
  rw [checkSelector] at h
  dsimp only at h
  split at h
  · rename_i hform
    refine ⟨hform, fun t ht => ?_⟩
    simp only [Option.mem_def.mp ht, List.append_eq_nil_iff] at h
    exact checkTemplates_eq_nil_iff.mp h.2
  · cases h

theorem checkSelector_range_eq_nil {r : ValueRange}
    (h : (s.checkSelector type last isOptional n (.range r)).1 = []) :
    (s.get last).kind.isOrdered = true := by
  rw [checkSelector] at h
  split at h
  · assumption
  · cases h

theorem checkSelector_decoded_eq_nil {target : DecodeTarget} {inner : Template}
    (h : (s.checkSelector type last isOptional n (.decoded target inner)).1 = []) :
    (s.get last).kind.isString = true ∧ ∀ t ∈ s.lookup target.name,
      (s.checkTemplate t false n inner).1.complaints = [] := by
  rw [checkSelector] at h
  split at h
  · rename_i hform
    refine ⟨hform, fun t ht => ?_⟩
    simp only [Option.mem_def.mp ht] at h
    exact h
  · cases h

theorem checkSelector_pattern_eq_nil {p : Pattern}
    (h : (s.checkSelector type last isOptional n (.pattern p)).1 = []) :
    (s.get last).kind.isCharacterString = true := by
  rw [checkSelector] at h
  split at h
  · assumption
  · cases h

end

end Store

end TestSpec
