import TestSpec.Proofs.Check.Session
import TestSpec.Proofs.Check.Value
import TestSpec.Proofs.Document.Shape
import TestSpec.Proofs.Matching.Operations

/-!
# What a check finds in a value that was read

A value that a document gives for a type has the form of the type: no part of it is
unbound, its fields and alternatives are those of the type, and the kind of each node is
the kind that its type resolves to.  A check of the value walks the same types as the
reader, and every kind that values are read for accepts itself.  So there are only two
things that it can complain about, and both concern the content alone: an enumerator that
the type does not have, and a constraint that is not satisfied.

Main statement: `Check.value_of_readValue`.
-/

namespace TestSpec

/-- The complaint concerns the content of a value, not its form. -/
def Complaint.IsAboutContent (c : Complaint) : Prop :=
  c.message = .unknownEnumerator ∨ c.message = .subtypeMismatch

/-- Every kind accepts itself, but for references and fields of object classes, of which there are
no values. -/
theorem Kind.accepts_self {k : Kind} (hreference : k ≠ .referenced)
    (hclass : k ≠ .objectClassField) (d : Dialect) : k.accepts k d .ttcn3 = true := by
  cases k with
  | referenced => exact absurd rfl hreference
  | objectClassField => exact absurd rfl hclass
  | _ => rfl

/-- What a check finds one level deeper is what it finds there, if there is room for it. -/
theorem Nesting.within_complaints {n : Nesting} {check : Nesting → Findings × Nesting}
    {c : Complaint} (hc : c ∈ (n.within check).1.complaints) :
    ∃ deeper, c ∈ (check deeper).1.complaints := by
  unfold within at hc
  split at hc
  · cases hc
  · exact ⟨_, hc⟩

namespace Store

variable {s : Store} {R : Kind → Kind → Prop} {isNumeric : Bool} {type : TypeId} {v : Value}

/-- A value that has the form of a type is of a kind that has values. -/
theorem Shaped.accepts_self (h : s.Shaped R isNumeric type v) (d : Dialect) :
    v.kind.accepts v.kind d .ttcn3 = true := by
  cases h with
  | @scalar type last kind content _ _ hcontent =>
    refine Kind.accepts_self ?_ ?_ d
    all_goals
      rintro rfl
      cases content <;> cases hcontent
  | record _ _ hform | union _ _ hform | list _ _ hform =>
    refine Kind.accepts_self ?_ ?_ d
    all_goals
      rintro rfl
      cases hform

/-- The kind of a value that was read for a type is accepted by the type. -/
theorem Shaped.acceptsKind (h : s.Shaped Eq isNumeric type v) :
    s.acceptsKind type v.kind = true := by
  obtain ⟨last, hlast⟩ := h.exists_last
  have hkind : v.kind = (s.get last).kind := by
    cases h with
    | scalar hlast' hkind | record hlast' hkind | union hlast' hkind | list hlast' hkind =>
      obtain rfl := Option.some.inj (hlast.symm.trans hlast')
      exact hkind
  rw [Store.acceptsKind, resolvedKind_eq hlast, ← hkind]
  exact h.accepts_self _

/-! ### The walk of a check -/

theorem checkEnumerator_isAboutContent {name : String} {c : Complaint}
    (hc : c ∈ (s.checkEnumerator type name).complaints) : c.IsAboutContent := by
  unfold checkEnumerator at hc
  split at hc
  · cases hc
  split at hc
  · cases hc
  · obtain rfl := List.mem_singleton.mp hc
    exact .inl rfl

/-- The constraint adds a complaint about the content to what was found in the parts. -/
theorem completeCheck_isAboutContent {parts : Findings}
    (hparts : ∀ c ∈ parts.complaints, c.IsAboutContent) {c : Complaint}
    (hc : c ∈ (s.completeCheck type v parts).complaints) : c.IsAboutContent := by
  have hconstraint (hc : c ∈ (s.checkConstraint type v).complaints) : c.IsAboutContent := by
    unfold checkConstraint at hc
    split at hc
    · split at hc
      · cases hc
      · obtain rfl := List.mem_singleton.mp hc
        exact .inr rfl
    · cases hc
  unfold completeCheck at hc
  split at hc
  · exact (List.mem_append.mp hc).elim (hparts c) hconstraint
  · exact hparts c hc

theorem checkFields_isAboutContent {n : Nesting} {fields : List FieldValue}
    (hnames : ∀ f ∈ fields, (s.fieldType type f.name).isSome = true)
    (hvalues : ∀ name value t, FieldValue.present name value ∈ fields →
      s.fieldType type name = some t →
        ∀ c ∈ (s.checkValue t n value).1.complaints, c.IsAboutContent)
    {c : Complaint} (hc : c ∈ (s.checkFields type n fields).1.complaints) :
    c.IsAboutContent := by
  induction fields with
  | nil => cases hc
  | cons f rest ih =>
    rw [List.forall_mem_cons] at hnames
    obtain ⟨hname, hnames⟩ := hnames
    obtain ⟨t, ht⟩ := Option.isSome_iff_exists.mp hname
    have hrest (hc : c ∈ (s.checkFields type n rest).1.complaints) : c.IsAboutContent :=
      ih hnames (fun name value t hmem => hvalues name value t (List.mem_cons_of_mem _ hmem)) hc
    cases f with
    | present name value =>
      rw [FieldValue.name] at ht
      rw [checkFields] at hc
      simp only [ht, checkValue_nesting t n value] at hc
      exact (List.mem_append.mp hc).elim
        (hvalues name value t List.mem_cons_self ht c) hrest
    | omitted name =>
      rw [FieldValue.name] at ht
      rw [checkFields] at hc
      simp only [ht] at hc
      exact (List.mem_append.mp hc).elim (fun hc => by cases hc) hrest

theorem checkElements_isAboutContent {n : Nesting} {elements : List Value}
    (h : ∀ value ∈ elements, ∀ c ∈ (s.checkValue type n value).1.complaints, c.IsAboutContent)
    {c : Complaint} (hc : c ∈ (s.checkElements type n elements).1.complaints) :
    c.IsAboutContent := by
  induction elements with
  | nil => cases hc
  | cons value rest ih =>
    rw [List.forall_mem_cons] at h
    rw [checkElements] at hc
    simp only [checkValue_nesting type n value] at hc
    exact (List.mem_append.mp hc).elim (h.1 c) (ih h.2)

/-- Where a kind is accepted, a check stays silent or finds what the rest of it finds. -/
theorem accepted_isAboutContent {kind : Kind} {n : Nesting}
    {rest : Nesting → Findings × Nesting} (haccepts : s.acceptsKind type kind = true)
    (hrest : ∀ n, ∀ c ∈ (rest n).1.complaints, c.IsAboutContent) :
    ∀ c ∈ (n.within fun n =>
        if s.isSilenced type then (.clean, n)
        else if !s.acceptsKind type kind then (.complaint .incompatibleValue [s.name type], n)
        else rest n).1.complaints, c.IsAboutContent := by
  intro c hc
  obtain ⟨deeper, hc⟩ := Nesting.within_complaints hc
  simp only [haccepts, Bool.not_true, Bool.false_eq_true, if_false] at hc
  split at hc
  · cases hc
  · exact hrest deeper c hc

/-- A check complains about the content alone of a value that was read for a type. -/
theorem Shaped.isAboutContent (h : s.Shaped Eq isNumeric type v) (n : Nesting) :
    ∀ c ∈ (s.checkValue type n v).1.complaints, c.IsAboutContent := by
  induction h generalizing n with
  | scalar hlast hkind hcontent hnumber =>
    rw [checkValue_scalar]
    refine accepted_isAboutContent (Shaped.scalar hlast hkind hcontent hnumber).acceptsKind
      fun deeper c hc => completeCheck_isAboutContent (fun c hc => ?_) hc
    split at hc
    · exact checkEnumerator_isAboutContent hc
    · cases hc
  | record hlast hkind hform hfields hvalues ih =>
    rw [checkValue_record]
    refine accepted_isAboutContent (Shaped.record hlast hkind hform hfields hvalues).acceptsKind
      fun deeper c hc => completeCheck_isAboutContent (fun c hc => ?_) hc
    exact checkFields_isAboutContent hfields
      (fun name value t hmem ht => ih name value t hmem ht deeper) hc
  | union hlast hkind hform hfield hvalue ih =>
    rw [checkValue_union]
    refine accepted_isAboutContent (Shaped.union hlast hkind hform hfield hvalue).acceptsKind
      fun deeper c hc => ?_
    simp only [hfield] at hc
    exact completeCheck_isAboutContent (ih deeper) hc
  | list hlast hkind hform helement helements ih =>
    rw [checkValue_list]
    refine accepted_isAboutContent (Shaped.list hlast hkind hform helement helements).acceptsKind
      fun deeper c hc => ?_
    simp only [helement] at hc
    refine completeCheck_isAboutContent (fun c hc => ?_) hc
    exact checkElements_isAboutContent (fun value hmem => ih value hmem deeper) hc

end Store

/-- A value that is read for a type has no unbound part, and each node of it is of the kind that the
type it was read for resolves to.  Its check, wherever it is made, reports nothing but enumerators
that are not known and constraints that are not satisfied. -/
theorem Check.value_of_readValue {s : Session} {type : TypeId} {j : Json} {v : Value}
    (h : Document.readValue s.store type j = .ok v) :
    v.isFullyBound = true ∧ s.store.Shaped Eq false type v ∧
      ∀ location, ∃ complaints : List Complaint,
        ((Check.value location type v).run s).2.collector.toList =
          s.collector.toList ++ complaints.map (Complaint.diagnostic location) ∧
        ∀ c ∈ complaints, c.message = .unknownEnumerator ∨ c.message = .subtypeMismatch := by
  have hshaped : s.store.Shaped Eq false type v := Document.readValue_shaped j nofun h
  refine ⟨hshaped.isFullyBound, hshaped, fun location => ?_⟩
  obtain ⟨collector, errorCount, hreported, hlist⟩ :=
    s.emitAll_eq location (s.store.checkValue type s.nesting v).1.complaints
  refine ⟨(s.store.checkValue type s.nesting v).1.complaints, ?_,
    hshaped.isAboutContent s.nesting⟩
  have hrun : ((Check.value location type v).run s).2.collector =
      (s.emitAll location (s.store.checkValue type s.nesting v).1.complaints).collector := rfl
  rw [hrun, hreported]
  exact hlist

/-- A record of an enumerated type, and of a string that has at most two characters. -/
def Store.labels : Store where
  declarations := #[
    { name := "Colour", kind := .enumerated, enumerators := [⟨"red", 0⟩, ⟨"blue", 1⟩] },
    { name := "Code", kind := .charstring, constraint := some (.lengths [⟨0, some 2⟩]) },
    { name := "Label", kind := .record,
      fields := [⟨"colour", .name "Colour", false⟩, ⟨"code", .name "Code", false⟩] }]

/-- A label of an unknown colour whose code is too long is read, and both are complained about. -/
theorem Check.value_of_readValue_label :
    let s : Session := { store := .labels, pass := 1 }
    ∃ v, Document.readValue s.store 2
        (.object [("colour", .string "green"), ("code", .string "abc")]) = .ok v ∧
      v.isFullyBound = true ∧ s.store.Shaped Eq false 2 v ∧
      ((Check.value {} 2 v).run s).2.collector.toList.map Diagnostic.code =
        [Message.unknownEnumerator.code, Message.subtypeMismatch.code] ∧
      ∃ complaints : List Complaint,
        ((Check.value {} 2 v).run s).2.collector.toList =
          complaints.map (Complaint.diagnostic {}) ∧
        ∀ c ∈ complaints, c.message = .unknownEnumerator ∨ c.message = .subtypeMismatch := by
  intro s
  have hread : Document.readValue s.store 2
      (.object [("colour", .string "green"), ("code", .string "abc")]) = .ok _ := rfl
  obtain ⟨hbound, hshaped, hreports⟩ := Check.value_of_readValue hread
  exact ⟨_, rfl, hbound, hshaped, by decide +kernel, hreports {}⟩

end TestSpec
