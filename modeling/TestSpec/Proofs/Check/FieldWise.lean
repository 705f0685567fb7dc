import Mathlib.Data.List.Basic
import TestSpec.Proofs.Check.Parts
import TestSpec.Proofs.Document.Complaints

/-!
# Records as values and as templates

A record can stand in a template as a specific value, or field by field: with the specific
template of each value in it, and `omit` for each field that is omitted
(`Template.ofFields`).  Either way the check comes to the same values at the same depth, and
has the same to say about them.

About the fields themselves a record template says more than a value.  It is a complaint
if a field of the type is not given, and if one is omitted that is not optional; as a
value, the record is not asked to be **complete** in this sense (`Store.IsComplete`).

Main statement: `Check.template_ofFields_iff`.
-/

namespace TestSpec

/-- A field as a field of a template. -/
def FieldValue.asTemplate : FieldValue → FieldTemplate
  | .present name v => .mk name (.specific v)
  | .omitted name => .mk name (.ofSelector .omit)

theorem FieldValue.name_asTemplate (f : FieldValue) : f.asTemplate.name = f.name := by
  cases f <;> rfl

/-- The record template for the fields of a record. -/
def Template.ofFields (kind : Kind) (fields : List FieldValue) : Template :=
  .ofSelector (.record kind (fields.map FieldValue.asTemplate))

namespace Store

variable {s : Store} {type last : TypeId} {n deeper : Nesting}

/-- The fields of a record are complete: each field that the type has is among them, and only those
are omitted that are optional or whose type silences its checks. -/
structure IsComplete (s : Store) (last : TypeId) (fields : List FieldValue) : Prop where
  listed : ∀ g ∈ (s.get last).fields, g.name ∈ fields.map FieldValue.name
  optional : ∀ name g t, .omitted name ∈ fields → (s.get last).field? name = some g →
    s.resolveRef? g.type = some t → g.isOptional = true ∨ s.isSilenced t = true

/-! ### Specific values and omission -/

/-- The check of a specific value has the complaints about the value, one level deeper. -/
theorem checkTemplate_specific_complaints (hdeeper : n.enter? = some deeper) (isOptional : Bool)
    (v : Value) : (s.checkTemplate type isOptional n (.specific v)).1.complaints =
      (s.checkValue type deeper v).1.complaints := by
  rw [checkTemplate_findings hdeeper]
  cases hsilenced : s.isSilenced type with
  | true =>
    rw [checkValue_of_isSilenced hsilenced]
    rfl
  | false =>
    obtain ⟨last, hlast⟩ := (isSilenced_eq_false_iff.mp hsilenced).2
    rw [hlast]
    rfl

theorem checkTemplate_omit_complaints (hdeeper : n.enter? = some deeper) (isOptional : Bool) :
    (s.checkTemplate type isOptional n (.ofSelector .omit)).1.complaints =
      if isOptional || s.isSilenced type then [] else [⟨.omitNotAllowed, []⟩] := by
  rw [checkTemplate_findings hdeeper]
  cases hsilenced : s.isSilenced type with
  | true =>
    rw [Bool.or_true]
    rfl
  | false =>
    obtain ⟨last, hlast⟩ := (isSilenced_eq_false_iff.mp hsilenced).2
    rw [hlast]
    cases isOptional <;> rfl

/-! ### Fields -/

/-- The complaint about a field that is omitted and not optional. -/
def omissionComplaints (s : Store) (d : Declaration) : FieldValue → List Complaint
  | .present _ _ => []
  | .omitted name => (d.field? name).elim [] fun g => (s.resolveRef? g.type).elim [] fun t =>
    if g.isOptional || s.isSilenced t then [] else [⟨.omitNotAllowed, []⟩]

theorem omissionComplaints_omitted {d : Declaration} {name : String} {g : Field} {t : TypeId}
    (hg : d.field? name = some g) (ht : s.resolveRef? g.type = some t) :
    s.omissionComplaints d (.omitted name) =
      if g.isOptional || s.isSilenced t then [] else [⟨.omitNotAllowed, []⟩] := by
  rw [omissionComplaints, hg, Option.elim_some, ht, Option.elim_some]

/-- As a template, a field draws the complaints that it draws as a field, and the one about its
omission. -/
theorem fieldTemplateComplaints_asTemplate (hlast : s.resolveAlias? type = some last)
    (hdeeper : n.enter? = some deeper) {f : FieldValue}
    (hf : (s.fieldType type f.name).isSome = true) :
    s.fieldTemplateComplaints type (s.get last) n f.asTemplate =
      s.fieldComplaints type deeper f ++ s.omissionComplaints (s.get last) f := by
  obtain ⟨t, ht⟩ := Option.isSome_iff_exists.mp hf
  rw [fieldTemplateComplaints, fieldComplaints, f.name_asTemplate, ht]
  rw [fieldType_eq hlast] at ht
  obtain ⟨g, hg, hresolved⟩ := Option.bind_eq_some_iff.mp ht
  simp only [hg, hresolved, Option.elim_some]
  cases f with
  | present name v =>
    rw [FieldValue.asTemplate, omissionComplaints, List.append_nil]
    exact checkTemplate_specific_complaints hdeeper g.isOptional v
  | omitted name =>
    have hg : (s.get last).field? name = some g := hg
    rw [FieldValue.asTemplate, omissionComplaints_omitted hg hresolved]
    exact checkTemplate_omit_complaints hdeeper g.isOptional

/-- No error is found about missing fields exactly if all fields are given. -/
theorem missingComplaints_iff {d : Declaration} {typeName : String} {given : List String} :
    (∀ c ∈ missingComplaints d typeName given, c.isError = false) ↔
      ∀ g ∈ d.fields, g.name ∈ given := by
  constructor
  · intro h g hg
    refine Classical.byContradiction fun hname => ?_
    have hc : ⟨.missingField, [g.name, typeName]⟩ ∈ missingComplaints d typeName given :=
      List.mem_map.mpr ⟨g, List.mem_filter.mpr ⟨hg, by simpa using hname⟩, rfl⟩
    cases h _ hc
  · intro h c hc
    obtain ⟨g, hg, -⟩ := List.mem_map.mp hc
    obtain ⟨hmem, hmissing⟩ := List.mem_filter.mp hg
    simp [h g hmem] at hmissing

/-- No error is found about the omission of a field exactly if it is not omitted, or optional, or of
a silenced type. -/
theorem omissionComplaints_iff {d : Declaration} {f : FieldValue} :
    (∀ c ∈ s.omissionComplaints d f, c.isError = false) ↔
      ∀ name g t, f = .omitted name → d.field? name = some g → s.resolveRef? g.type = some t →
        g.isOptional = true ∨ s.isSilenced t = true := by
  constructor
  · rintro h name g t rfl hg ht
    refine Classical.byContradiction fun hneither => ?_
    have hc : ⟨.omitNotAllowed, []⟩ ∈ s.omissionComplaints d (.omitted name) := by
      rw [← Bool.or_eq_true] at hneither
      rw [omissionComplaints_omitted hg ht, if_neg hneither]
      exact List.mem_singleton_self _
    cases h _ hc
  · intro h c hc
    cases f with
    | present => cases hc
    | omitted name =>
      cases hg : d.field? name with
      | none => simp [omissionComplaints, hg] at hc
      | some g =>
        cases ht : s.resolveRef? g.type with
        | none => simp [omissionComplaints, hg, ht] at hc
        | some t =>
          have heither := h name g t rfl hg ht
          rw [← Bool.or_eq_true] at heither
          rw [omissionComplaints_omitted hg ht, if_pos heither] at hc
          cases hc

/-- A record is complete exactly if no error is found about missing fields and omissions. -/
theorem isComplete_iff (type : TypeId) {fields : List FieldValue} :
    s.IsComplete last fields ↔
      (∀ f ∈ fields, ∀ c ∈ s.omissionComplaints (s.get last) f, c.isError = false) ∧
        ∀ c ∈ missingComplaints (s.get last) (s.name type) (fields.map FieldValue.name),
          c.isError = false := by
  simp only [missingComplaints_iff, omissionComplaints_iff]
  constructor
  · rintro ⟨hlisted, hoptional⟩
    exact ⟨fun f hf name g t heq => hoptional name g t (heq ▸ hf), hlisted⟩
  · rintro ⟨hoptional, hlisted⟩
    exact ⟨hlisted, fun name g t hf => hoptional _ hf name g t rfl⟩

/-! ### Records -/

/-- A record of the form of a type has fields of the type, which is one of records or sets. -/
theorem Shaped.of_record {isNumeric : Bool} {kind : Kind} {fields : List FieldValue}
    (h : s.Shaped Eq isNumeric type (.record kind fields))
    (hlast : s.resolveAlias? type = some last) :
    ((s.get last).kind.isRecordLike || (s.get last).kind.isSetLike) = true ∧
      ∀ f ∈ fields, (s.fieldType type f.name).isSome = true := by
  cases h with
  | record hlast' hkind hform hfields =>
    obtain rfl := Option.some.inj (hlast'.symm.trans hlast)
    rw [hkind] at hform
    exact ⟨hform, hfields⟩

/-- As a specific value, a record draws the complaints about its fields. -/
theorem checkTemplate_record_complaints {deepest : Nesting} (hdeeper : n.enter? = some deeper)
    (hdeepest : deeper.enter? = some deepest) (hsilenced : s.isSilenced type = false)
    {kind : Kind} {fields : List FieldValue}
    (hkind : s.acceptsKind type kind = true) (isOptional : Bool) :
    (s.checkTemplate type isOptional n (.specific (.record kind fields))).1.complaints =
      fields.flatMap (s.fieldComplaints type deepest) := by
  rw [checkTemplate_specific_complaints hdeeper, checkValue_record_complaints hdeepest, hsilenced,
    hkind]
  rfl

/-- As a record template, it draws those about its fields, their omissions and missing fields. -/
theorem checkTemplate_ofFields_complaints {deepest : Nesting} (hdeeper : n.enter? = some deeper)
    (hdeepest : deeper.enter? = some deepest) (hsilenced : s.isSilenced type = false)
    (hlast : s.resolveAlias? type = some last) {kind : Kind} {fields : List FieldValue}
    (hform : ((s.get last).kind.isRecordLike || (s.get last).kind.isSetLike) = true)
    (hfields : ∀ f ∈ fields, (s.fieldType type f.name).isSome = true) (isOptional : Bool) :
    (s.checkTemplate type isOptional n (.ofFields kind fields)).1.complaints =
      (fields.flatMap fun f =>
          s.fieldComplaints type deepest f ++ s.omissionComplaints (s.get last) f) ++
        missingComplaints (s.get last) (s.name type) (fields.map FieldValue.name) := by
  have hnames : (fields.map FieldValue.asTemplate).map FieldTemplate.name =
      fields.map FieldValue.name := by
    rw [List.map_map]
    exact List.map_congr_left fun f _ => f.name_asTemplate
  have hselector : (s.checkSelector type last isOptional deeper
        (.record kind (fields.map FieldValue.asTemplate))).1 =
      (fields.flatMap fun f =>
          s.fieldComplaints type deepest f ++ s.omissionComplaints (s.get last) f) ++
        missingComplaints (s.get last) (s.name type) (fields.map FieldValue.name) := by
    rw [checkSelector]
    dsimp only
    rw [if_pos hform, checkFieldTemplates_complaints, hnames, List.flatMap_map]
    refine congrArg (· ++ _) (List.flatMap_congr fun f hf => ?_)
    exact fieldTemplateComplaints_asTemplate hlast hdeepest (hfields f hf)
  rw [checkTemplate_findings hdeeper, hsilenced, hlast]
  exact hselector

end Store

/-- **Records as values and as templates.**  Let a record be read for a type that is not erroneous,
and let the check have room for it and its fields.  Then the check of the record template for its
fields is content exactly if the check of the record as a specific value is, and the record
is complete. -/
theorem Check.template_ofFields_iff {s : Session} (hroom : 1 < s.nesting.room) {type last : TypeId}
    (herroneous : s.store.isErroneous type = false)
    (hlast : s.store.resolveAlias? type = some last) {j : Json} {kind : Kind}
    {fields : List FieldValue}
    (hread : Document.readValue s.store type j = .ok (.record kind fields)) (location : Location)
    (isOptional : Bool) :
    ((Check.template location type (.ofFields kind fields) isOptional).run s).1 = true ↔
      ((Check.template location type (.specific (.record kind fields)) isOptional).run s).1 = true ∧
        s.store.IsComplete last fields := by
  obtain ⟨deeper, hdeeper, hroom⟩ := Nesting.exists_deeper_of_lt hroom
  obtain ⟨deepest, hdeepest, -⟩ := Nesting.exists_deeper_of_lt hroom
  have hshaped : s.store.Shaped Eq false type (.record kind fields) :=
    Document.readValue_shaped j nofun hread
  have hsilenced : s.store.isSilenced type = false := by
    rw [Store.isSilenced, herroneous, hlast]
    rfl
  obtain ⟨hform, hfields⟩ := hshaped.of_record hlast
  have hspecific : (s.store.checkTemplate type isOptional s.nesting
        (.specific (.record kind fields))).1.complaints =
      fields.flatMap (s.store.fieldComplaints type deepest) :=
    Store.checkTemplate_record_complaints hdeeper hdeepest hsilenced hshaped.acceptsKind isOptional
  have hfieldwise : (s.store.checkTemplate type isOptional s.nesting
        (.ofFields kind fields)).1.complaints =
      (fields.flatMap fun f => s.store.fieldComplaints type deepest f ++
          s.store.omissionComplaints (s.store.get last) f) ++
        missingComplaints (s.store.get last) (s.store.name type) (fields.map FieldValue.name) :=
    Store.checkTemplate_ofFields_complaints hdeeper hdeepest hsilenced hlast hform hfields
      isOptional
  have hrun (t : Template) : ((Check.template location type t isOptional).run s).1 =
      (s.store.checkTemplate type isOptional s.nesting t).1.ok := rfl
  rw [hrun, hrun, Store.checkTemplate_ok_iff hdeeper, Store.checkTemplate_ok_iff hdeeper, hspecific,
    hfieldwise, Store.isComplete_iff type]
  simp only [List.mem_append, List.mem_flatMap]
  constructor
  · intro h
    refine ⟨?_, ?_, ?_⟩
    · rintro c ⟨f, hf, hc⟩
      exact h c (.inl ⟨f, hf, .inl hc⟩)
    · exact fun f hf c hc => h c (.inl ⟨f, hf, .inr hc⟩)
    · exact fun c hc => h c (.inr hc)
  · rintro ⟨hfieldsOk, homissions, hmissing⟩ c (⟨f, hf, hc | hc⟩ | hc)
    · exact hfieldsOk c ⟨f, hf, hc⟩
    · exact homissions f hf c hc
    · exact hmissing c hc

/-- A session over points, which may have a label. -/
def Session.points : Session where
  store := ⟨#[
    { name := "integer", kind := .integer, isBuiltin := true },
    { name := "charstring", kind := .charstring, isBuiltin := true },
    { name := "Point", kind := .record,
      fields := [⟨"x", .name "integer", false⟩, ⟨"y", .name "integer", false⟩,
        ⟨"label", .name "charstring", true⟩] }]⟩
  pass := 1

/-- The fields of a point without a label. -/
def FieldValue.unlabelled : List FieldValue :=
  [.present "x" (.integer 1), .present "y" (.integer 2), .omitted "label"]

theorem Store.unlabelled_isComplete :
    Session.points.store.IsComplete 2 FieldValue.unlabelled := by
  refine ⟨by decide, fun name g t hf hg _ => .inl ?_⟩
  obtain rfl : name = "label" := by simpa [FieldValue.unlabelled] using hf
  obtain rfl := Option.some.inj hg
  rfl

/-- A point without a label is in order either way. -/
theorem Check.template_ofFields_iff_unlabelled :
    Session.points.store.isErroneous 2 = false ∧
      Document.readValue Session.points.store 2
          (.object [("x", .integer 1), ("y", .integer 2), ("label", .null)]) =
        .ok (.record .record FieldValue.unlabelled) ∧
      ((Check.template {} 2 (.specific (.record .record FieldValue.unlabelled)) false).run
        Session.points).1 = true ∧
      ((Check.template {} 2 (.ofFields .record FieldValue.unlabelled) false).run
        Session.points).1 = true := by
  have hread : Document.readValue Session.points.store 2
      (.object [("x", .integer 1), ("y", .integer 2), ("label", .null)]) =
        .ok (.record .record FieldValue.unlabelled) := rfl
  have hspecific : ((Check.template {} 2 (.specific (.record .record FieldValue.unlabelled))
      false).run Session.points).1 = true := by decide
  refine ⟨by decide, hread, hspecific, ?_⟩
  exact (Check.template_ofFields_iff (by decide) (by decide) (by decide) hread {} false).mpr
    ⟨hspecific, Store.unlabelled_isComplete⟩

/-- A point of which just one coordinate is given is in order as a specific value, and not field by
field. -/
theorem Check.template_ofFields_false_halfPoint :
    (∀ d ∈ Session.points.store.declarations, d.isErroneous = false) ∧
      Document.readValue Session.points.store 2 (.object [("x", .integer 1)]) =
        .ok (.record .record [.present "x" (.integer 1)]) ∧
      ((Check.template {} 2 (.specific (.record .record [.present "x" (.integer 1)])) false).run
        Session.points).1 = true ∧
      ((Check.template {} 2 (.ofFields .record [.present "x" (.integer 1)]) false).run
        Session.points).1 = false :=
  ⟨by decide, rfl, by decide, by decide⟩

end TestSpec
