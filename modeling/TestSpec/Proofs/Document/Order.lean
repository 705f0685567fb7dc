import TestSpec.Proofs.Document.Shape
import TestSpec.Proofs.Json.Order
import TestSpec.Proofs.Matching.Order

/-!
# The order of members in documents

A reader takes the members of an object in the order in which they stand, so JSON that
is reordered is read as a value that is reordered (`readValue_reorders`).
-/

namespace TestSpec.Document

variable {s : Store} {type last : TypeId} {typeName : String}

/-! ### Values are read part by part -/

/-- Values with parts are not read as content without parts. -/
theorem readScalar?_eq_none {d : Declaration}
    (h : (d.kind.isRecordLike || d.kind.isSetLike) = true ∨ d.kind.isUnionLike = true ∨
      d.kind.isList = true) (j : Json) : readScalar? d typeName j = none := by
  unfold readScalar?
  generalize d.kind = kind at h ⊢
  cases kind <;> first | rfl | exact absurd h (by decide)

/-- Content without parts is not written as an object. -/
theorem readScalar?_object {d : Declaration} {members : List (String × Json)} {content : Scalar} :
    readScalar? d typeName (.object members) ≠ some (.ok content) := by
  unfold readScalar?
  generalize d.kind = kind
  cases kind <;> exact nofun

/-- Components of object identifiers are numbers, in which there is nothing to reorder. -/
theorem eq_of_mapM_component {items items' : List Json}
    (hitems : List.Forall₂ Json.Reorders items items') {components : List Nat}
    (h : items.mapM component = .ok components) : items = items' := by
  induction hitems generalizing components with
  | nil => rfl
  | cons hitem _ ih =>
    rw [List.mapM_cons] at h
    obtain ⟨first, hfirst, h⟩ := bind_eq_ok.mp h
    obtain ⟨others, hothers, -⟩ := bind_eq_ok.mp h
    rw [ih hothers]
    cases hitem with
    | integer => rfl
    | _ => cases hfirst

/-- An array that is content without parts has nothing to reorder. -/
theorem readScalar?_array {d : Declaration} {items items' : List Json} {content : Scalar}
    (hitems : List.Forall₂ Json.Reorders items items')
    (h : readScalar? d typeName (.array items) = some (.ok content)) : items = items' := by
  have hcomponents : ∃ components, items.mapM component = .ok components := by
    revert h
    unfold readScalar?
    generalize d.kind = kind
    cases kind
    case objectIdentifier | relativeOid =>
      intro h
      obtain ⟨components, hcomponents, -⟩ := map_eq_ok.mp (Option.some.inj h)
      exact ⟨components, hcomponents⟩
    all_goals exact nofun
  obtain ⟨components, hcomponents⟩ := hcomponents
  exact eq_of_mapM_component hitems hcomponents

/-! ### Rules for values with parts -/

theorem readValue_of_record (hlast : s.resolveAlias? type = some last)
    (hform : ((s.get last).kind.isRecordLike || (s.get last).kind.isSetLike) = true)
    {members : List (String × Json)} {fields : List FieldValue}
    (hfields : readFields s last (s.name type) members = .ok fields) :
    readValue s type (.object members) = .ok (.record (s.get last).kind fields) := by
  rw [readValue.eq_1, resolveAlias_eq_ok.mpr hlast]
  simp only [bind, Except.bind, readScalar?_eq_none (.inl hform), hform, hfields, if_true]
  rfl

theorem readValue_of_union (hlast : s.resolveAlias? type = some last)
    (hform : (s.get last).kind.isUnionLike = true) (members : List (String × Json)) :
    readValue s type (.object members) =
      readAlternative s last (s.get last).kind (s.name type) members := by
  rw [readValue.eq_1, resolveAlias_eq_ok.mpr hlast]
  have hrecord : ((s.get last).kind.isRecordLike || (s.get last).kind.isSetLike) = false := by
    revert hform
    generalize (s.get last).kind = kind
    cases kind <;> decide
  simp only [bind, Except.bind, readScalar?_eq_none (.inr (.inl hform)), hform, hrecord, if_true]
  rfl

theorem readValue_of_list (hlast : s.resolveAlias? type = some last)
    (hform : (s.get last).kind.isList = true) {t : TypeId} (ht : s.elementType last = some t)
    {items : List Json} {elements : List Value}
    (helements : readElements s t items = .ok elements) :
    readValue s type (.array items) = .ok (.list (s.get last).kind elements) := by
  rw [readValue.eq_1, resolveAlias_eq_ok.mpr hlast]
  have hparts : ((s.get last).kind.isRecordLike || (s.get last).kind.isSetLike) = false ∧
      (s.get last).kind.isUnionLike = false := by
    revert hform
    generalize (s.get last).kind = kind
    cases kind <;> decide
  simp only [bind, Except.bind, readScalar?_eq_none (.inr (.inr hform)), hform, hparts, ht,
    helements, if_true]
  rfl

/-- The value of a union is read from one member. -/
theorem readAlternative_eq_ok {kind : Kind} {members : List (String × Json)} {v : Value} :
    readAlternative s last kind typeName members = .ok v ↔ ∃ alternative t j value,
      members = [(alternative, j)] ∧ s.fieldType last alternative = some t ∧
        readValue s t j = .ok value ∧ v = .union kind alternative value := by
  constructor
  · intro h
    match members, h with
    | [(alternative, j)], h =>
      rw [readAlternative.eq_1] at h
      split at h
      · cases h
      rename_i t ht
      obtain ⟨value, hvalue, h⟩ := bind_eq_ok.mp h
      exact ⟨alternative, t, j, value, rfl, ht, hvalue, (pure_eq_ok.mp h).symm⟩
  · rintro ⟨alternative, t, j, value, rfl, ht, hvalue, rfl⟩
    rw [readAlternative.eq_1, ht]
    simp only [hvalue]
    rfl

/-- A field is read from a member: omitted if that is null. -/
def ReadsField (s : Store) (last : TypeId) (m : String × Json) (f : FieldValue) : Prop :=
  ∃ t, s.fieldType last m.1 = some t ∧
    (m.2 = .null ∧ f = .omitted m.1 ∨
      m.2 ≠ .null ∧ ∃ v, readValue s t m.2 = .ok v ∧ f = .present m.1 v)

theorem ReadsField.name_eq {m : String × Json} {f : FieldValue} (h : ReadsField s last m f) :
    f.name = m.1 := by
  obtain ⟨t, -, ⟨-, rfl⟩ | ⟨-, v, -, rfl⟩⟩ := h <;> rfl

theorem names_of_readsField {members : List (String × Json)} {fields : List FieldValue}
    (h : List.Forall₂ (ReadsField s last) members fields) :
    fields.map FieldValue.name = members.map Prod.fst := by
  induction h with
  | nil => rfl
  | cons h _ ih => rw [List.map_cons, List.map_cons, h.name_eq, ih]

/-- Fields are read from members one by one. -/
theorem readFields_eq_ok {members : List (String × Json)} {fields : List FieldValue} :
    readFields s last typeName members = .ok fields ↔
      List.Forall₂ (ReadsField s last) members fields := by
  induction members generalizing fields with
  | nil =>
    rw [readFields.eq_1, List.forall₂_nil_left_iff]
    exact ⟨fun h => (Except.ok.inj h).symm, fun h => congrArg _ h.symm⟩
  | cons m rest ih =>
    obtain ⟨name, j⟩ := m
    rw [readFields.eq_2, List.forall₂_cons_left_iff]
    cases ht : s.fieldType last name with
    | none => simp [ReadsField, ht]
    | some t =>
      constructor
      · intro h
        dsimp only at h
        split at h
        · obtain ⟨first, hfirst, h⟩ := bind_eq_ok.mp h
          obtain ⟨others, hothers, h⟩ := bind_eq_ok.mp h
          obtain rfl := pure_eq_ok.mp hfirst
          obtain rfl := pure_eq_ok.mp h
          exact ⟨_, others, ⟨t, ht, .inl ⟨rfl, rfl⟩⟩, ih.mp hothers, rfl⟩
        · rename_i hj
          obtain ⟨first, hfirst, h⟩ := bind_eq_ok.mp h
          obtain ⟨others, hothers, h⟩ := bind_eq_ok.mp h
          obtain ⟨v, hv, rfl⟩ := map_eq_ok.mp hfirst
          obtain rfl := pure_eq_ok.mp h
          exact ⟨_, others, ⟨t, ht, .inr ⟨hj, v, hv, rfl⟩⟩, ih.mp hothers, rfl⟩
      · rintro ⟨f, others, ⟨u, hu, hf⟩, hothers, rfl⟩
        obtain rfl := Option.some.inj (ht.symm.trans hu)
        obtain ⟨hj, rfl⟩ | ⟨hj, v, hv, rfl⟩ := hf
        · obtain rfl : j = .null := hj
          simp only [ih.mpr hothers]
          rfl
        · dsimp only
          split
          · exact absurd rfl hj
          · rw [show readValue s t j = .ok v from hv, ih.mpr hothers]
            rfl

theorem readElements_reorders {t : TypeId} {items items' : List Json} {elements : List Value}
    (hitems : List.Forall₂ (fun j j' => ∀ v, readValue s t j = .ok v →
      ∃ v', readValue s t j' = .ok v' ∧ v.Reorders v') items items')
    (h : readElements s t items = .ok elements) : ∃ elements',
      readElements s t items' = .ok elements' ∧ List.Forall₂ Value.Reorders elements elements' := by
  induction hitems generalizing elements with
  | nil =>
    cases h
    exact ⟨[], rfl, .nil⟩
  | cons hitem _ ih =>
    rw [readElements.eq_2] at h
    obtain ⟨first, hfirst, h⟩ := bind_eq_ok.mp h
    obtain ⟨others, hothers, h⟩ := bind_eq_ok.mp h
    obtain rfl := pure_eq_ok.mp h
    obtain ⟨first', hfirst', hv⟩ := hitem _ hfirst
    obtain ⟨others', hothers', hvs⟩ := ih hothers
    refine ⟨first' :: others', ?_, .cons hv hvs⟩
    rw [readElements.eq_2, hfirst', hothers']
    rfl

/-- Each member of a reordered object gives a field that is the counterpart of one. -/
theorem exists_field_of_member {members : List (String × Json)} {fields : List FieldValue}
    (hfields : List.Forall₂ (ReadsField s last) members fields) {name : String} {j j' : Json}
    (hj : (name, j) ∈ members) (hnull : j = .null ↔ j' = .null)
    (hread : ∀ t v, readValue s t j = .ok v → ∃ v', readValue s t j' = .ok v' ∧ v.Reorders v') :
    ∃ f', ReadsField s last (name, j') f' ∧ ∃ f ∈ fields, f.Related Value.Reorders f' := by
  obtain ⟨i, hi, hget⟩ := List.getElem_of_mem hj
  have hi' : i < fields.length := hfields.length_eq ▸ hi
  have hfield : ReadsField s last members[i] fields[i] := hfields.get hi hi'
  rw [hget] at hfield
  obtain ⟨t, ht, ⟨hj, hf⟩ | ⟨hj, v, hv, hf⟩⟩ := hfield
  · refine ⟨.omitted name, ⟨t, ht, .inl ⟨hnull.mp hj, rfl⟩⟩, fields[i], List.getElem_mem hi', ?_⟩
    rw [hf]
    exact .omitted
  · obtain ⟨v', hv', hreorders⟩ := hread t v hv
    refine ⟨.present name v', ⟨t, ht, .inr ⟨fun h => hj (hnull.mpr h), v', hv', rfl⟩⟩, fields[i],
      List.getElem_mem hi', ?_⟩
    rw [hf]
    exact .present hreorders

/-- A list of counterparts, if each item has one. -/
theorem exists_forall₂ {α β : Type} {R : α → β → Prop} {as : List α} (h : ∀ a ∈ as, ∃ b, R a b) :
    ∃ bs, List.Forall₂ R as bs := by
  induction as with
  | nil => exact ⟨[], .nil⟩
  | cons a as ih =>
    rw [List.forall_mem_cons] at h
    obtain ⟨⟨b, hb⟩, h⟩ := h
    obtain ⟨bs, hbs⟩ := ih h
    exact ⟨b :: bs, .cons hb hbs⟩

/-- Members that are reordered are read as fields that are. -/
theorem readFields_reorders {kind : Kind} {members members' : List (String × Json)}
    (hdistinct : (members.map Prod.fst).Nodup)
    (hnames : (members.map Prod.fst).Perm (members'.map Prod.fst))
    (hread : ∀ name j j', (name, j) ∈ members → (name, j') ∈ members' →
      (j = .null ↔ j' = .null) ∧ ∀ t v, readValue s t j = .ok v →
        ∃ v', readValue s t j' = .ok v' ∧ v.Reorders v')
    {fields : List FieldValue} (h : readFields s last typeName members = .ok fields) :
    ∃ fields', readFields s last typeName members' = .ok fields' ∧
      (Value.record kind fields).Reorders (.record kind fields') := by
  rw [readFields_eq_ok] at h
  have hcounterparts : ∀ m' ∈ members', ∃ f', ReadsField s last m' f' ∧
      ∃ f ∈ fields, f.Related Value.Reorders f' := by
    rintro ⟨name, j'⟩ hj'
    have hname : name ∈ members.map Prod.fst :=
      hnames.mem_iff.mpr (List.mem_map_of_mem (f := Prod.fst) hj')
    obtain ⟨⟨_, j⟩, hj, rfl⟩ := List.mem_map.mp hname
    obtain ⟨hnull, hvalue⟩ := hread _ _ _ hj hj'
    exact exists_field_of_member h hj hnull hvalue
  obtain ⟨fields', hfields'⟩ := exists_forall₂ hcounterparts
  have hread' : List.Forall₂ (ReadsField s last) members' fields' := hfields'.imp fun _ _ h => h.1
  refine ⟨fields', readFields_eq_ok.mpr hread', .of_fields ?_ ?_ ?_⟩
  · rw [names_of_readsField h]
    exact hdistinct
  · rw [names_of_readsField h, names_of_readsField hread']
    exact hnames
  · intro f' hf'
    obtain ⟨i, hi, rfl⟩ := List.getElem_of_mem hf'
    exact (hfields'.get (hfields'.length_eq ▸ hi) hi).2

theorem eq_null_iff_of_reorders {j j' : Json} (h : j.Reorders j') : j = .null ↔ j' = .null := by
  cases h <;> simp

/-- **Reordered values are read.**  JSON that is reordered is read for the same types, as a value
that is reordered. -/
theorem readValue_reorders {j j' : Json} (h : j.Reorders j') : ∀ {type : TypeId} {v : Value},
    readValue s type j = .ok v → ∃ v', readValue s type j' = .ok v' ∧ v.Reorders v' := by
  induction h with
  | null | boolean | integer | real | string =>
    intro type v hv
    obtain ⟨last, -, ⟨content, -, rfl⟩ | ⟨_, _, hform, -⟩ | ⟨_, hform, -⟩ | ⟨_, _, _, hform, -⟩⟩ :=
      readValue_cases hv
    · exact ⟨_, hv, .scalar⟩
    all_goals cases hform
  | @array items items' hlength hitems ih =>
    intro type v hv
    obtain ⟨last, hlast, ⟨content, hcontent, rfl⟩ | ⟨_, _, hform, -⟩ | ⟨_, hform, -⟩ |
      ⟨_, t, elements, heq, hform, ht, helements, rfl⟩⟩ := readValue_cases hv
    · obtain rfl := readScalar?_array (List.forall₂_iff_zip.mpr ⟨hlength, fun hp => hitems _ hp⟩)
        hcontent
      exact ⟨_, hv, .scalar⟩
    · cases hform
    · cases hform
    · cases heq
      obtain ⟨elements', helements', hreorders⟩ := readElements_reorders
        (List.forall₂_iff_zip.mpr ⟨hlength, fun hp _ hv => ih _ hp hv⟩) helements
      have hzip := List.forall₂_iff_zip.mp hreorders
      exact ⟨_, readValue_of_list hlast hform ht helements', .list hzip.1 fun p hp => hzip.2 hp⟩
  | @object members members' hdistinct hnames hvalues ih =>
    intro type v hv
    obtain ⟨last, hlast, ⟨content, hcontent, rfl⟩ | ⟨_, fields, heq, hform, hfields, rfl⟩ |
      ⟨_, heq, hform, halternative⟩ | ⟨_, _, _, hform, -⟩⟩ := readValue_cases hv
    · exact absurd hcontent readScalar?_object
    · cases heq
      obtain ⟨fields', hfields', hreorders⟩ :=
        readFields_reorders hdistinct hnames
          (fun _ _ _ hj hj' => ⟨eq_null_iff_of_reorders (hvalues _ _ _ hj hj'),
            fun _ _ hv => ih _ _ _ hj hj' hv⟩) hfields
      exact ⟨_, readValue_of_record hlast hform hfields', hreorders⟩
    · cases heq
      obtain ⟨alternative, t, j, value, rfl, ht, hvalue, rfl⟩ :=
        readAlternative_eq_ok.mp halternative
      obtain ⟨⟨_, j'⟩, rfl, hname⟩ :=
        List.map_eq_singleton_iff.mp (List.perm_singleton.mp hnames.symm)
      obtain rfl : _ = alternative := hname
      obtain ⟨value', hvalue', hreorders⟩ := ih _ j j' List.mem_cons_self List.mem_cons_self hvalue
      refine ⟨_, ?_, .union hreorders⟩
      rw [readValue_of_union hlast hform]
      exact readAlternative_eq_ok.mpr ⟨_, t, j', value', rfl, ht, hvalue', rfl⟩
    · cases hform

end TestSpec.Document
