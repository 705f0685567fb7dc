import TestSpec.Proofs.Check.Acceptance
import TestSpec.Proofs.Check.Parts
import TestSpec.Proofs.Check.Session

/-!
# Values and templates that are nested too deep

A check gives up where a value or template is nested deeper than it may walk
(`Store.AbandonsValue`, `Store.Abandons`), and calls that part not in order.  The verdict on
a value takes part by part into account, so that a value with such a part is refused
(`Store.checkValue_not_ok_of_abandons`).  The verdict on a template counts complaints, and
giving up is none.

So a template is judged by what lies within reach.  **Cutting** a template at the reach of
the check puts something in place of each part that lies deeper about which there is nothing to
complain (`Template.cutAt`); the check finds in the template what a check that reaches further
finds in the cut template, which it walks to the end.

Main statement: `Check.template_eq_cutAt`.
-/

namespace TestSpec

/-! ### Cutting -/

namespace Value

mutual

/-- The value down to some number of levels; what lies deeper is left unbound. -/
def cutAt : Nat → Value → Value
  | 0, v => .unbound v.kind
  | _ + 1, .unbound kind => .unbound kind
  | _ + 1, .scalar kind content => .scalar kind content
  | room + 1, .record kind fields => .record kind (cutFieldsAt room fields)
  | room + 1, .union kind alternative v => .union kind alternative (cutAt room v)
  | room + 1, .list kind elements => .list kind (cutElementsAt room elements)

/-- The fields with their values down to some number of levels. -/
def cutFieldsAt (room : Nat) : List FieldValue → List FieldValue
  | [] => []
  | .present name v :: rest => .present name (cutAt room v) :: cutFieldsAt room rest
  | .omitted name :: rest => .omitted name :: cutFieldsAt room rest

/-- The elements down to some number of levels. -/
def cutElementsAt (room : Nat) : List Value → List Value
  | [] => []
  | v :: rest => cutAt room v :: cutElementsAt room rest

end

theorem cutElementsAt_eq_map (room : Nat) (elements : List Value) :
    cutElementsAt room elements = elements.map (cutAt room) := by
  induction elements with
  | nil => rfl
  | cons v rest ih => rw [cutElementsAt, ih, List.map_cons]

end Value

/-- A field with its value down to some number of levels. -/
def FieldValue.cutAt (room : Nat) : FieldValue → FieldValue
  | .present name v => .present name (v.cutAt room)
  | .omitted name => .omitted name

theorem Value.cutFieldsAt_eq_map (room : Nat) (fields : List FieldValue) :
    cutFieldsAt room fields = fields.map (FieldValue.cutAt room) := by
  induction fields with
  | nil => rfl
  | cons f rest ih => cases f <;> rw [cutFieldsAt, ih, List.map_cons] <;> rfl

namespace Template

mutual

/-- The template down to some number of levels, and a wildcard in place of what lies deeper; a
wildcard for a run of elements where there was one. -/
def cutAt : Nat → Template → Template
  | 0, t => .ofSelector (if t.isAnyOrOmit then .anyOrOmit else .any)
  | room + 1, .mk selector ifPresent length => .mk (cutSelectorAt room selector) ifPresent length

/-- The selector with its values and templates down to some number of levels. -/
def cutSelectorAt (room : Nat) : Selector → Selector
  | .specific v => .specific (v.cutAt room)
  | .record kind fields => .record kind (cutFieldsAt room fields)
  | .union kind alternative t => .union kind alternative (cutAt room t)
  | .elements kind items => .elements kind (cutItemsAt room items)
  | .valueList items => .valueList (cutItemsAt room items)
  | .complement items => .complement (cutItemsAt room items)
  | .decoded target inner => .decoded target (cutAt room inner)
  | .uninitialized => .uninitialized
  | .omit => .omit
  | .any => .any
  | .anyOrOmit => .anyOrOmit
  | .range r => .range r
  | .pattern p => .pattern p

/-- The field templates down to some number of levels. -/
def cutFieldsAt (room : Nat) : List FieldTemplate → List FieldTemplate
  | [] => []
  | .mk name t :: rest => .mk name (cutAt room t) :: cutFieldsAt room rest

/-- The items down to some number of levels. -/
def cutItemsAt (room : Nat) : List Template → List Template
  | [] => []
  | t :: rest => cutAt room t :: cutItemsAt room rest

end

theorem cutAt_zero (t : Template) :
    t.cutAt 0 = .ofSelector .any ∨ t.cutAt 0 = .ofSelector .anyOrOmit := by
  rw [cutAt]
  split
  · exact .inr rfl
  · exact .inl rfl

theorem cutItemsAt_eq_map (room : Nat) (items : List Template) :
    cutItemsAt room items = items.map (cutAt room) := by
  induction items with
  | nil => rfl
  | cons t rest ih => rw [cutItemsAt, ih, List.map_cons]

theorem exists_of_mem_cutItemsAt {room : Nat} {items : List Template} {w : Template}
    (h : w ∈ cutItemsAt room items) : ∃ t : Template, w = t.cutAt room := by
  rw [cutItemsAt_eq_map] at h
  obtain ⟨t, -, rfl⟩ := List.mem_map.mp h
  exact ⟨t, rfl⟩

theorem isAnyOrOmit_cutAt (room : Nat) (t : Template) :
    (t.cutAt room).isAnyOrOmit = t.isAnyOrOmit := by
  cases room with
  | zero =>
    rw [cutAt]
    cases t.isAnyOrOmit <;> rfl
  | succ room =>
    obtain ⟨selector, ifPresent, length⟩ := t
    cases selector <;> rfl

/-- Cutting leaves the number of items that stand for one element each. -/
theorem fixedCount_cutItemsAt (room : Nat) (items : List Template) :
    fixedCount (cutItemsAt room items) = fixedCount items := by
  simp only [fixedCount, cutItemsAt_eq_map, List.countP_map, Function.comp_def, isAnyOrOmit_cutAt]

end Template

/-- A template for a field down to some number of levels. -/
def FieldTemplate.cutAt (room : Nat) (f : FieldTemplate) : FieldTemplate :=
  .mk f.name (f.template.cutAt room)

theorem Template.cutFieldsAt_eq_map (room : Nat) (fields : List FieldTemplate) :
    cutFieldsAt room fields = fields.map (FieldTemplate.cutAt room) := by
  induction fields with
  | nil => rfl
  | cons f rest ih =>
    obtain ⟨name, t⟩ := f
    rw [cutFieldsAt, ih, List.map_cons]
    rfl

namespace Store

variable {s : Store} {type last : TypeId} {n wide deeper : Nesting} {room : Nat}

/-! ### Parts out of reach -/

/-- The check of a value for a type goes on with a value for another type. -/
inductive WalksValue (s : Store) : TypeId → Value → TypeId → Value → Prop
  | field {type t : TypeId} {kind : Kind} {fields : List FieldValue} {name : String} {v : Value}
      (hsilenced : s.isSilenced type = false) (hkind : s.acceptsKind type kind = true)
      (hv : .present name v ∈ fields) (ht : s.fieldType type name = some t) :
      WalksValue s type (.record kind fields) t v
  | alternative {type t : TypeId} {kind : Kind} {name : String} {v : Value}
      (hsilenced : s.isSilenced type = false) (hkind : s.acceptsKind type kind = true)
      (ht : s.fieldType type name = some t) : WalksValue s type (.union kind name v) t v
  | element {type t : TypeId} {kind : Kind} {elements : List Value} {v : Value}
      (hsilenced : s.isSilenced type = false) (hkind : s.acceptsKind type kind = true)
      (hv : v ∈ elements) (ht : s.elementType type = some t) :
      WalksValue s type (.list kind elements) t v

/-- The check of a value comes to a value that lies too deep. -/
inductive AbandonsValue (s : Store) : TypeId → Nesting → Value → Prop
  | here {type : TypeId} {n : Nesting} {v : Value} (h : n.enter? = none) : AbandonsValue s type n v
  | part {type t : TypeId} {n deeper : Nesting} {v w : Value} (hdeeper : n.enter? = some deeper)
      (hwalks : s.WalksValue type v t w) (h : AbandonsValue s t deeper w) :
      AbandonsValue s type n v

/-- The check of a selector for a type, `last` being the end of its alias chain, goes on with a
template for another type. -/
inductive WalksSelector (s : Store) (type last : TypeId) : Selector → TypeId → Template → Prop
  | field {t : TypeId} {kind : Kind} {fields : List FieldTemplate} {f : FieldTemplate} {g : Field}
      (hform : ((s.get last).kind.isRecordLike || (s.get last).kind.isSetLike) = true)
      (hf : f ∈ fields) (hg : (s.get last).field? f.name = some g)
      (ht : s.resolveRef? g.type = some t) :
      WalksSelector s type last (.record kind fields) t f.template
  | alternative {t : TypeId} {kind : Kind} {name : String} {u : Template}
      (hform : (s.get last).kind.isUnionLike = true) (ht : s.fieldType last name = some t) :
      WalksSelector s type last (.union kind name u) t u
  | element {t : TypeId} {kind : Kind} {items : List Template} {u : Template}
      (hform : (s.get last).kind.isList = true) (ht : s.elementType last = some t)
      (hu : u ∈ items) : WalksSelector s type last (.elements kind items) t u
  | valueList {items : List Template} {u : Template} (hu : u ∈ items) :
      WalksSelector s type last (.valueList items) type u
  | complement {items : List Template} {u : Template} (hu : u ∈ items) :
      WalksSelector s type last (.complement items) type u
  | decoded {t : TypeId} {target : DecodeTarget} {u : Template}
      (hform : (s.get last).kind.isString = true) (ht : s.lookup target.name = some t) :
      WalksSelector s type last (.decoded target u) t u

/-- The check of a template comes to a template or value that lies too deep. -/
inductive Abandons (s : Store) : TypeId → Nesting → Template → Prop
  | here {type : TypeId} {n : Nesting} {t : Template} (h : n.enter? = none) : Abandons s type n t
  | value {type : TypeId} {n deeper : Nesting} {t : Template} {v : Value}
      (hdeeper : n.enter? = some deeper) (hsilenced : s.isSilenced type = false)
      (ht : t.selector = .specific v) (h : s.AbandonsValue type deeper v) : Abandons s type n t
  | part {type last u : TypeId} {n deeper : Nesting} {t w : Template}
      (hdeeper : n.enter? = some deeper) (hsilenced : s.isSilenced type = false)
      (hlast : s.resolveAlias? type = some last)
      (hwalks : s.WalksSelector type last t.selector u w) (h : Abandons s u deeper w) :
      Abandons s type n t

/-- A value with a part out of reach is not accepted. -/
theorem checkValue_not_ok_of_abandons {v : Value} (h : s.AbandonsValue type n v) :
    (s.checkValue type n v).1.ok = false := by
  rw [← Bool.not_eq_true]
  induction h with
  | here hnone =>
    intro hok
    obtain ⟨deeper, hdeeper, -⟩ := checkValue_ok_iff.mp hok
    cases hnone.symm.trans hdeeper
  | @part type t n deeper v w hdeeper hwalks _ ih =>
    intro hok
    obtain ⟨deeper', hdeeper', hparts⟩ := checkValue_ok_iff.mp hok
    obtain rfl := Option.some.inj (hdeeper.symm.trans hdeeper')
    cases hwalks with
    | field hsilenced hkind hv ht =>
      obtain ⟨-, hfields, -⟩ := hparts rfl hsilenced
      obtain ⟨t', ht', hvalue⟩ := hfields _ hv
      obtain rfl := Option.some.inj (ht.symm.trans ht')
      exact ih (hvalue _ rfl)
    | alternative hsilenced hkind ht =>
      obtain ⟨-, ⟨t', ht', hvalue⟩, -⟩ := hparts rfl hsilenced
      obtain rfl := Option.some.inj (ht.symm.trans ht')
      exact ih hvalue
    | element hsilenced hkind hv ht =>
      obtain ⟨-, helements, -⟩ := hparts rfl hsilenced
      exact ih (helements _ ht _ hv)

/-! ### Nothing of what was cut lies out of reach -/

theorem WalksValue.exists_cutAt {t : TypeId} {v w : Value}
    (h : s.WalksValue type (v.cutAt room) t w) :
    ∃ room', ∃ u : Value, room = room' + 1 ∧ w = u.cutAt room' := by
  cases room with
  | zero =>
    rw [Value.cutAt] at h
    cases h
  | succ room =>
    refine ⟨room, ?_⟩
    cases v with
    | unbound | scalar => cases h
    | union kind name v => cases h with
      | alternative => exact ⟨v, rfl, rfl⟩
    | record kind fields =>
      rw [Value.cutAt, Value.cutFieldsAt_eq_map] at h
      cases h with
      | field _ _ hv =>
        obtain ⟨f, -, hf⟩ := List.mem_map.mp hv
        cases f with
        | omitted => cases hf
        | present name v =>
          cases hf
          exact ⟨v, rfl, rfl⟩
    | list kind elements =>
      rw [Value.cutAt, Value.cutElementsAt_eq_map] at h
      cases h with
      | element _ _ hv =>
        obtain ⟨u, -, rfl⟩ := List.mem_map.mp hv
        exact ⟨u, rfl, rfl⟩

/-- A walk that comes to a value too deep has no more room than the levels that were left. -/
theorem AbandonsValue.room_le {v w : Value} (h : s.AbandonsValue type n w)
    (hw : w = v.cutAt room) : n.room ≤ room := by
  induction h generalizing v room with
  | here hnone =>
    rw [Nesting.enter?_eq_none_iff.mp hnone]
    exact Nat.zero_le _
  | part hdeeper hwalks _ ih =>
    subst hw
    obtain ⟨room', u, rfl, hu⟩ := hwalks.exists_cutAt
    rw [Nesting.room_of_enter? hdeeper]
    exact Nat.succ_le_succ (ih hu)

theorem WalksSelector.exists_cutAt {u : TypeId} {selector : Selector} {w : Template}
    (h : s.WalksSelector type last (Template.cutSelectorAt room selector) u w) :
    ∃ t : Template, w = t.cutAt room := by
  cases selector with
  | record kind fields =>
    rw [Template.cutSelectorAt, Template.cutFieldsAt_eq_map] at h
    cases h with
    | field _ hf =>
      obtain ⟨f, -, rfl⟩ := List.mem_map.mp hf
      exact ⟨f.template, rfl⟩
  | union kind name t => cases h with
    | alternative => exact ⟨t, rfl⟩
  | decoded target t => cases h with
    | decoded => exact ⟨t, rfl⟩
  | elements kind items => cases h with
    | element _ _ hu => exact Template.exists_of_mem_cutItemsAt hu
  | valueList items => cases h with
    | valueList hu => exact Template.exists_of_mem_cutItemsAt hu
  | complement items => cases h with
    | complement hu => exact Template.exists_of_mem_cutItemsAt hu
  | _ => cases h

/-- A walk that comes to a template or value too deep has no more room than the levels that were
left. -/
theorem Abandons.room_le {t w : Template} (h : s.Abandons type n w) (hw : w = t.cutAt room) :
    n.room ≤ room := by
  induction h generalizing t room with
  | here hnone =>
    rw [Nesting.enter?_eq_none_iff.mp hnone]
    exact Nat.zero_le _
  | @value type n deeper w v hdeeper _ hselector hvalue =>
    subst hw
    cases room with
    | zero =>
      rcases t.cutAt_zero with hcut | hcut
      all_goals
        rw [hcut] at hselector
        cases hselector
    | succ room =>
      obtain ⟨selector, ifPresent, length⟩ := t
      rw [Template.cutAt] at hselector
      cases selector with
      | specific u =>
        obtain rfl := Selector.specific.inj hselector
        rw [Nesting.room_of_enter? hdeeper]
        exact Nat.succ_le_succ (hvalue.room_le rfl)
      | _ => cases hselector
  | @part type last u n deeper w x hdeeper _ _ hwalks _ ih =>
    subst hw
    cases room with
    | zero =>
      rcases t.cutAt_zero with hcut | hcut
      all_goals
        rw [hcut] at hwalks
        cases hwalks
    | succ room =>
      obtain ⟨selector, ifPresent, length⟩ := t
      rw [Template.cutAt] at hwalks
      obtain ⟨y, hy⟩ := hwalks.exists_cutAt
      rw [Nesting.room_of_enter? hdeeper]
      exact Nat.succ_le_succ (ih hy)

/-! ### What is found within reach -/

theorem checkTemplate_of_enter?_eq_none (h : n.enter? = none) (isOptional : Bool) (t : Template) :
    (s.checkTemplate type isOptional n t).1 = .abandoned := by
  obtain ⟨selector, ifPresent, length⟩ := t
  rw [checkTemplate_mk, Nesting.within_of_none h]

theorem checkValue_unbound_complaints (kind : Kind) :
    (s.checkValue type n (.unbound kind)).1.complaints = [] := by
  rw [checkValue_unbound, Nesting.within]
  split <;> rfl

/-- There is nothing to complain about in what stands in place of a template that lies too deep. -/
theorem checkTemplate_cutAt_zero (isOptional : Bool) (t : Template) :
    (s.checkTemplate type isOptional n (t.cutAt 0)).1.complaints = [] := by
  cases hdeeper : n.enter? with
  | none => rw [checkTemplate_of_enter?_eq_none hdeeper]; rfl
  | some deeper =>
    rw [checkTemplate_findings hdeeper]
    rcases t.cutAt_zero with hcut | hcut
    all_goals
      rw [hcut]
      split
      · rfl
      cases s.resolveAlias? type <;> rfl

/-- A check that reaches further finds in the cut value what the check finds in the value. -/
theorem checkValue_cutAt (hn : n.room = room) (hwide : room ≤ wide.room) (v : Value) :
    (s.checkValue type wide (v.cutAt room)).1.complaints =
      (s.checkValue type n v).1.complaints := by
  induction room generalizing type n wide v with
  | zero =>
    rw [Value.cutAt, checkValue_unbound_complaints,
      checkValue_of_enter?_eq_none (Nesting.enter?_eq_none_iff.mpr hn)]
    rfl
  | succ room ih =>
    obtain ⟨deeper, hdeeper, hroom⟩ := Nesting.exists_deeper hn
    obtain ⟨wider, hwider, hwide⟩ := Nesting.exists_deeper_of_lt hwide
    have hparts : ∀ t (v : Value), (s.checkValue t wider (v.cutAt room)).1.complaints =
        (s.checkValue t deeper v).1.complaints := fun t v => ih hroom hwide v
    cases v with
    | unbound kind => rw [Value.cutAt, checkValue_unbound_complaints, checkValue_unbound_complaints]
    | scalar kind content =>
      rw [Value.cutAt, checkValue_scalar, checkValue_scalar, Nesting.within_of_enter? hwider,
        Nesting.within_of_enter? hdeeper]
      split
      · rfl
      split <;> rfl
    | record kind fields =>
      have hfield (f : FieldValue) : s.fieldComplaints type wider (f.cutAt room) =
          s.fieldComplaints type deeper f := by
        cases f with
        | omitted => rfl
        | present name v =>
          simp only [fieldComplaints, FieldValue.cutAt, FieldValue.name, FieldValue.value?,
            Option.elim_some, hparts]
      rw [Value.cutAt, checkValue_record_complaints hwider, checkValue_record_complaints hdeeper,
        Value.cutFieldsAt_eq_map, List.flatMap_map]
      simp only [hfield]
    | union kind name v =>
      rw [Value.cutAt, checkValue_union_complaints hwider, checkValue_union_complaints hdeeper]
      simp only [hparts]
    | list kind elements =>
      rw [Value.cutAt, checkValue_list_complaints hwider, checkValue_list_complaints hdeeper,
        Value.cutElementsAt_eq_map]
      simp only [List.flatMap_map, hparts]

/-- What is found in a cut selector is found in the selector, if this is so of its values and
templates. -/
theorem checkSelector_cutSelectorAt
    (hvalues : ∀ v : Value, (s.checkValue type wide (v.cutAt room)).1.complaints =
      (s.checkValue type n v).1.complaints)
    (hparts : ∀ u isOptional (t : Template),
      (s.checkTemplate u isOptional wide (t.cutAt room)).1.complaints =
        (s.checkTemplate u isOptional n t).1.complaints)
    (isOptional : Bool) (selector : Selector) :
    (s.checkSelector type last isOptional wide (Template.cutSelectorAt room selector)).1 =
      (s.checkSelector type last isOptional n selector).1 := by
  have hitems (u : TypeId) (isOptional : Bool) (items : List Template) :
      (s.checkTemplates u isOptional wide (Template.cutItemsAt room items)).1 =
        (s.checkTemplates u isOptional n items).1 := by
    simp only [checkTemplates_complaints, Template.cutItemsAt_eq_map, List.flatMap_map, hparts]
  cases selector with
  | specific v => exact hvalues v
  | record kind fields =>
    have hfield (f : FieldTemplate) :
        s.fieldTemplateComplaints type (s.get last) wide (f.cutAt room) =
          s.fieldTemplateComplaints type (s.get last) n f := by
      rw [fieldTemplateComplaints, FieldTemplate.cutAt]
      simp only [FieldTemplate.name, FieldTemplate.template, hparts]
      rfl
    have hfields : (s.checkFieldTemplates type (s.get last) wide
          (Template.cutFieldsAt room fields)).1 =
        (s.checkFieldTemplates type (s.get last) n fields).1 := by
      simp only [checkFieldTemplates_complaints, Template.cutFieldsAt_eq_map, List.flatMap_map,
        hfield]
    have hnames : (Template.cutFieldsAt room fields).map FieldTemplate.name =
        fields.map FieldTemplate.name := by
      rw [Template.cutFieldsAt_eq_map, List.map_map]
      rfl
    rw [Template.cutSelectorAt, checkSelector, checkSelector]
    dsimp only
    rw [hnames, hfields]
    split <;> rfl
  | union kind name t =>
    rw [Template.cutSelectorAt, checkSelector, checkSelector]
    split
    · cases s.fieldType last name with
      | none => rfl
      | some u => exact hparts u false t
    · rfl
  | elements kind items =>
    have hcount : dimensionComplaints (s.get last) (s.name type) (Template.cutItemsAt room items) =
        dimensionComplaints (s.get last) (s.name type) items := by
      simp only [dimensionComplaints, Template.fixedCount_cutItemsAt]
    rw [Template.cutSelectorAt, checkSelector, checkSelector]
    dsimp only
    rw [hcount]
    split
    · cases s.elementType last with
      | none => rfl
      | some u => exact congrArg (_ ++ ·) (hitems u false items)
    · rfl
  | valueList items => exact hitems type isOptional items
  | complement items => exact hitems type isOptional items
  | decoded target t =>
    rw [Template.cutSelectorAt, checkSelector, checkSelector]
    split
    · cases s.lookup target.name with
      | none => rfl
      | some u => exact hparts u false t
    · rfl
  | range r =>
    rw [Template.cutSelectorAt, checkSelector, checkSelector]
    split <;> rfl
  | pattern p =>
    rw [Template.cutSelectorAt, checkSelector, checkSelector]
    split <;> rfl
  | _ => rfl

/-- A check that reaches further finds in the cut template what the check finds in the template. -/
theorem checkTemplate_cutAt (hn : n.room = room) (hwide : room ≤ wide.room) (isOptional : Bool)
    (t : Template) : (s.checkTemplate type isOptional wide (t.cutAt room)).1.complaints =
      (s.checkTemplate type isOptional n t).1.complaints := by
  induction room generalizing type n wide isOptional t with
  | zero =>
    rw [checkTemplate_cutAt_zero,
      checkTemplate_of_enter?_eq_none (Nesting.enter?_eq_none_iff.mpr hn)]
    rfl
  | succ room ih =>
    obtain ⟨deeper, hdeeper, hroom⟩ := Nesting.exists_deeper hn
    obtain ⟨wider, hwider, hwide⟩ := Nesting.exists_deeper_of_lt hwide
    have hselector (last : TypeId) (selector : Selector) :
        (s.checkSelector type last isOptional wider (Template.cutSelectorAt room selector)).1 =
          (s.checkSelector type last isOptional deeper selector).1 :=
      checkSelector_cutSelectorAt (checkValue_cutAt hroom hwide)
        (fun _ isOptional t => ih hroom hwide isOptional t) isOptional selector
    obtain ⟨selector, ifPresent, length⟩ := t
    rw [Template.cutAt, checkTemplate_findings hwider, checkTemplate_findings hdeeper]
    simp only [Template.selector, hselector]
    rfl

end Store

/-- **Templates that are nested too deep.**  The check of a template answers and reports what a
check that reaches further does about the template cut where the first one has to give up, and
the further check walks the cut template to its end: parts out of reach do not count.  The check of
a value refuses it if a part of it lies out of reach. -/
theorem Check.template_eq_cutAt {s : Session} (hroom : 0 < s.nesting.room) {wide : Nesting}
    (hwide : s.nesting.room < wide.room) (location : Location) (type : TypeId) (isOptional : Bool)
    (t : Template) :
    ¬ s.store.Abandons type wide (t.cutAt s.nesting.room) ∧
      (Check.template location type t isOptional).run s =
        ((s.store.checkTemplate type isOptional wide (t.cutAt s.nesting.room)).1.ok,
          s.emitAll location
            (s.store.checkTemplate type isOptional wide (t.cutAt s.nesting.room)).1.complaints) ∧
      ∀ v, s.store.AbandonsValue type s.nesting v →
        ((Check.value location type v).run s).1 = false := by
  have hcut : (s.store.checkTemplate type isOptional wide (t.cutAt s.nesting.room)).1 =
      (s.store.checkTemplate type isOptional s.nesting t).1 := by
    obtain ⟨deeper, hdeeper, -⟩ := Nesting.exists_deeper_of_lt hroom
    obtain ⟨wider, hwider, -⟩ := Nesting.exists_deeper_of_lt (Nat.lt_of_le_of_lt hroom hwide)
    have hcomplaints :
        (s.store.checkTemplate type isOptional wide (t.cutAt s.nesting.room)).1.complaints =
          (s.store.checkTemplate type isOptional s.nesting t).1.complaints :=
      Store.checkTemplate_cutAt rfl (Nat.le_of_lt hwide) isOptional t
    rw [Store.checkTemplate_findings hwider, Store.checkTemplate_findings hdeeper] at hcomplaints ⊢
    exact congrArg Findings.ofComplaints hcomplaints
  refine ⟨fun habandons => ?_, ?_, fun v hv => Store.checkValue_not_ok_of_abandons hv⟩
  · exact absurd (habandons.room_le rfl) (Nat.not_le.mpr hwide)
  · obtain ⟨collector, errorCount, hreported, -⟩ := s.emitAll_eq location
      (s.store.checkTemplate type isOptional s.nesting t).1.complaints
    have hrun : (Check.template location type t isOptional).run s =
        ((s.store.checkTemplate type isOptional s.nesting t).1.ok,
          { s.emitAll location (s.store.checkTemplate type isOptional s.nesting t).1.complaints with
            nesting := (s.store.checkTemplate type isOptional s.nesting t).2 }) := rfl
    rw [hrun, hcut, hreported, Store.checkTemplate_nesting]

/-- A session over lists of lists. -/
def Session.lists : Session where
  store := ⟨#[{ name := "Lists", kind := .recordOf, element := some (.name "Lists") }]⟩
  pass := 1

/-- The empty list in so many lists. -/
def Value.listIn : Nat → Value
  | 0 => .list .recordOf []
  | levels + 1 => .list .recordOf [listIn levels]

/-- More lists in one another than a walk has room for are not walked to the end. -/
theorem Store.abandonsValue_listIn {n : Nesting} {levels : Nat} (h : n.room ≤ levels) :
    Session.lists.store.AbandonsValue 0 n (.listIn levels) := by
  induction levels generalizing n with
  | zero => exact .here (Nesting.enter?_eq_none_iff.mpr (Nat.le_zero.mp h))
  | succ levels ih =>
    cases hdeeper : n.enter? with
    | none => exact .here hdeeper
    | some deeper =>
      rw [Nesting.room_of_enter? hdeeper] at h
      have hwalks : Session.lists.store.WalksValue 0 (.listIn (levels + 1)) 0 (.listIn levels) :=
        .element (by decide) (by decide) List.mem_cons_self (by decide)
      exact .part hdeeper hwalks (ih (Nat.le_of_succ_le_succ h))

/-- At the top level, lists that lie too deep are refused as a value; what a check that reaches one
level further finds in them cut to size is what is found in them as a template, which is nothing. -/
theorem Check.template_eq_cutAt_lists :
    Session.lists.nesting.room = 256 ∧
      ((Check.value {} 0 (.listIn 256)).run Session.lists).1 = false ∧
      ¬ Session.lists.store.Abandons 0 { maxDepth := 257 }
        ((Template.specific (.listIn 256)).cutAt 256) ∧
      (Check.template {} 0 (.specific (.listIn 256)) false).run Session.lists =
        ((Session.lists.store.checkTemplate 0 false { maxDepth := 257 }
            ((Template.specific (.listIn 256)).cutAt 256)).1.ok,
          Session.lists.emitAll {} (Session.lists.store.checkTemplate 0 false { maxDepth := 257 }
            ((Template.specific (.listIn 256)).cutAt 256)).1.complaints) := by
  have hroom : Session.lists.nesting.room = 256 := rfl
  obtain ⟨hwalked, hrun, hvalue⟩ := Check.template_eq_cutAt (s := Session.lists) (by decide)
    (show _ < Nesting.room { maxDepth := 257 } by decide) {} 0 false (.specific (.listIn 256))
  rw [hroom] at hwalked hrun
  exact ⟨hroom, hvalue _ (Store.abandonsValue_listIn (by decide)), hwalked, hrun⟩

/-- A template of lists that lie too deep is accepted at the top level. -/
theorem Check.template_true_listIn :
    Session.lists.store.isSilenced 0 = false ∧
      Session.lists.store.Abandons 0 Session.lists.nesting (.specific (.listIn 256)) ∧
      ((Check.template {} 0 (.specific (.listIn 256)) false).run Session.lists).1 = true :=
  ⟨by decide, .value rfl (by decide) rfl (Store.abandonsValue_listIn (by decide)),
    by decide +kernel⟩

end TestSpec
