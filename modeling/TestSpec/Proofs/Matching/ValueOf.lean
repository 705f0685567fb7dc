import TestSpec.Proofs.Matching.Elements
import TestSpec.Proofs.Template.Nodes
import TestSpec.Proofs.Value.Equality

/-!
# The value of a template

A template stands for one value if no node of it leaves a choice.  The value is built as
the template is: fields in the order of the field templates, an omitted field for `omit`,
elements in the order of the items (`Selector.StandsFor`).

Matching takes the template apart in another way: it looks fields up by their names, and
asks about one item and one part at a time.  Still both agree on a **regular** template
(`Template.Regular`).  It matches what its value is equal to (`Template.matchAt_of_equals`), and
where no record template is in it, nothing else (`Template.equals_of_matchAt`).  A record
template is satisfied by more: it asks neither for the order of the fields nor for fields
that it does not name.

Main statement: `Template.isMatch_valueOf`.
-/

namespace TestSpec

/-! ### What a template stands for -/

/-- A template for a field stands for the field: omitted, or with the value of the template. -/
inductive FieldTemplate.StandsFor : FieldTemplate → FieldValue → Prop
  | omitted {name : String} {t : Template} (h : t.selector = .omit) :
      StandsFor (.mk name t) (.omitted name)
  | present {name : String} {t : Template} {v : Value} (h : t.valueOf = .ok v) :
      StandsFor (.mk name t) (.present name v)

theorem FieldTemplate.StandsFor.name_eq {f : FieldTemplate} {x : FieldValue}
    (h : f.StandsFor x) : f.name = x.name := by
  cases h <;> rfl

/-- A selector stands for a value, which is made of the values of its parts. -/
inductive Selector.StandsFor : Selector → Value → Prop
  | specific {v : Value} : StandsFor (.specific v) v
  | record {kind : Kind} {fields : List FieldTemplate} {values : List FieldValue}
      (hfields : List.Forall₂ FieldTemplate.StandsFor fields values) :
      StandsFor (.record kind fields) (.record kind values)
  | union {kind : Kind} {alternative : String} {t : Template} {v : Value}
      (hpart : t.valueOf = .ok v) :
      StandsFor (.union kind alternative t) (.union kind alternative v)
  | elements {kind : Kind} {items : List Template} {values : List Value}
      (hitems : List.Forall₂ (fun item v => item.valueOf = .ok v) items values) :
      StandsFor (.elements kind items) (.list kind values)

namespace Template

variable {ctx : MatchContext} {depth : Nat} {t u : Template} {v w : Value}

theorem fieldValues_eq_ok {fields : List FieldTemplate} {values : List FieldValue}
    (h : fieldValues fields = .ok values) :
    List.Forall₂ FieldTemplate.StandsFor fields values := by
  induction fields generalizing values with
  | nil =>
    obtain rfl := Except.ok.inj h
    exact .nil
  | cons f rest ih =>
    obtain ⟨name, t⟩ := f
    by_cases homit : t.selector = .omit
    · obtain ⟨selector, ifPresent, length⟩ := t
      obtain rfl : selector = .omit := homit
      rw [fieldValues] at h
      obtain ⟨others, hothers, rfl⟩ := map_eq_ok.mp h
      exact .cons (.omitted rfl) (ih hothers)
    · rw [fieldValues.eq_3 _ _ _ fun _ _ heq => homit (congrArg selector heq)] at h
      split at h
      · cases h
      rename_i v hv
      obtain ⟨others, hothers, rfl⟩ := map_eq_ok.mp h
      exact .cons (.present hv) (ih hothers)

theorem itemValues_eq_ok {items : List Template} {values : List Value}
    (h : itemValues items = .ok values) :
    List.Forall₂ (fun item v => item.valueOf = .ok v) items values := by
  induction items generalizing values with
  | nil =>
    obtain rfl := Except.ok.inj h
    exact .nil
  | cons item rest ih =>
    rw [itemValues] at h
    split at h
    · cases h
    rename_i v hv
    obtain ⟨others, hothers, rfl⟩ := map_eq_ok.mp h
    exact .cons hv (ih hothers)

/-- A template with a value has a selector that stands for the value. -/
theorem standsFor_of_valueOf (h : t.valueOf = .ok v) : t.selector.StandsFor v := by
  obtain ⟨selector, ifPresent, length⟩ := t
  cases ifPresent with
  | true => cases h
  | false =>
    rw [valueOf] at h
    cases selector with
    | specific value =>
      rw [selectorValue] at h
      split at h
      · obtain rfl := Except.ok.inj h
        exact .specific
      · cases h
    | record kind fields =>
      obtain ⟨values, hvalues, rfl⟩ := map_eq_ok.mp h
      exact .record (fieldValues_eq_ok hvalues)
    | union kind alternative part =>
      obtain ⟨value, hvalue, rfl⟩ := map_eq_ok.mp h
      exact .union hvalue
    | elements kind items =>
      obtain ⟨values, hvalues, rfl⟩ := map_eq_ok.mp h
      exact .elements (itemValues_eq_ok hvalues)
    | _ => cases h

/-- A bare `*` has no value, so none is among items that have one each. -/
theorem any_isRun_eq_false {items : List Template} {values : List Value}
    (h : List.Forall₂ (fun item v => item.valueOf = .ok v) items values) :
    items.any isRun = false := by
  rw [List.any_eq_false]
  intro item hitem hrun
  obtain ⟨v, -, hv⟩ := exists_of_mem_right h.flip item hitem
  have hstands := standsFor_of_valueOf hv
  obtain ⟨selector, ifPresent, length⟩ := item
  cases hstands <;> cases hrun

/-! ### Regular templates -/

/-- No node of the template restricts the length, each record template in it names distinct fields,
and the specific values in it are bound at every depth. -/
structure Regular (t : Template) : Prop where
  unrestricted : ∀ u, t.HasNode u → u.length = none
  distinct : ∀ u kind fields, t.HasNode u → u.selector = .record kind fields →
    (fields.map FieldTemplate.name).Nodup
  bound : ∀ u v, t.HasNode u → u.selector = .specific v → v.isFullyBound = true

theorem Regular.part (h : t.Regular) (hu : u ∈ t.parts) : u.Regular where
  unrestricted w hw := h.unrestricted w (.part hu hw)
  distinct w kind fields hw := h.distinct w kind fields (.part hu hw)
  bound w v hw := h.bound w v (.part hu hw)

/-- A template is regular if its parts are, and it has no fault of its own. -/
theorem Regular.of_parts (hlength : t.length = none)
    (hdistinct : ∀ kind fields, t.selector = .record kind fields →
      (fields.map FieldTemplate.name).Nodup)
    (hbound : ∀ v, t.selector = .specific v → v.isFullyBound = true)
    (hparts : ∀ u ∈ t.parts, u.Regular) : t.Regular where
  unrestricted := forall_node_of_parts hlength fun w hw => (hparts w hw).unrestricted
  distinct u kind fields hu := forall_node_of_parts hdistinct
    (fun w hw u hu kind fields => (hparts w hw).distinct u kind fields hu) u hu kind fields
  bound u v hu := forall_node_of_parts hbound
    (fun w hw u hu v => (hparts w hw).bound u v hu) u hu v

theorem Regular.specific (hv : v.isFullyBound = true) : (Template.specific v).Regular :=
  .of_parts rfl nofun (fun _ hw => Selector.specific.inj hw ▸ hv) nofun

/-- No node of the template is a record template. -/
def HasNoRecord (t : Template) : Prop :=
  ∀ u kind fields, t.HasNode u → u.selector ≠ .record kind fields

theorem HasNoRecord.part (h : t.HasNoRecord) (hu : u ∈ t.parts) : u.HasNoRecord :=
  fun w kind fields hw => h w kind fields (.part hu hw)

theorem HasNoRecord.of_parts (ht : ∀ kind fields, t.selector ≠ .record kind fields)
    (hparts : ∀ u ∈ t.parts, u.HasNoRecord) : t.HasNoRecord :=
  fun u kind fields hu => forall_node_of_parts ht
    (fun w hw u hu kind fields => hparts w hw u kind fields hu) u hu kind fields

/-- The value of a template whose specific values are bound at every depth is so too. -/
theorem Regular.isFullyBound (hregular : t.Regular) (h : t.valueOf = .ok v) :
    v.isFullyBound = true := by
  induction t using induction_parts generalizing v with
  | step t ih =>
    have hstands := standsFor_of_valueOf h
    obtain ⟨selector, ifPresent, length⟩ := t
    cases hstands with
    | specific => exact hregular.bound _ _ .self rfl
    | @record kind fields values hfields =>
      rw [Value.isFullyBound, Value.fieldsFullyBound_iff]
      intro x hx w hw
      obtain ⟨f, hf, hstands⟩ := exists_of_mem_right hfields x hx
      have hmem : f.template ∈ fields.map FieldTemplate.template := List.mem_map_of_mem hf
      cases hstands with
      | omitted => cases hw
      | present hpart =>
        obtain rfl := Option.some.inj hw
        exact ih _ hmem (hregular.part hmem) hpart
    | @union kind alternative part value hpart =>
      have hmem := List.mem_singleton_self part
      have hvalue : value.isFullyBound = true := ih _ hmem (hregular.part hmem) hpart
      exact hvalue
    | elements hitems =>
      rw [Value.isFullyBound, Value.elementsFullyBound_iff]
      intro w hw
      obtain ⟨item, hitem, hpart⟩ := exists_of_mem_right hitems w hw
      exact ih _ hitem (hregular.part hitem) hpart

/-! ### Matching, node by node -/

/-- Without a length restriction, a template with a value matches the bound values that its selector
selects. -/
theorem matchAt_eq_true_iff (hlength : t.length = none) (hdepth : depth < maxMatchDepth)
    (h : t.valueOf = .ok v) :
    matchAt ctx depth t w = .ok true ↔
      w.isBound = true ∧ selectorMatch ctx depth t.selector w = .ok true := by
  have hstands := standsFor_of_valueOf h
  obtain ⟨selector, ifPresent, length⟩ := t
  obtain rfl : length = none := hlength
  have hinit : isInitialized (.mk selector false none) = true := by
    cases hstands <;> rfl
  rw [matchAt_mk, if_neg (Nat.not_le.mpr hdepth), hinit]
  cases w.isBound <;> simp [Template.selector]

theorem selectorMatch_union_eq_true_iff {kind : Kind} {alternative : String} :
    selectorMatch ctx depth (.union kind alternative t) w = .ok true ↔
      ∃ kind' v, w = .union kind' alternative v ∧ v.isBound = true ∧
        matchAt ctx (depth + 1) t v = .ok true := by
  cases w with
  | union kind' selected v =>
    rw [selectorMatch]
    split
    · rename_i h
      obtain ⟨rfl, hbound⟩ := h
      simp [hbound]
    · rename_i h
      constructor
      · nofun
      · rintro ⟨_, _, ⟨⟩, hbound, -⟩
        exact absurd ⟨rfl, hbound⟩ h
  | _ => simp [selectorMatch]

/-- Items without a bare `*` match a list exactly if they match its elements one by one. -/
theorem selectorMatch_elements_eq_true_iff {kind : Kind} {items : List Template}
    (hrun : items.any isRun = false) :
    selectorMatch ctx depth (.elements kind items) w = .ok true ↔
      ∃ kind' values, w = .list kind' values ∧
        List.Forall₂ (fun item v => matchAt ctx (depth + 1) item v = .ok true) items values := by
  cases w with
  | list kind' values =>
    rw [selectorMatch_elements]
    constructor
    · intro h
      exact ⟨_, _, rfl, (cuts_iff_forall₂ hrun).mp ((matchesElements_cuts h).mp rfl)⟩
    · rintro ⟨_, _, ⟨⟩, h⟩
      rw [matchesElements_eq, hrun, if_neg Bool.false_ne_true, if_pos h.length_eq]
      exact (matchesEach_eq_true_iff h.length_eq).mpr h
  | _ => simp [selectorMatch]

/-- Field templates match where each finds its field under its name: omitted where the template
accepts that, or with a value that matches. -/
theorem matchesFields_eq_true {kind : Kind} {values : List FieldValue}
    {fields : List FieldTemplate}
    (h : ∀ f ∈ fields, ∃ x, (values.find? fun x => x.name == f.name) = some x ∧
      (x.value? = none → matchesOmit ctx.isLegacy f.template = true) ∧
      ∀ v ∈ x.value?, matchAt ctx depth f.template v = .ok true) :
    matchesFields ctx depth kind values fields = .ok true := by
  induction fields with
  | nil => rfl
  | cons f rest ih =>
    obtain ⟨name, template⟩ := f
    rw [List.forall_mem_cons] at h
    obtain ⟨⟨x, hx, homitted, hpresent⟩, hrest⟩ := h
    rw [matchesFields, show (values.find? fun x => x.name == name) = some x from hx]
    cases x with
    | omitted =>
      have homit : matchesOmit ctx.isLegacy template = true := homitted rfl
      simpa [homit] using ih hrest
    | present _ v =>
      have hv : matchAt ctx depth template v = .ok true := hpresent v rfl
      simpa [hv] using ih hrest

/-! ### Matching and equality -/

theorem matchesOmit_of_selector {isLegacy : Bool} (h : t.selector = .omit) :
    matchesOmit isLegacy t = true := by
  obtain ⟨selector, ifPresent, length⟩ := t
  obtain rfl : selector = .omit := h
  exact Bool.or_true ifPresent

/-- The parts of a template are asked one level deeper, where there is room for them. -/
theorem depth_of_mem_parts (hdepth : depth + t.height ≤ maxMatchDepth) (hu : u ∈ t.parts) :
    depth + 1 + u.height ≤ maxMatchDepth := by
  have hlt := height_lt_of_mem_parts hu
  omega

theorem depth_lt (hdepth : depth + t.height ≤ maxMatchDepth) : depth < maxMatchDepth := by
  rw [height_eq] at hdepth
  omega

/-- Field templates that stand for fields match a record with equal ones, since these are found
under the names of the templates. -/
theorem matchesFields_of_standsFor {kind : Kind} {fields : List FieldTemplate}
    {values others : List FieldValue} (hdistinct : (fields.map FieldTemplate.name).Nodup)
    (hfields : List.Forall₂ FieldTemplate.StandsFor fields values)
    (hequal : List.Forall₂ (FieldValue.Related fun a b => a.equals b = .ok true) others values)
    (hparts : ∀ f ∈ fields, ∀ v w, f.template.valueOf = .ok v → w.equals v = .ok true →
      matchAt ctx depth f.template w = .ok true) :
    matchesFields ctx depth kind others fields = .ok true := by
  have htogether : List.Forall₂ (fun f y => f.name = y.name ∧ ∃ x : FieldValue, f.StandsFor x ∧
      y.Related (fun a b => a.equals b = .ok true) x) fields others :=
    forall₂_of_common hfields.flip hequal.flip fun x _ f y hf hy =>
      ⟨hf.name_eq.trans hy.name_eq.symm, x, hf, hy⟩
  have hnames : fields.map FieldTemplate.name = others.map FieldValue.name := by
    rw [← List.forall₂_eq_eq_eq, List.forall₂_map_left_iff, List.forall₂_map_right_iff]
    exact htogether.imp fun _ _ h => h.1
  rw [hnames] at hdistinct
  refine matchesFields_eq_true fun f hf => ?_
  obtain ⟨y, hy, hname, x, hstands, hrelated⟩ := exists_of_mem_right htogether.flip f hf
  refine ⟨y, ?_, ?_, ?_⟩
  · rw [hname]
    exact Value.find?_field hdistinct hy
  · intro hnone
    cases hrelated with
    | present => cases hnone
    | omitted =>
      cases hstands with
      | omitted hselector => exact matchesOmit_of_selector hselector
  · intro w hw
    cases hrelated with
    | omitted => cases hw
    | present hequal =>
      obtain rfl := Option.some.inj hw
      cases hstands with
      | present hvalue => exact hparts _ hf _ _ hvalue hequal

/-- A regular template with a value matches all that is equal to the value. -/
theorem matchAt_of_equals (hregular : t.Regular) (hdepth : depth + t.height ≤ maxMatchDepth)
    (h : t.valueOf = .ok v) (hequal : w.equals v = .ok true) :
    matchAt ctx depth t w = .ok true := by
  induction t using induction_parts generalizing depth v w with
  | step t ih =>
    have hdeeper : ∀ u ∈ t.parts, depth + 1 + u.height ≤ maxMatchDepth :=
      fun u hu => depth_of_mem_parts hdepth hu
    have hstands := standsFor_of_valueOf h
    rw [matchAt_eq_true_iff (hregular.unrestricted t .self) (depth_lt hdepth) h]
    refine ⟨Value.isBound_of_equals hequal, ?_⟩
    obtain ⟨selector, ifPresent, length⟩ := t
    cases hstands with
    | specific => exact hequal
    | @record kind fields values hfields =>
      obtain ⟨kind', others, rfl, hothers⟩ := Value.equals_record_iff.mp hequal
      have hdistinct := hregular.distinct _ _ _ .self rfl
      refine matchesFields_of_standsFor hdistinct hfields hothers fun f hf v w hv hw => ?_
      have hmem : f.template ∈ fields.map FieldTemplate.template := List.mem_map_of_mem hf
      exact ih _ hmem (hregular.part hmem) (hdeeper _ hmem) hv hw
    | @union kind alternative part _ hpart =>
      obtain ⟨kind', w, rfl, hw⟩ := Value.equals_union_iff.mp hequal
      have hmem := List.mem_singleton_self part
      exact selectorMatch_union_eq_true_iff.mpr ⟨_, _, rfl, Value.isBound_of_equals hw,
        ih _ hmem (hregular.part hmem) (hdeeper _ hmem) hpart hw⟩
    | @elements kind items values hitems =>
      obtain ⟨kind', others, rfl, hothers⟩ := Value.equals_list_iff.mp hequal
      have hmem : List.Forall₂ (fun item v => item ∈ items ∧ item.valueOf = .ok v) items values :=
        (List.forall₂_and_left _ _).mpr ⟨fun _ hitem => hitem, hitems⟩
      refine (selectorMatch_elements_eq_true_iff (any_isRun_eq_false hitems)).mpr ⟨_, _, rfl, ?_⟩
      exact forall₂_of_common hmem.flip hothers.flip fun v _ item w hitem hw =>
        ih _ hitem.1 (hregular.part hitem.1) (hdeeper _ hitem.1) hitem.2 hw

/-- A regular template with a value and without record templates matches nothing but what is equal
to the value. -/
theorem equals_of_matchAt (hregular : t.Regular) (hrecord : t.HasNoRecord)
    (hdepth : depth + t.height ≤ maxMatchDepth) (h : t.valueOf = .ok v)
    (hmatch : matchAt ctx depth t w = .ok true) : w.equals v = .ok true := by
  induction t using induction_parts generalizing depth v w with
  | step t ih =>
    have hdeeper : ∀ u ∈ t.parts, depth + 1 + u.height ≤ maxMatchDepth :=
      fun u hu => depth_of_mem_parts hdepth hu
    have hstands := standsFor_of_valueOf h
    rw [matchAt_eq_true_iff (hregular.unrestricted t .self) (depth_lt hdepth) h] at hmatch
    obtain ⟨hbound, hselected⟩ := hmatch
    obtain ⟨selector, ifPresent, length⟩ := t
    cases hstands with
    | specific => exact hselected
    | record => exact absurd rfl (hrecord _ _ _ .self)
    | @union kind alternative part _ hpart =>
      obtain ⟨kind', w, rfl, -, hw⟩ := selectorMatch_union_eq_true_iff.mp hselected
      have hmem := List.mem_singleton_self part
      exact Value.equals_union_iff.mpr ⟨_, _, rfl,
        ih _ hmem (hregular.part hmem) (hrecord.part hmem) (hdeeper _ hmem) hpart hw⟩
    | @elements kind items values hitems =>
      have hmem : List.Forall₂ (fun item v => item ∈ items ∧ item.valueOf = .ok v) items values :=
        (List.forall₂_and_left _ _).mpr ⟨fun _ hitem => hitem, hitems⟩
      obtain ⟨kind', others, rfl, hothers⟩ :=
        (selectorMatch_elements_eq_true_iff (any_isRun_eq_false hitems)).mp hselected
      refine Value.equals_list_iff.mpr ⟨_, _, rfl, ?_⟩
      exact forall₂_of_common hothers hmem fun item _ w v hw hitem =>
        ih _ hitem.1 (hregular.part hitem.1) (hrecord.part hitem.1) (hdeeper _ hitem.1) hitem.2 hw

/-- **The value of a template.**  Let a regular template that is nested less deep than matching goes
have a value.  Then the value is bound at every depth and matches the template, under the older
rules for omitted fields as well as the newer ones, with any codec; and if no record template is in
the template, it matches exactly what is equal to the value. -/
theorem isMatch_valueOf (hregular : t.Regular) (hheight : t.height ≤ maxMatchDepth)
    (h : t.valueOf = .ok v) :
    v.isFullyBound = true ∧ (∀ ctx, t.isMatch ctx v = .ok true) ∧
      (t.HasNoRecord → ∀ ctx w, t.isMatch ctx w = .ok true ↔ w.equals v = .ok true) := by
  have hbound : v.isFullyBound = true := hregular.isFullyBound h
  have hdepth : 0 + t.height ≤ maxMatchDepth := by omega
  refine ⟨hbound, fun ctx => ?_, fun hrecord ctx w => ⟨fun hmatch => ?_, fun hequal => ?_⟩⟩
  · exact matchAt_of_equals hregular hdepth h (v.equals_self hbound)
  · exact equals_of_matchAt hregular hrecord hdepth h hmatch
  · exact matchAt_of_equals hregular hdepth h hequal

/-- The list of two numbers, item by item. -/
def oneTwo : Template :=
  .ofSelector (.elements .recordOf [specific (.integer 1), specific (.integer 2)])

/-- A record with the numbers under one name, and nothing under the other. -/
def numbersOnly : Template :=
  .ofSelector (.record .record [.mk "numbers" oneTwo, .mk "note" (.ofSelector .omit)])

theorem oneTwo_regular : oneTwo.Regular :=
  .of_parts rfl nofun nofun
    (List.forall_mem_cons.mpr ⟨.specific rfl, List.forall_mem_cons.mpr ⟨.specific rfl, nofun⟩⟩)

theorem numbersOnly_regular : numbersOnly.Regular := by
  have homit : (Template.ofSelector .omit).Regular := .of_parts rfl nofun nofun nofun
  refine .of_parts rfl (fun kind fields h => ?_) nofun
    (List.forall_mem_cons.mpr ⟨oneTwo_regular, List.forall_mem_cons.mpr ⟨homit, nofun⟩⟩)
  obtain ⟨-, rfl⟩ := Selector.record.inj h
  decide

/-- The record matches the value that it stands for, and the list in it matches just the lists of
the two numbers. -/
theorem isMatch_valueOf_numbersOnly :
    (∃ v, numbersOnly.valueOf = .ok v ∧ ∀ ctx, numbersOnly.isMatch ctx v = .ok true) ∧
      ∀ ctx w, oneTwo.isMatch ctx w = .ok true ↔
        w.equals (.list .recordOf [.integer 1, .integer 2]) = .ok true := by
  have hspecific : ∀ v, (specific v).HasNoRecord := fun v => .of_parts nofun nofun
  have hrecord : oneTwo.HasNoRecord := .of_parts nofun
    (List.forall_mem_cons.mpr ⟨hspecific _, List.forall_mem_cons.mpr ⟨hspecific _, nofun⟩⟩)
  refine ⟨⟨_, rfl, ?_⟩, ?_⟩
  · exact (isMatch_valueOf numbersOnly_regular (by decide) rfl).2.1
  · exact (isMatch_valueOf oneTwo_regular (by decide) rfl).2.2 hrecord

end Template

end TestSpec
