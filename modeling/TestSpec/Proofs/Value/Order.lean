import Mathlib.Data.List.Forall2
import Mathlib.Data.List.Nodup
import Mathlib.Data.List.Zip
import TestSpec.Proofs.Constraint.Place
import TestSpec.Proofs.Matching.Operations

/-!
# The order of members

Values keep the fields of records and sets in the order in which they were written,
and equality goes field by field in that order.  `Value.Reorders` says of two values
that they are the same but for that order, at any depth; `Value.isInStep` says of two
values that wherever a record or set of one meets a record or set of the other, the
fields have the same names in the same order.

Main statement: `Value.Reorders.equals_eq`.  The order of fields takes part in a
comparison only by the two values being in step or not.
-/

namespace TestSpec

/-- Two fields of one name, both omitted or with values in a relation. -/
inductive FieldValue.Related (R : Value → Value → Prop) : FieldValue → FieldValue → Prop
  | present {name : String} {v w : Value} (h : R v w) :
      Related R (.present name v) (.present name w)
  | omitted {name : String} : Related R (.omitted name) (.omitted name)

theorem FieldValue.Related.name_eq {R : Value → Value → Prop} {f g : FieldValue}
    (h : f.Related R g) : f.name = g.name := by
  cases h <;> rfl

theorem FieldValue.related_present {R : Value → Value → Prop} {name : String} {v : Value}
    {f : FieldValue} : Related R (.present name v) f ↔ ∃ w, f = .present name w ∧ R v w := by
  constructor
  · rintro ⟨h⟩
    exact ⟨_, rfl, h⟩
  · rintro ⟨w, rfl, h⟩
    exact .present h

theorem FieldValue.related_omitted {R : Value → Value → Prop} {name : String} {f : FieldValue} :
    Related R (.omitted name) f ↔ f = .omitted name := by
  constructor
  · rintro ⟨⟩
    rfl
  · rintro rfl
    exact .omitted

/-- Items at one position of two lists are zipped. -/
theorem getElem_mem_zip {α β : Type} {as : List α} {bs : List β} {i : Nat} (hi : i < as.length)
    (hi' : i < bs.length) : (as[i], bs[i]) ∈ as.zip bs :=
  List.mem_iff_getElem.mpr ⟨i, by simp only [List.length_zip]; omega, List.getElem_zip⟩

/-- What two lists have in common with a third tells how they go together. -/
theorem forall₂_of_common {α β γ : Type} {R : α → β → Prop} {Q : α → γ → Prop} {P : β → γ → Prop}
    {as : List α} {bs : List β} {cs : List γ} (hR : List.Forall₂ R as bs)
    (hQ : List.Forall₂ Q as cs) (h : ∀ a ∈ as, ∀ b c, R a b → Q a c → P b c) :
    List.Forall₂ P bs cs := by
  induction hR generalizing cs with
  | nil =>
    cases hQ
    exact .nil
  | cons hr _ ih =>
    cases hQ with
    | cons hq hQ =>
      rw [List.forall_mem_cons] at h
      exact .cons (h.1 _ _ hr hq) (ih hQ h.2)

/-- Each member of the second of two lists that go together has a counterpart in the first. -/
theorem exists_of_mem_right {α β : Type} {R : α → β → Prop} {as : List α} {bs : List β}
    (h : List.Forall₂ R as bs) : ∀ b ∈ bs, ∃ a ∈ as, R a b := by
  induction h with
  | nil => exact fun _ hb => absurd hb List.not_mem_nil
  | cons hr _ ih =>
    rw [List.forall_mem_cons]
    refine ⟨⟨_, List.mem_cons_self, hr⟩, fun b hb => ?_⟩
    obtain ⟨a, ha, hr⟩ := ih b hb
    exact ⟨a, List.mem_cons_of_mem _ ha, hr⟩

/-- Content without parts is equal to itself, also if it is not a number. -/
theorem Scalar.equals_self (content : Scalar) : content.equals content = true := by
  cases content with
  | real x =>
    cases hplace : x.place? with
    | none =>
      cases x with
      | nan => rfl
      | infinite negative | finite negative significand exponent => cases hplace
    | some i =>
      have hcompare := Binary64.compare?_of_place hplace hplace
      simp [equals, Binary64.sameValue, hcompare]
  | enumerated name ordinal => simp [equals]
  | _ => simp [equals]

namespace Value

/-- The same values but for the order of the fields of records and sets.  All parts are bound, and
the fields of each record or set have distinct names. -/
inductive Reorders : Value → Value → Prop
  | scalar {kind : Kind} {content : Scalar} : Reorders (.scalar kind content) (.scalar kind content)
  | record {kind : Kind} {fields fields' : List FieldValue}
      (hdistinct : (fields.map FieldValue.name).Nodup)
      (hnames : (fields.map FieldValue.name).Perm (fields'.map FieldValue.name))
      (homitted : ∀ name, .omitted name ∈ fields ↔ .omitted name ∈ fields')
      (hvalues : ∀ name v v', .present name v ∈ fields → .present name v' ∈ fields' →
        Reorders v v') :
      Reorders (.record kind fields) (.record kind fields')
  | union {kind : Kind} {alternative : String} {v v' : Value} (h : Reorders v v') :
      Reorders (.union kind alternative v) (.union kind alternative v')
  | list {kind : Kind} {elements elements' : List Value}
      (hlength : elements.length = elements'.length)
      (helements : ∀ p ∈ elements.zip elements', Reorders p.1 p.2) :
      Reorders (.list kind elements) (.list kind elements')

/-! ### Fields by their names -/

/-- Among fields with distinct names, the name tells the field. -/
theorem field_eq_of_name_eq {fields : List FieldValue} (h : (fields.map FieldValue.name).Nodup)
    {f g : FieldValue} (hf : f ∈ fields) (hg : g ∈ fields) (hname : f.name = g.name) : f = g :=
  List.inj_on_of_nodup_map h hf hg hname

theorem find?_field {fields : List FieldValue} (h : (fields.map FieldValue.name).Nodup)
    {f : FieldValue} (hf : f ∈ fields) : (fields.find? fun g => g.name == f.name) = some f := by
  cases hfound : fields.find? fun g => g.name == f.name with
  | none => simpa using List.find?_eq_none.mp hfound f hf
  | some g =>
    have hname : g.name = f.name := by simpa using List.find?_some hfound
    rw [field_eq_of_name_eq h (List.mem_of_find?_eq_some hfound) hf hname]

/-- Fields of the same names make a reordered record if each is the counterpart of one. -/
theorem Reorders.of_fields {kind : Kind} {fields fields' : List FieldValue}
    (hdistinct : (fields.map FieldValue.name).Nodup)
    (hnames : (fields.map FieldValue.name).Perm (fields'.map FieldValue.name))
    (h : ∀ f' ∈ fields', ∃ f ∈ fields, f.Related Reorders f') :
    (Value.record kind fields).Reorders (.record kind fields') := by
  refine .record hdistinct hnames (fun name => ⟨fun hf => ?_, fun hf' => ?_⟩)
    fun name v v' hv hv' => ?_
  · have hname : name ∈ fields'.map FieldValue.name :=
      hnames.mem_iff.mp (List.mem_map_of_mem (f := FieldValue.name) hf)
    obtain ⟨f', hf', rfl⟩ := List.mem_map.mp hname
    obtain ⟨g, hg, hrelated⟩ := h f' hf'
    obtain rfl := field_eq_of_name_eq hdistinct hf hg hrelated.name_eq.symm
    rwa [← FieldValue.related_omitted.mp hrelated]
  · obtain ⟨g, hg, hrelated⟩ := h _ hf'
    cases hrelated
    exact hg
  · obtain ⟨g, hg, hrelated⟩ := h _ hv'
    cases hrelated with
    | present hw =>
      cases field_eq_of_name_eq hdistinct hv hg rfl
      exact hw

/-- Where fields are related one by one, so are any two of one name. -/
theorem related_of_name_eq {R : Value → Value → Prop} {fields others : List FieldValue}
    (h : List.Forall₂ (FieldValue.Related R) fields others)
    (hdistinct : (others.map FieldValue.name).Nodup) {f g : FieldValue} (hf : f ∈ fields)
    (hg : g ∈ others) (hname : f.name = g.name) : f.Related R g := by
  obtain ⟨i, hi, rfl⟩ := List.getElem_of_mem hf
  have hi' : i < others.length := h.length_eq ▸ hi
  have hrelated : fields[i].Related R others[i] := h.get hi hi'
  rwa [field_eq_of_name_eq hdistinct hg (List.getElem_mem hi')
    (hname.symm.trans hrelated.name_eq)]

namespace Reorders

variable {v v' w w' : Value}

theorem symm (h : v.Reorders v') : v'.Reorders v := by
  induction h with
  | scalar => exact .scalar
  | record hdistinct hnames homitted _ ih =>
    exact .record (hnames.nodup_iff.mp hdistinct) hnames.symm (fun name => (homitted name).symm)
      fun name v v' hv hv' => ih name v' v hv' hv
  | union _ ih => exact .union ih
  | list hlength _ ih =>
    refine .list hlength.symm fun p hp => ih p.swap ?_
    rw [← List.zip_swap]
    exact List.mem_map_of_mem hp

theorem kind_eq (h : v.Reorders v') : v.kind = v'.kind := by
  cases h <;> rfl

theorem isBound (h : v.Reorders v') : v.isBound = true := by
  cases h <;> rfl

/-- Each field of a record has its counterpart. -/
theorem exists_field {kind kind' : Kind} {fields fields' : List FieldValue}
    (h : (Value.record kind fields).Reorders (.record kind' fields')) {f : FieldValue}
    (hf : f ∈ fields) : ∃ f' ∈ fields', f.Related Reorders f' := by
  cases h with
  | record hdistinct hnames homitted hvalues =>
    cases f with
    | omitted name => exact ⟨_, (homitted name).mp hf, .omitted⟩
    | present name v =>
      have hname : name ∈ fields'.map FieldValue.name :=
        hnames.mem_iff.mp (List.mem_map_of_mem (f := FieldValue.name) hf)
      obtain ⟨f', hf', hname'⟩ := List.mem_map.mp hname
      cases f' with
      | omitted name' =>
        -- the name would be that of an omitted field on one side and of this one
        have hname' : name' = name := hname'
        subst hname'
        cases field_eq_of_name_eq hdistinct hf ((homitted name').mpr hf') rfl
      | present name' v' =>
        have hname' : name' = name := hname'
        subst hname'
        exact ⟨_, hf', .present (hvalues name' v v' hf hf')⟩

/-- Looking up a name finds counterparts, or finds nothing twice. -/
theorem find?_field {kind kind' : Kind} {fields fields' : List FieldValue}
    (h : (Value.record kind fields).Reorders (.record kind' fields')) (name : String) :
    Option.Rel (FieldValue.Related Reorders) (fields.find? fun f => f.name == name)
      (fields'.find? fun f => f.name == name) := by
  have hdistinct' : (fields'.map FieldValue.name).Nodup := by
    cases h with
    | record hdistinct hnames => exact hnames.nodup_iff.mp hdistinct
  cases hfound : fields.find? fun f => f.name == name with
  | none =>
    cases hfound' : fields'.find? fun f => f.name == name with
    | none => exact .none
    | some f' =>
      obtain ⟨f, hf, hrelated⟩ := h.symm.exists_field (List.mem_of_find?_eq_some hfound')
      have hname : f'.name = name := by simpa using List.find?_some hfound'
      have hother : f.name ≠ name := by simpa using List.find?_eq_none.mp hfound f hf
      exact absurd (hrelated.name_eq.symm.trans hname) hother
  | some f =>
    obtain ⟨f', hf', hrelated⟩ := h.exists_field (List.mem_of_find?_eq_some hfound)
    have hname : f.name = name := by simpa using List.find?_some hfound
    rw [← hname, hrelated.name_eq, Value.find?_field hdistinct' hf']
    exact .some hrelated

theorem isFullyBound (h : v.Reorders v') : v.isFullyBound = true := by
  induction h with
  | scalar => rfl
  | @record kind fields fields' hdistinct hnames homitted hvalues ih =>
    rw [Value.isFullyBound, fieldsFullyBound_iff]
    intro f hf v hv
    have hrecord : (Value.record kind fields).Reorders (.record kind fields') :=
      .record hdistinct hnames homitted hvalues
    obtain ⟨f', hf', hrelated⟩ := hrecord.exists_field hf
    cases hrelated with
    | present =>
      cases hv
      exact ih _ _ _ hf hf'
    | omitted => cases hv
  | union _ ih => exact ih
  | list hlength _ ih =>
    rw [Value.isFullyBound, elementsFullyBound_iff]
    intro w hw
    obtain ⟨i, hi, rfl⟩ := List.getElem_of_mem hw
    exact ih _ (getElem_mem_zip hi (hlength ▸ hi))

end Reorders

/-! ### Values in step -/

mutual

/-- Wherever comparing two values meets a record or set of one with one of the other, the fields
have the same names in the same order. -/
def isInStep : Value → Value → Bool
  | .record _ as, .record _ bs => fieldsInStep as bs
  | .union _ m a, .union _ n b => m != n || isInStep a b
  | .list _ as, .list _ bs => as.length != bs.length || elementsInStep as bs
  | _, _ => true

/-- Fields have the same names in the same order, and values in step. -/
def fieldsInStep : List FieldValue → List FieldValue → Bool
  | .present m a :: as, .present n b :: bs => m == n && isInStep a b && fieldsInStep as bs
  | f :: as, g :: bs => f.name == g.name && fieldsInStep as bs
  | [], [] => true
  | _, _ => false

/-- Elements at the same positions are in step. -/
def elementsInStep : List Value → List Value → Bool
  | a :: as, b :: bs => isInStep a b && elementsInStep as bs
  | _, _ => true

end

theorem fieldsInStep_iff {as bs : List FieldValue} :
    fieldsInStep as bs = true ↔ List.Forall₂ (fun f g => f.name = g.name ∧
      ∀ a ∈ f.value?, ∀ b ∈ g.value?, a.isInStep b = true) as bs := by
  induction as generalizing bs with
  | nil => cases bs <;> simp [fieldsInStep]
  | cons f as ih =>
    cases bs with
    | nil => cases f <;> simp [fieldsInStep]
    | cons g bs =>
      cases f <;> cases g <;>
        simp [fieldsInStep, FieldValue.name, FieldValue.value?, ih, and_assoc]

theorem elementsInStep_iff {as bs : List Value} :
    elementsInStep as bs = true ↔ ∀ p ∈ as.zip bs, p.1.isInStep p.2 = true := by
  induction as generalizing bs with
  | nil => simp [elementsInStep]
  | cons a as ih => cases bs <;> simp [elementsInStep, ih]

/-! ### Equality -/

theorem equalFields_iff {as bs : List FieldValue} :
    equalFields as bs = .ok true ↔
      List.Forall₂ (FieldValue.Related fun a b => a.equals b = .ok true) as bs := by
  induction as generalizing bs with
  | nil => cases bs <;> simp [equalFields]
  | cons f as ih =>
    cases bs with
    | nil => cases f <;> simp [equalFields]
    | cons g bs =>
      rw [List.forall₂_cons, ← ih]
      cases f with
      | omitted m =>
        cases g with
        | omitted n =>
          rw [equalFields, FieldValue.related_omitted]
          by_cases hname : m = n
          · simp [hname]
          · simp [hname, Ne.symm hname]
        | present n b => simp [equalFields, FieldValue.related_omitted]
      | present m a =>
        cases g with
        | omitted n => simp [equalFields, FieldValue.related_present]
        | present n b =>
          rw [equalFields, FieldValue.related_present]
          by_cases hname : m = n
          · cases h : a.equals b with
            | error e => simp [hname, h]
            | ok answer => cases answer <;> simp [hname, h]
          · simp [hname, Ne.symm hname]

theorem equalElements_iff {as bs : List Value} :
    equalElements as bs = .ok true ↔ List.Forall₂ (fun a b => a.equals b = .ok true) as bs := by
  induction as generalizing bs with
  | nil => cases bs <;> simp [equalElements]
  | cons a as ih =>
    cases bs with
    | nil => simp [equalElements]
    | cons b bs =>
      rw [equalElements, List.forall₂_cons, ← ih]
      cases h : a.equals b with
      | error e => simp
      | ok answer => cases answer <;> simp

/-- A record equals another if the fields are equal one by one. -/
theorem record_equals_iff {kind : Kind} {fields : List FieldValue} {w : Value} :
    (record kind fields).equals w = .ok true ↔ ∃ kind' fields', w = .record kind' fields' ∧
      List.Forall₂ (FieldValue.Related fun a b => a.equals b = .ok true) fields fields' := by
  cases w with
  | record kind' fields' =>
    rw [equals]
    constructor
    · intro h
      split at h
      · exact ⟨_, _, rfl, equalFields_iff.mp h⟩
      · cases h
    · rintro ⟨_, _, ⟨⟩, h⟩
      rw [if_pos h.length_eq, equalFields_iff.mpr h]
  | _ => simp [equals]

theorem union_equals_iff {kind : Kind} {alternative : String} {v w : Value} :
    (union kind alternative v).equals w = .ok true ↔
      ∃ kind' v', w = .union kind' alternative v' ∧ v.equals v' = .ok true := by
  cases w with
  | union kind' alternative' v' =>
    rw [equals]
    split
    · rename_i h
      subst h
      simp
    · rename_i h
      simp [Ne.symm h]
  | _ => simp [equals]

/-- A list equals another if the elements are equal one by one. -/
theorem list_equals_iff {kind : Kind} {elements : List Value} {w : Value} :
    (list kind elements).equals w = .ok true ↔ ∃ kind' elements', w = .list kind' elements' ∧
      List.Forall₂ (fun a b => a.equals b = .ok true) elements elements' := by
  cases w with
  | list kind' elements' =>
    rw [equals]
    constructor
    · intro h
      split at h
      · exact ⟨_, _, rfl, equalElements_iff.mp h⟩
      · cases h
    · rintro ⟨_, _, ⟨⟩, h⟩
      rw [if_pos h.length_eq, equalElements_iff.mpr h]
  | _ => simp [equals]

mutual

/-- Equal values are in step. -/
theorem isInStep_of_equals : (a b : Value) → a.equals b = .ok true → a.isInStep b = true
  | .unbound _, b, _ | .scalar _ _, b, _ => by cases b <;> rfl
  | .record _ as, b, h => by
    obtain ⟨_, bs, rfl, hfields⟩ := record_equals_iff.mp h
    exact fieldsInStep_of_equal as bs hfields
  | .union _ _ a, b, h => by
    obtain ⟨_, b, rfl, hab⟩ := union_equals_iff.mp h
    simp [isInStep, isInStep_of_equals a b hab]
  | .list _ as, b, h => by
    obtain ⟨_, bs, rfl, helements⟩ := list_equals_iff.mp h
    simp [isInStep, elementsInStep_of_equal as bs helements]

theorem fieldsInStep_of_equal : (as bs : List FieldValue) →
    List.Forall₂ (FieldValue.Related fun a b => a.equals b = .ok true) as bs →
    fieldsInStep as bs = true
  | [], _, .nil => rfl
  | .omitted _ :: as, _ :: bs, .cons .omitted h => by
    simp [fieldsInStep, fieldsInStep_of_equal as bs h]
  | .present _ a :: as, .present _ b :: bs, .cons (.present hab) h => by
    simp [fieldsInStep, isInStep_of_equals a b hab, fieldsInStep_of_equal as bs h]

theorem elementsInStep_of_equal : (as bs : List Value) →
    List.Forall₂ (fun a b => a.equals b = .ok true) as bs → elementsInStep as bs = true
  | [], _, .nil => rfl
  | a :: as, b :: bs, .cons hab h => by
    simp [elementsInStep, isInStep_of_equals a b hab, elementsInStep_of_equal as bs h]

end

namespace Reorders

variable {v v' w w' : Value}

/-- Values that are equal stay so when they are reordered to values in step. -/
theorem equals_of_isInStep (hv : v.Reorders v') (hw : w.Reorders w') (h : v.equals w = .ok true)
    (hstep : v'.isInStep w' = true) : v'.equals w' = .ok true := by
  induction hv generalizing w w' with
  | scalar =>
    cases hw with
    | scalar => exact h
    | _ => cases h
  | @record kind fields fields' hdistinct hnames homitted hvalues ih =>
    obtain ⟨_, others, rfl, hequal⟩ := record_equals_iff.mp h
    have hv : (Value.record kind fields).Reorders (.record kind fields') :=
      .record hdistinct hnames homitted hvalues
    have hothers := hw
    cases hw with
    | @record _ _ others' hdistinct' =>
    rw [isInStep, fieldsInStep_iff, List.forall₂_iff_zip] at hstep
    refine record_equals_iff.mpr ⟨_, _, rfl, List.forall₂_iff_zip.mpr ⟨hstep.1, ?_⟩⟩
    intro f' g' hfg'
    obtain ⟨hname', hvalue'⟩ := hstep.2 hfg'
    -- the fields that were compared before under the name of the two that are compared now
    have hf' := (List.of_mem_zip hfg').1
    have hg' := (List.of_mem_zip hfg').2
    obtain ⟨f, hf, hff'⟩ := hv.symm.exists_field hf'
    obtain ⟨g, hg, hgg'⟩ := hothers.symm.exists_field hg'
    have hfg : f.Related (fun a b => a.equals b = .ok true) g :=
      related_of_name_eq hequal hdistinct' hf hg (by rw [← hff'.name_eq, hname', hgg'.name_eq])
    cases hff' with
    | omitted =>
      cases hfg with
      | omitted =>
        cases hgg'
        exact .omitted
    | present ha =>
      cases hfg with
      | present hab =>
        cases hgg' with
        | present hb => exact .present (ih _ _ _ hf hf' hb.symm hab (hvalue' _ rfl _ rfl))
  | union hv ih =>
    obtain ⟨_, _, rfl, hequal⟩ := union_equals_iff.mp h
    cases hw with
    | union hw =>
      rw [isInStep, bne_self_eq_false, Bool.false_or] at hstep
      exact union_equals_iff.mpr ⟨_, _, rfl, ih hw hequal hstep⟩
  | list hlength helements ih =>
    obtain ⟨_, others, rfl, hequal⟩ := list_equals_iff.mp h
    cases hw with
    | @list _ _ others' hlength' helements' =>
    have hcount := hlength.symm.trans (hequal.length_eq.trans hlength')
    rw [isInStep, hcount, bne_self_eq_false, Bool.false_or, elementsInStep_iff] at hstep
    refine list_equals_iff.mpr ⟨_, _, rfl, List.forall₂_iff_get.mpr ⟨hcount, fun i hi hi' => ?_⟩⟩
    exact ih _ (getElem_mem_zip (hlength ▸ hi) hi)
      (helements' _ (getElem_mem_zip (hlength' ▸ hi') hi'))
      (hequal.get (hlength ▸ hi) (hlength' ▸ hi')) (hstep _ (getElem_mem_zip hi hi'))

/-- **Comparison of reordered values.**  Values that are reordered compare as before if they are
in step exactly if they were. -/
theorem equals_eq (hv : v.Reorders v') (hw : w.Reorders w')
    (hstep : v.isInStep w = v'.isInStep w') : v.equals w = v'.equals w' := by
  obtain ⟨b, hb⟩ := equals_ok v w hv.isFullyBound hw.isFullyBound
  obtain ⟨b', hb'⟩ := equals_ok v' w' hv.symm.isFullyBound hw.symm.isFullyBound
  rw [hb, hb']
  have hstep_eq : v.equals w = .ok true → v'.equals w' = .ok true := fun h =>
    equals_of_isInStep hv hw h (hstep ▸ isInStep_of_equals v w h)
  have hstep_eq' : v'.equals w' = .ok true → v.equals w = .ok true := fun h =>
    equals_of_isInStep hv.symm hw.symm h (hstep ▸ isInStep_of_equals v' w' h)
  rw [hb, hb'] at hstep_eq hstep_eq'
  refine congrArg _ (Bool.eq_iff_iff.mpr ⟨fun h => ?_, fun h => ?_⟩)
  · simpa using hstep_eq (congrArg _ h)
  · simpa using hstep_eq' (congrArg _ h)

end Reorders

end Value

end TestSpec
