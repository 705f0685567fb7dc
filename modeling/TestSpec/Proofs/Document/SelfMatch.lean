import TestSpec.Proofs.Document.TemplateOrder
import TestSpec.Proofs.Matching.Elements

/-!
# Values that are written as templates

JSON that holds no wildcard for omission, no omitted field and no name of a form can be read
as a value and as a template for the same type.  The two readings take it apart in
different ways: the template lists elements wherever an array stands, and fields wherever
an object stands, while the value follows the kind of the type.

They part company at one place.  An array for an object identifier is a value without
parts; the reader of templates asks only whether the type has elements, and makes a list
template of it if the declaration has an element type.  So the value matches
the template that is written alike, unless it has an object identifier in it, on which
matching fails (`isMatch_of_readValue`).

Recursion is on the JSON; `AnswersFor` is what it shows of each part.
-/

namespace TestSpec

namespace Value

mutual

/-- The value has an object identifier in it. -/
def hasObjectId : Value → Bool
  | .unbound _ => false
  | .scalar _ (.objectId _) => true
  | .scalar _ _ => false
  | .record _ fields => fieldsHaveObjectId fields
  | .union _ _ value => hasObjectId value
  | .list _ elements => elementsHaveObjectId elements

/-- The value of some field has an object identifier in it. -/
def fieldsHaveObjectId : List FieldValue → Bool
  | [] => false
  | .present _ value :: rest => hasObjectId value || fieldsHaveObjectId rest
  | .omitted _ :: rest => fieldsHaveObjectId rest

/-- Some element has an object identifier in it. -/
def elementsHaveObjectId : List Value → Bool
  | [] => false
  | value :: rest => hasObjectId value || elementsHaveObjectId rest

end

theorem elementsHaveObjectId_eq_false {elements : List Value}
    (h : ∀ value ∈ elements, value.hasObjectId = false) :
    elementsHaveObjectId elements = false := by
  induction elements with
  | nil => rfl
  | cons value rest ih =>
    rw [List.forall_mem_cons] at h
    rw [elementsHaveObjectId, h.1, ih h.2]
    rfl

end Value

namespace Document

mutual

/-- JSON without the wildcard for omission, without fields that are null, and without names of forms
in its objects. -/
def isPlain : Json → Bool
  | .string text => text != "omit"
  | .array items => itemsPlain items
  | .object members => membersPlain members
  | .null | .boolean _ | .integer _ | .real _ => true

/-- All items are plain. -/
def itemsPlain : List Json → Bool
  | [] => true
  | j :: rest => isPlain j && itemsPlain rest

/-- All members are plain, and none of them is null or has the name of a form. -/
def membersPlain : List (String × Json) → Bool
  | [] => true
  | (name, j) :: rest =>
    !isFormName name && !(j matches .null) && isPlain j && membersPlain rest

end

mutual

/-- How many arrays and objects stand one in another. -/
def levels : Json → Nat
  | .array items => itemLevels items + 1
  | .object members => memberLevels members + 1
  | .null | .boolean _ | .integer _ | .real _ | .string _ => 0

/-- The levels of the item that has most. -/
def itemLevels : List Json → Nat
  | [] => 0
  | j :: rest => max (levels j) (itemLevels rest)

/-- The levels of the member that has most. -/
def memberLevels : List (String × Json) → Nat
  | [] => 0
  | (_, j) :: rest => max (levels j) (memberLevels rest)

end

end Document

/-! ### Answers -/

/-- What matching a value with the template that is written alike comes to: success, or the failure
on the first object identifier, whose type has elements. -/
def Store.AnswersItself (s : Store) (hasObjectId : Bool) (answer : Except MatchError Bool) : Prop :=
  if hasObjectId then ∃ last,
    ((s.get last).kind = .objectIdentifier ∨ (s.get last).kind = .relativeOid) ∧
      (s.elementType last).isSome = true ∧
      answer = .error (.typeMismatch .list (s.get last).kind)
  else answer = .ok true

/-- The answer for several parts is that for the first one that does not match. -/
theorem Store.AnswersItself.seq {s : Store} {a b : Bool} {x y : Except MatchError Bool} :
    s.AnswersItself a x → s.AnswersItself b y →
      s.AnswersItself (a || b) (match x with | .ok true => y | answer => answer) := by
  intro hx hy
  cases a with
  | true =>
    obtain ⟨last, hkind, helement, rfl⟩ := hx
    exact ⟨last, hkind, helement, rfl⟩
  | false =>
    obtain rfl : x = .ok true := hx
    rwa [Bool.false_or]

namespace Template

variable {s : Store} {ctx : MatchContext} {depth : Nat}

/-- A template without modifiers answers as its selector. -/
theorem matchAt_ofSelector {selector : Selector} {v : Value} (hdepth : depth < maxMatchDepth)
    (hinit : isInitialized (.ofSelector selector) = true) (hbound : v.isBound = true) :
    matchAt ctx depth (.ofSelector selector) v = selectorMatch ctx depth selector v := by
  rw [ofSelector] at hinit ⊢
  rw [matchAt_mk, if_neg (Nat.not_le.mpr hdepth), hinit, hbound]
  rfl

/-- A specific value without parts is compared with what has no parts either. -/
theorem matchAt_specific_scalar (hdepth : depth < maxMatchDepth) (kind kind' : Kind)
    (content content' : Scalar) :
    matchAt ctx depth (.specific (.scalar kind content)) (.scalar kind' content') =
      .ok (content'.equals content) := by
  rw [specific, matchAt_ofSelector hdepth rfl rfl, selectorMatch, Value.equals]

theorem matchesEach_answersItself {items : List Template} {values : List Value}
    (h : List.Forall₂ (fun item v => s.AnswersItself v.hasObjectId (matchAt ctx depth item v))
      items values) :
    s.AnswersItself (Value.elementsHaveObjectId values) (matchesEach ctx depth items values) := by
  induction h with
  | nil => exact rfl
  | cons hitem _ ih =>
    rw [Value.elementsHaveObjectId, matchesEach]
    exact hitem.seq ih

/-- Field templates that stand for fields of a record, in the order in which those stand. -/
theorem matchesFields_answersItself {kind : Kind} {all : List FieldValue}
    (hdistinct : (all.map FieldValue.name).Nodup) {parts : List FieldTemplate}
    {fields : List FieldValue}
    (h : List.Forall₂ (fun part f => ∃ v, f = .present part.name v ∧
      s.AnswersItself v.hasObjectId (matchAt ctx depth part.template v)) parts fields)
    (hmem : ∀ f ∈ fields, f ∈ all) :
    s.AnswersItself (Value.fieldsHaveObjectId fields)
      (matchesFields ctx depth kind all parts) := by
  induction h with
  | nil => exact rfl
  | @cons part f parts fields hpart _ ih =>
    obtain ⟨name, template⟩ := part
    obtain ⟨v, rfl, hv⟩ := hpart
    rw [List.forall_mem_cons] at hmem
    have hfound := Value.find?_field hdistinct hmem.1
    rw [Value.fieldsHaveObjectId, matchesFields]
    simp only [FieldValue.name, FieldTemplate.name] at hfound ⊢
    simp only [hfound]
    exact hv.seq (ih hmem.2)

end Template

/-- Only two kinds hold object identifiers. -/
theorem Scalar.kind_of_fits_objectId {components : List Nat} {k : Kind}
    (h : (Scalar.objectId components).fits k.ttcn3View = true) :
    k = .objectIdentifier ∨ k = .relativeOid := by
  cases k <;> first | exact .inl rfl | exact .inr rfl | cases h

namespace Document

variable {s : Store} {type last : TypeId} {typeName : String} {ctx : MatchContext} {depth : Nat}

/-- The part of a document matches itself, as far as that goes: read as a value and as a template of
some type, it answers as `AnswersItself` tells. -/
def AnswersFor (s : Store) (ctx : MatchContext) (depth : Nat) (j : Json) : Prop :=
  ∀ ⦃type v t⦄, readValue s type j = .ok v → readTemplate s type j = .ok t →
    s.AnswersItself v.hasObjectId (t.matchAt ctx depth v)

/-! ### Readings, part by part -/

theorem readElements_eq_ok {items : List Json} {elements : List Value} :
    readElements s type items = .ok elements ↔
      List.Forall₂ (fun j v => readValue s type j = .ok v) items elements := by
  induction items generalizing elements with
  | nil =>
    rw [readElements.eq_1, List.forall₂_nil_left_iff]
    exact ⟨fun h => (Except.ok.inj h).symm, fun h => congrArg _ h.symm⟩
  | cons j rest ih =>
    rw [readElements.eq_2, List.forall₂_cons_left_iff]
    simp only [bind_eq_ok, pure_eq_ok, ih]
    constructor
    · rintro ⟨v, hv, vs, hvs, rfl⟩
      exact ⟨v, vs, hv, hvs, rfl⟩
    · rintro ⟨v, vs, hv, hvs, rfl⟩
      exact ⟨v, hv, vs, hvs, rfl⟩

theorem readTemplates_eq_ok {items : List Json} {templates : List Template} :
    readTemplates s type items = .ok templates ↔
      List.Forall₂ (fun j t => readTemplate s type j = .ok t) items templates := by
  induction items generalizing templates with
  | nil =>
    rw [readTemplates.eq_1, List.forall₂_nil_left_iff]
    exact ⟨fun h => (Except.ok.inj h).symm, fun h => congrArg _ h.symm⟩
  | cons j rest ih =>
    rw [readTemplates.eq_2, List.forall₂_cons_left_iff]
    simp only [bind_eq_ok, pure_eq_ok, ih]
    constructor
    · rintro ⟨t, ht, ts, hts, rfl⟩
      exact ⟨t, ts, ht, hts, rfl⟩
    · rintro ⟨t, ts, ht, hts, rfl⟩
      exact ⟨t, ht, ts, hts, rfl⟩

/-- A template for a part is read from a member, for the type of the part. -/
def ReadsPart (s : Store) (last : TypeId) (m : String × Json) (part : FieldTemplate) : Prop :=
  ∃ t, s.fieldType last m.1 = some t ∧ readTemplate s t m.2 = .ok part.template ∧ part.name = m.1

theorem readParts_eq_ok {kind : Kind} {members : List (String × Json)}
    {parts : List FieldTemplate} :
    readParts s last kind typeName members = .ok parts →
      List.Forall₂ (ReadsPart s last) members parts := by
  induction members generalizing parts with
  | nil =>
    rw [readParts.eq_1, List.forall₂_nil_left_iff]
    exact fun h => (Except.ok.inj h).symm
  | cons m rest ih =>
    obtain ⟨name, j⟩ := m
    intro h
    rw [readParts.eq_2] at h
    split at h
    · cases h
    rename_i t ht
    obtain ⟨part, hpart, h⟩ := bind_eq_ok.mp h
    obtain ⟨others, hothers, h⟩ := bind_eq_ok.mp h
    obtain rfl := pure_eq_ok.mp h
    exact .cons ⟨t, ht, hpart, rfl⟩ (ih hothers)

/-! ### Scalars and strings -/

/-- Content without parts that is written as an array is an object identifier. -/
theorem eq_objectId_of_array {d : Declaration} {items : List Json} {content : Scalar}
    (h : readScalar? d typeName (.array items) = some (.ok content)) :
    (d.kind = .objectIdentifier ∨ d.kind = .relativeOid) ∧
      ∃ components, content = .objectId components := by
  revert h
  unfold readScalar?
  generalize d.kind = kind
  cases kind
  case objectIdentifier | relativeOid =>
    intro h
    obtain ⟨components, -, h⟩ := map_eq_ok.mp (Option.some.inj h)
    exact ⟨by decide, components, h.symm⟩
  all_goals exact nofun

/-- Content that is not written as an array is no object identifier. -/
theorem hasObjectId_scalar {d : Declaration} {j : Json} {content : Scalar} (hj : j.array? = none)
    (h : readScalar? d typeName j = some (.ok content)) (kind : Kind) :
    (Value.scalar kind content).hasObjectId = false := by
  cases content with
  | objectId components =>
    have hkind : d.kind = .objectIdentifier ∨ d.kind = .relativeOid :=
      Scalar.kind_of_fits_objectId (readScalar?_fits h rfl).1
    have hread : readScalar? d typeName j = some (.error (.unexpected .components typeName)) := by
      unfold readScalar?
      rcases hkind with hkind | hkind
      all_goals
        rw [hkind]
        simp only [hj]
        rfl
    rw [hread] at h
    cases h
  | _ => rfl

/-- Content that is written as a string is read from strings alone. -/
theorem readScalar?_string {d : Declaration} {text : String} {content : Scalar}
    (h : readScalar? d typeName (.string text) = some (.ok content)) :
    ∃ read : String → Except Failure Scalar, ∀ j,
      readScalar? d typeName j = some (expect .string typeName j.string? >>= read) := by
  revert h
  unfold readScalar?
  generalize d.kind = kind
  cases kind
  case verdict | bitstring | bitstringAsn | hexstring | octetstring | enumerated | enumeratedAsn =>
    exact fun _ => ⟨_, fun _ => rfl⟩
  -- what is left takes no string, or is a kind of character strings
  all_goals first
    | intro h
      cases h
      done
    | intro _
      refine ⟨fun text => .ok (.text text), fun j => ?_⟩
      cases j <;> rfl

/-- Where a string is read as a value of a type, all values of the type are written as strings. -/
theorem eq_string_of_readValue {text : String} {j : Json} {v w : Value}
    (hv : readValue s type (.string text) = .ok v) (hw : readValue s type j = .ok w) :
    ∃ other, j = .string other := by
  obtain ⟨last, hlast, ⟨content, hcontent, -⟩ | ⟨_, _, hform, -⟩ | ⟨_, hform, -⟩ |
    ⟨_, _, _, hform, -⟩⟩ := readValue_cases hv
  · obtain ⟨read, hread⟩ := readScalar?_string hcontent
    have hj : ∃ content, readScalar? (s.get last) (s.name type) j = some (.ok content) := by
      obtain ⟨last', hlast', hcases⟩ := readValue_cases hw
      obtain rfl := Option.some.inj (hlast.symm.trans hlast')
      have hnone (h : ((s.get last).kind.isRecordLike || (s.get last).kind.isSetLike) = true ∨
          (s.get last).kind.isUnionLike = true ∨ (s.get last).kind.isList = true) : False := by
        rw [readScalar?_eq_none h] at hcontent
        cases hcontent
      obtain ⟨content', hcontent', -⟩ | ⟨_, _, -, hform, -⟩ | ⟨_, -, hform, -⟩ |
        ⟨_, _, _, -, hform, -⟩ := hcases
      · exact ⟨content', hcontent'⟩
      · exact absurd (.inl hform) hnone
      · exact absurd (.inr (.inl hform)) hnone
      · exact absurd (.inr (.inr hform)) hnone
    obtain ⟨content', hcontent'⟩ := hj
    rw [hread j] at hcontent'
    obtain ⟨other, hother, -⟩ := bind_eq_ok.mp (Option.some.inj hcontent')
    rw [expect_eq_ok] at hother
    cases j with
    | string other => exact ⟨other, rfl⟩
    | _ => cases hother
  all_goals cases hform

/-- JSON that is neither array nor object is a value without parts. -/
theorem readValue_eq_scalar {j : Json} {v : Value} (harray : j.array? = none)
    (hobject : j.object? = none) (h : readValue s type j = .ok v) :
    ∃ kind content, v = .scalar kind content ∧ v.hasObjectId = false := by
  obtain ⟨last, -, ⟨content, hcontent, rfl⟩ | ⟨_, _, rfl, -⟩ | ⟨_, rfl, -⟩ | ⟨_, _, _, rfl, -⟩⟩ :=
    readValue_cases h
  · exact ⟨_, content, rfl, hasObjectId_scalar harray hcontent _⟩
  · cases hobject
  · cases hobject
  · cases harray

/-! ### Answers, form by form -/

theorem answersFor_scalar {j : Json} (harray : j.array? = none) (hobject : j.object? = none)
    (hstring : j.string? = none) (hdepth : depth < maxMatchDepth) : AnswersFor s ctx depth j := by
  intro type v t hv ht
  obtain ⟨kind, content, rfl, hobjectId⟩ := readValue_eq_scalar harray hobject hv
  rw [Store.AnswersItself, hobjectId, if_neg Bool.false_ne_true]
  have hspecific : t = .specific (.scalar kind content) := by
    rw [readTemplate.eq_1] at ht
    obtain ⟨last, -, ht⟩ := bind_eq_ok.mp ht
    cases j with
    | array => cases harray
    | object => cases hobject
    | string => cases hstring
    | _ =>
      obtain ⟨w, hw, rfl⟩ := map_eq_ok.mp ht
      rw [Except.ok.inj (hv.symm.trans hw)]
  rw [hspecific, Template.matchAt_specific_scalar hdepth, Scalar.equals_self]

/-- What a string is read as: a wildcard, or a specific value. -/
theorem readTemplate_string {text : String} (htext : text ≠ "omit") {t : Template} {v : Value}
    (hv : readValue s type (.string text) = .ok v)
    (ht : readTemplate s type (.string text) = .ok t) :
    t = .ofSelector .any ∨ t = .ofSelector .anyOrOmit ∨ t = .specific v := by
  rw [readTemplate.eq_1] at ht
  obtain ⟨last, -, ht⟩ := bind_eq_ok.mp ht
  dsimp only at ht
  split at ht
  case h_1 => exact .inl (pure_eq_ok.mp ht).symm
  case h_2 => exact .inr (.inl (pure_eq_ok.mp ht).symm)
  case h_3 heq => exact absurd (Json.string.inj heq) htext
  case h_4 heq | h_5 heq => cases heq
  case h_6 =>
    obtain ⟨w, hw, rfl⟩ := map_eq_ok.mp ht
    exact .inr (.inr (congrArg _ (Except.ok.inj (hw.symm.trans hv))))

theorem answersFor_string {text : String} (htext : text ≠ "omit")
    (hdepth : depth < maxMatchDepth) : AnswersFor s ctx depth (.string text) := by
  intro type v t hv ht
  obtain ⟨kind, content, rfl, hobjectId⟩ := readValue_eq_scalar rfl rfl hv
  rw [Store.AnswersItself, hobjectId, if_neg Bool.false_ne_true]
  rcases readTemplate_string htext hv ht with rfl | rfl | rfl
  · exact Template.matchAt_ofSelector hdepth rfl rfl
  · exact Template.matchAt_ofSelector hdepth rfl rfl
  · rw [Template.matchAt_specific_scalar hdepth, Scalar.equals_self]

/-! #### Lists -/

theorem isPlain_of_mem_items {items : List Json} (h : itemsPlain items = true) :
    ∀ j ∈ items, isPlain j = true := by
  induction items with
  | nil => exact fun _ hj => absurd hj List.not_mem_nil
  | cons j rest ih =>
    rw [itemsPlain, Bool.and_eq_true] at h
    rw [List.forall_mem_cons]
    exact ⟨h.1, ih h.2⟩

theorem isPlain_of_mem_members {members : List (String × Json)}
    (h : membersPlain members = true) :
    ∀ m ∈ members, isFormName m.1 = false ∧ m.2 ≠ .null ∧ isPlain m.2 = true := by
  induction members with
  | nil => exact fun _ hm => absurd hm List.not_mem_nil
  | cons m rest ih =>
    obtain ⟨name, j⟩ := m
    simp only [membersPlain, Bool.and_eq_true, Bool.not_eq_true'] at h
    rw [List.forall_mem_cons]
    refine ⟨⟨h.1.1.1, ?_, h.1.2⟩, ih h.2⟩
    rintro rfl
    exact absurd h.1.1.2 (by decide)

/-- An object with plain members is no form. -/
theorem any_isFormName_eq_false {members : List (String × Json)}
    (h : membersPlain members = true) : (members.any fun m => isFormName m.1) = false := by
  rw [List.any_eq_false]
  exact fun m hm => by simp [(isPlain_of_mem_members h m hm).1]

/-- A part of an object that is no form is not read as a run of elements. -/
theorem ofParts_isRun (kind : Kind) (parts : List FieldTemplate) :
    (ofParts kind parts).isRun = false := by
  unfold ofParts
  split <;> rfl

/-- Of plain JSON, only a string is read as a run of elements. -/
theorem eq_string_of_isRun {j : Json} {t : Template} (hplain : isPlain j = true)
    (ht : readTemplate s type j = .ok t) (hrun : t.isRun = true) : ∃ text, j = .string text := by
  cases j with
  | string text => exact ⟨text, rfl⟩
  | array items =>
    obtain ⟨last, u, templates, -, -, -, rfl⟩ := readTemplate_array_eq_ok.mp ht
    cases hrun
  | object members =>
    rw [isPlain] at hplain
    have hforms := any_isFormName_eq_false hplain
    obtain ⟨last, parts, -, -, -, -, rfl⟩ := (readTemplate_parts_eq_ok hforms).mp ht
    rw [ofParts_isRun] at hrun
    cases hrun
  | null | boolean | integer | real =>
    rw [readTemplate.eq_1] at ht
    obtain ⟨last, -, ht⟩ := bind_eq_ok.mp ht
    obtain ⟨w, -, rfl⟩ := map_eq_ok.mp ht
    cases hrun

/-- A template and a value that one string was read as. -/
def ReadAlike (t : Template) (v : Value) : Prop :=
  (∃ kind content, v = .scalar kind content ∧ v.hasObjectId = false) ∧
    (t = .ofSelector .any ∨ t = .ofSelector .anyOrOmit ∨ t = .specific v)

/-- Strings that were read as items and elements match, though some of the items be runs of
elements. -/
theorem matchesRuns_of_readAlike (hdepth : depth < maxMatchDepth) {items : List Template}
    {values : List Value} (h : List.Forall₂ ReadAlike items values) :
    Value.elementsHaveObjectId values = false ∧
      ∃ out, Template.matchesRuns ctx depth values (Template.reachNone values.length) items =
        .ok out ∧ out.getLast? = some true := by
  have hvalues : ∀ v ∈ values, ∃ kind content, v = .scalar kind content ∧
      v.hasObjectId = false := by
    intro v hv
    obtain ⟨t, -, hread⟩ := exists_of_mem_right h v hv
    exact hread.1
  have hdiagonal : List.Forall₂
      (fun t v => t.isRun = true ∨ Template.matchAt ctx depth t v = .ok true) items values := by
    refine h.imp fun t v hread => ?_
    obtain ⟨⟨kind, content, rfl, -⟩, ht⟩ := hread
    rcases ht with rfl | rfl | rfl
    · exact .inr (Template.matchAt_ofSelector hdepth rfl rfl)
    · exact .inl rfl
    · exact .inr (by rw [Template.matchAt_specific_scalar hdepth, Scalar.equals_self])
  have hanswers : ∀ t ∈ items, ∀ v ∈ values,
      ∃ answer, Template.matchAt ctx depth t v = .ok answer := by
    intro t ht v hv
    obtain ⟨kind, content, rfl, -⟩ := hvalues v hv
    obtain ⟨w, -, ⟨kind', content', rfl, -⟩, ht⟩ := exists_of_mem_right h.flip t ht
    rcases ht with rfl | rfl | rfl
    · exact ⟨true, Template.matchAt_ofSelector hdepth rfl rfl⟩
    · exact ⟨true, Template.matchAt_ofSelector hdepth rfl rfl⟩
    · exact ⟨_, Template.matchAt_specific_scalar hdepth _ _ _ _⟩
  refine ⟨Value.elementsHaveObjectId_eq_false fun v hv => ?_,
    Template.matchesRuns_diagonal hdiagonal hanswers⟩
  obtain ⟨kind, content, -, hobjectId⟩ := hvalues v hv
  exact hobjectId

theorem answersFor_array {items : List Json} (hplain : itemsPlain items = true)
    (hdepth : depth + 1 < maxMatchDepth)
    (hitems : ∀ j ∈ items, AnswersFor s ctx (depth + 1) j) :
    AnswersFor s ctx depth (.array items) := by
  intro type v t hv ht
  have hroom : depth < maxMatchDepth := Nat.lt_of_succ_lt hdepth
  obtain ⟨last, u, templates, hlast, hu, htemplates, rfl⟩ := readTemplate_array_eq_ok.mp ht
  obtain ⟨last', hlast', hcases⟩ := readValue_cases hv
  obtain rfl := Option.some.inj (hlast.symm.trans hlast')
  obtain ⟨content, hcontent, rfl⟩ | ⟨_, _, hform, -⟩ | ⟨_, hform, -⟩ |
    ⟨_, u', elements, heq, hform, hu', helements, rfl⟩ := hcases
  · -- the one place where the two readings part company
    obtain ⟨hkind, components, rfl⟩ := eq_objectId_of_array hcontent
    rw [Template.matchAt_ofSelector hroom rfl rfl]
    exact ⟨last, hkind, by rw [hu]; rfl, rfl⟩
  · cases hform
  · cases hform
  cases heq
  obtain rfl := Option.some.inj (hu.symm.trans hu')
  rw [readTemplates_eq_ok] at htemplates
  rw [readElements_eq_ok] at helements
  rw [Template.matchAt_ofSelector hroom rfl rfl, Template.selectorMatch_elements,
    Template.matchesElements_eq, Value.hasObjectId]
  cases hrun : templates.any Template.isRun with
  | false =>
    have hlength : templates.length = elements.length :=
      htemplates.length_eq.symm.trans helements.length_eq
    rw [if_neg Bool.false_ne_true, if_pos hlength]
    refine Template.matchesEach_answersItself (forall₂_of_common htemplates helements ?_)
    exact fun j hj t v ht hv => hitems j hj hv ht
  | true =>
    -- one item is a run of elements, so that all items and elements are written as strings
    have hplain : ∀ j ∈ items, isPlain j = true := isPlain_of_mem_items hplain
    obtain ⟨item, hitem, hrun⟩ := List.any_eq_true.mp hrun
    obtain ⟨j, hj, hread⟩ := exists_of_mem_right htemplates item hitem
    obtain ⟨text, rfl⟩ := eq_string_of_isRun (hplain j hj) hread hrun
    obtain ⟨v, -, hv⟩ := exists_of_mem_right helements.flip _ hj
    have halike : List.Forall₂ ReadAlike templates elements := by
      refine forall₂_of_common htemplates helements fun j' hj' t' v' ht' hv' => ?_
      obtain ⟨other, rfl⟩ := eq_string_of_readValue hv hv'
      have hother : other ≠ "omit" := by simpa [isPlain] using hplain _ hj'
      exact ⟨readValue_eq_scalar rfl rfl hv', readTemplate_string hother hv' ht'⟩
    obtain ⟨hobjectId, out, hout, hlastReached⟩ : _ ∧ ∃ out, Template.matchesRuns ctx (depth + 1)
        elements (Template.reachNone elements.length) templates = .ok out ∧ _ :=
      matchesRuns_of_readAlike hdepth halike
    rw [if_pos rfl, Template.matchesTable_eq, hobjectId, hout, Except.map, hlastReached]
    rfl

/-! #### Records and unions -/

theorem answersFor_object {members : List (String × Json)}
    (hplain : membersPlain members = true) (hdistinct : (members.map Prod.fst).Nodup)
    (hdepth : depth < maxMatchDepth)
    (hmembers : ∀ m ∈ members, AnswersFor s ctx (depth + 1) m.2) :
    AnswersFor s ctx depth (.object members) := by
  intro type v t hv ht
  have hforms := any_isFormName_eq_false hplain
  have hplain := isPlain_of_mem_members hplain
  obtain ⟨last, parts, hlast, -, -, hparts, rfl⟩ := (readTemplate_parts_eq_ok hforms).mp ht
  have hparts := readParts_eq_ok hparts
  obtain ⟨last', hlast', hcases⟩ := readValue_cases hv
  obtain rfl := Option.some.inj (hlast.symm.trans hlast')
  obtain ⟨content, hcontent, -⟩ | ⟨_, fields, heq, hform, hfields, rfl⟩ |
    ⟨_, heq, hform, halternative⟩ | ⟨_, _, _, hform, -⟩ := hcases
  · exact absurd hcontent readScalar?_object
  · cases heq
    have hunion : (s.get last).kind.isUnionLike = false := by
      revert hform
      cases (s.get last).kind <;> decide
    have htemplate : ofParts (s.get last).kind parts =
        .ofSelector (.record (s.get last).kind parts) := by
      unfold ofParts
      rw [hunion]
    rw [readFields_eq_ok] at hfields
    rw [htemplate, Template.matchAt_ofSelector hdepth rfl rfl, Template.selectorMatch,
      Value.hasObjectId]
    refine Template.matchesFields_answersItself ?_ (forall₂_of_common hparts hfields ?_)
      fun _ hf => hf
    · rw [names_of_readsField hfields]
      exact hdistinct
    · rintro m hm part f ⟨t, ht, hpart, hname⟩ ⟨t', ht', ⟨hnull, -⟩ | ⟨-, v, hv, rfl⟩⟩
      · exact absurd hnull (hplain m hm).2.1
      · obtain rfl := Option.some.inj (ht.symm.trans ht')
        exact ⟨v, by rw [hname], hmembers m hm hv hpart⟩
  · cases heq
    obtain ⟨alternative, u, j, value, rfl, hu, hvalue, rfl⟩ :=
      readAlternative_eq_ok.mp halternative
    obtain ⟨part, hpart, rfl⟩ : ∃ part, ReadsPart s last (alternative, j) part ∧
        parts = [part] := by
      cases hparts with
      | cons hpart hnil =>
        cases hnil
        exact ⟨_, hpart, rfl⟩
    obtain ⟨name, template⟩ := part
    obtain ⟨u', hu', hread, rfl⟩ := hpart
    obtain rfl := Option.some.inj (hu.symm.trans hu')
    have htemplate : ofParts (s.get last).kind [.mk name template] =
        .ofSelector (.union (s.get last).kind name template) := by
      unfold ofParts
      rw [hform]
    have hshaped : s.Shaped Eq false u value := readValue_shaped j nofun hvalue
    rw [htemplate, Template.matchAt_ofSelector hdepth rfl rfl, Template.selectorMatch,
      Value.hasObjectId, if_pos ⟨rfl, hshaped.isBound⟩]
    exact hmembers _ List.mem_cons_self hvalue hread
  · cases hform

/-! ### All plain JSON -/

theorem levels_le_itemLevels {items : List Json} :
    ∀ j ∈ items, levels j ≤ itemLevels items := by
  induction items with
  | nil => exact fun _ hj => absurd hj List.not_mem_nil
  | cons j rest ih =>
    rw [List.forall_mem_cons, itemLevels]
    exact ⟨Nat.le_max_left _ _, fun k hk => (ih k hk).trans (Nat.le_max_right _ _)⟩

theorem levels_le_memberLevels {members : List (String × Json)} :
    ∀ m ∈ members, levels m.2 ≤ memberLevels members := by
  induction members with
  | nil => exact fun _ hm => absurd hm List.not_mem_nil
  | cons m rest ih =>
    obtain ⟨name, j⟩ := m
    rw [List.forall_mem_cons, memberLevels]
    exact ⟨Nat.le_max_left _ _, fun k hk => (ih k hk).trans (Nat.le_max_right _ _)⟩

mutual

/-- Plain JSON with distinct names that is not nested too deep answers for itself. -/
theorem answersFor_of_isPlain : (j : Json) → {depth : Nat} → isPlain j = true → j.Reorders j →
    depth + levels j < maxMatchDepth → AnswersFor s ctx depth j
  | .null, _, _, _, hdepth | .boolean _, _, _, _, hdepth | .integer _, _, _, _, hdepth
  | .real _, _, _, _, hdepth => answersFor_scalar rfl rfl rfl hdepth
  | .string text, _, hplain, _, hdepth => answersFor_string (by simpa [isPlain] using hplain) hdepth
  | .array items, depth, hplain, hself, hdepth => by
    rw [isPlain] at hplain
    rw [levels] at hdepth
    refine answersFor_array hplain (by omega) ?_
    exact answersFor_of_mem_items items (isPlain_of_mem_items hplain) hself.self_of_mem_items
      fun j hj => by have := levels_le_itemLevels j hj; omega
  | .object members, depth, hplain, hself, hdepth => by
    rw [isPlain] at hplain
    rw [levels] at hdepth
    have hdistinct : (members.map Prod.fst).Nodup := by
      cases hself with
      | object hdistinct => exact hdistinct
    refine answersFor_object hplain hdistinct (by omega) ?_
    exact answersFor_of_mem_members members
      (fun m hm => (isPlain_of_mem_members hplain m hm).2.2) hself.self_of_mem
      fun m hm => by have := levels_le_memberLevels m hm; omega

theorem answersFor_of_mem_items : (items : List Json) → {depth : Nat} →
    (∀ j ∈ items, isPlain j = true) → (∀ j ∈ items, j.Reorders j) →
    (∀ j ∈ items, depth + levels j < maxMatchDepth) → ∀ j ∈ items, AnswersFor s ctx depth j
  | [], _, _, _, _ => fun _ hj => absurd hj List.not_mem_nil
  | j :: rest, _, hplain, hself, hdepth => by
    rw [List.forall_mem_cons] at hplain hself hdepth ⊢
    exact ⟨answersFor_of_isPlain j hplain.1 hself.1 hdepth.1,
      answersFor_of_mem_items rest hplain.2 hself.2 hdepth.2⟩

theorem answersFor_of_mem_members : (members : List (String × Json)) → {depth : Nat} →
    (∀ m ∈ members, isPlain m.2 = true) → (∀ m ∈ members, m.2.Reorders m.2) →
    (∀ m ∈ members, depth + levels m.2 < maxMatchDepth) →
    ∀ m ∈ members, AnswersFor s ctx depth m.2
  | [], _, _, _, _ => fun _ hm => absurd hm List.not_mem_nil
  | (_, j) :: rest, _, hplain, hself, hdepth => by
    rw [List.forall_mem_cons] at hplain hself hdepth ⊢
    exact ⟨answersFor_of_isPlain j hplain.1 hself.1 hdepth.1,
      answersFor_of_mem_members rest hplain.2 hself.2 hdepth.2⟩

end

/-- **Values written as templates.**  Plain JSON with distinct names, nested less deep than matching
goes, that is read both as a value and as a template of a type, matches itself under the older rules
for omitted fields as well as the newer ones, with any codec, exactly if no part of the
value is an object identifier.  Otherwise matching fails on an object identifier whose type is
declared with elements, so that its template is one for a list. -/
theorem isMatch_of_readValue {type : TypeId} {j : Json} (hplain : isPlain j = true)
    (hdistinct : j.Reorders j) (hlevels : levels j < maxMatchDepth) {v : Value} {t : Template}
    (hv : readValue s type j = .ok v) (ht : readTemplate s type j = .ok t) :
    (v.hasObjectId = false → t.isMatch ctx v = .ok true) ∧
      (v.hasObjectId = true → ∃ last,
        ((s.get last).kind = .objectIdentifier ∨ (s.get last).kind = .relativeOid) ∧
          (s.elementType last).isSome = true ∧
          t.isMatch ctx v = .error (.typeMismatch .list (s.get last).kind)) := by
  have hself : AnswersFor s ctx 0 j := answersFor_of_isPlain j hplain hdistinct (by omega)
  have hanswer := hself hv ht
  rw [Store.AnswersItself] at hanswer
  refine ⟨fun hobjectId => ?_, fun hobjectId => ?_⟩
  · rwa [hobjectId, if_neg Bool.false_ne_true] at hanswer
  · rwa [hobjectId, if_pos rfl] at hanswer

end Document

/-- Entries that are known by an object identifier and described by words.  The declaration of object
identifiers has an element type, which their kind does not call for. -/
def Store.catalogue : Store where
  declarations := #[
    { name := "Id", kind := .objectIdentifier, element := some (.name "integer") },
    { name := "Words", kind := .recordOf, element := some (.name "charstring") },
    { name := "Entry", kind := .record,
      fields := [⟨"words", .name "Words", false⟩, ⟨"id", .name "Id", false⟩] },
    { name := "integer", kind := .integer },
    { name := "charstring", kind := .charstring }]

/-- Some words, one of which reads as any number of them in a template. -/
def Json.words : Json := .array [.string "a", .string "*"]

/-- An object identifier of two components. -/
def Json.identifier : Json := .array [.integer 1, .integer 2]

/-- An entry as it is written. -/
def Json.entry : Json := .object [("words", words), ("id", identifier)]

theorem Json.words_reorders : Json.words.Reorders .words :=
  .array rfl (List.forall_mem_cons.mpr ⟨.string, List.forall_mem_cons.mpr ⟨.string, nofun⟩⟩)

theorem Json.identifier_reorders : Json.identifier.Reorders .identifier :=
  .array rfl (List.forall_mem_cons.mpr ⟨.integer, List.forall_mem_cons.mpr ⟨.integer, nofun⟩⟩)

/-- Words match themselves, and on an entry matching fails at its object identifier. -/
theorem Document.isMatch_of_readValue_entry :
    (∃ v t, readValue .catalogue 1 .words = .ok v ∧ readTemplate .catalogue 1 .words = .ok t ∧
      v.hasObjectId = false ∧ ∀ ctx, t.isMatch ctx v = .ok true) ∧
    ∃ v t, readValue .catalogue 2 .entry = .ok v ∧ readTemplate .catalogue 2 .entry = .ok t ∧
      v.hasObjectId = true ∧ ∀ ctx, ∃ last,
        ((Store.catalogue.get last).kind = .objectIdentifier ∨
          (Store.catalogue.get last).kind = .relativeOid) ∧
        (Store.catalogue.elementType last).isSome = true ∧
        t.isMatch ctx v = .error (.typeMismatch .list (Store.catalogue.get last).kind) := by
  have hentry : Json.entry.Reorders .entry :=
    Json.reorders_self_of_members (by decide) (List.forall_mem_cons.mpr
      ⟨Json.words_reorders, List.forall_mem_cons.mpr ⟨Json.identifier_reorders, nofun⟩⟩)
  constructor
  · refine ⟨_, _, rfl, rfl, rfl, fun ctx => ?_⟩
    exact (Document.isMatch_of_readValue (by decide) Json.words_reorders (by decide)
      (show readValue .catalogue 1 .words = .ok _ from rfl)
      (show readTemplate .catalogue 1 .words = .ok _ from rfl)).1 rfl
  · refine ⟨_, _, rfl, rfl, rfl, fun ctx => ?_⟩
    exact (Document.isMatch_of_readValue (by decide) hentry (by decide)
      (show readValue .catalogue 2 .entry = .ok _ from rfl)
      (show readTemplate .catalogue 2 .entry = .ok _ from rfl)).2 rfl

/-- An object identifier whose type is declared with elements does not match itself. -/
theorem Document.isMatch_error_identifier :
    isPlain .identifier = true ∧ Json.identifier.Reorders .identifier ∧
      levels .identifier < maxMatchDepth ∧
      ∃ v t, readValue .catalogue 0 .identifier = .ok v ∧
        readTemplate .catalogue 0 .identifier = .ok t ∧
        ∀ ctx, t.isMatch ctx v = .error (.typeMismatch .list .objectIdentifier) :=
  ⟨by decide, Json.identifier_reorders, by decide, _, _, rfl, rfl, fun _ => rfl⟩

end TestSpec
