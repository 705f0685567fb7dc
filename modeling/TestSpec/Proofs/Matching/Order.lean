import TestSpec.Proofs.Matching.Safety
import TestSpec.Proofs.Value.Order

/-!
# Matching and the order of members

Templates for fields find the fields of a value by their names, so the order of the
fields of a record or set is of no consequence to them, nor to any other selector
but one: a specific value is compared with the value field by field.  Hence matching
answers the same for a value and a template that are reordered, provided that each
comparison with a specific value is in step before and after or neither
(`Template.stepsAlike`).

Main statement: `Template.Reorders.matchAt_eq`, by induction on the template.  Parts
that are decoded are content without parts, which has nothing to reorder.
-/

namespace TestSpec

/-! ### Parts of values that have no members -/

namespace Value.Reorders

variable {v v' : Value}

theorem length_eq (h : v.Reorders v') : v.length = v'.length := by
  cases h with
  | list hlength => exact congrArg Except.ok hlength
  | _ => rfl

theorem octets_eq (h : v.Reorders v') : v.octets = v'.octets := by
  cases h <;> rfl

theorem string_eq (h : v.Reorders v') : v.string = v'.string := by
  cases h <;> rfl

theorem scalarFor_eq (h : v.Reorders v') (operation : Operation) :
    v.scalarFor operation = v'.scalarFor operation := by
  cases h <;> rfl

theorem order_eq (h : v.Reorders v') (b : Value) : b.order v = b.order v' := by
  rw [order, order, h.scalarFor_eq]

theorem isMatch_range_eq (h : v.Reorders v') (r : ValueRange) : r.isMatch v = r.isMatch v' := by
  simp only [ValueRange.isMatch, ValueRange.matchesText, ValueRange.matchesOrdered,
    Bound.admitsAbove, Bound.admitsBelow, h.kind_eq, h.string_eq, h.order_eq]

end Value.Reorders

/-! ### Templates -/

namespace Template

mutual

/-- The same templates but for the order of the fields of records and sets in specific values. -/
inductive Reorders : Template → Template → Prop
  | mk {selector selector' : Selector} {ifPresent : Bool} {length : Option LengthRestriction}
      (h : SelectorReorders selector selector') :
      Reorders (.mk selector ifPresent length) (.mk selector' ifPresent length)

/-- The same selectors but for that order. -/
inductive SelectorReorders : Selector → Selector → Prop
  | uninitialized : SelectorReorders .uninitialized .uninitialized
  | omit : SelectorReorders .omit .omit
  | any : SelectorReorders .any .any
  | anyOrOmit : SelectorReorders .anyOrOmit .anyOrOmit
  | specific {e e' : Value} (h : e.Reorders e') : SelectorReorders (.specific e) (.specific e')
  | record {kind : Kind} {fields fields' : List FieldTemplate} (h : PartsReorder fields fields') :
      SelectorReorders (.record kind fields) (.record kind fields')
  | union {kind : Kind} {alternative : String} {t t' : Template} (h : Reorders t t') :
      SelectorReorders (.union kind alternative t) (.union kind alternative t')
  | elements {kind : Kind} {items items' : List Template} (h : ItemsReorder items items') :
      SelectorReorders (.elements kind items) (.elements kind items')
  | valueList {items items' : List Template} (h : ItemsReorder items items') :
      SelectorReorders (.valueList items) (.valueList items')
  | complement {items items' : List Template} (h : ItemsReorder items items') :
      SelectorReorders (.complement items) (.complement items')
  | range {r : ValueRange} : SelectorReorders (.range r) (.range r)
  | decoded {target : DecodeTarget} {t t' : Template} (h : Reorders t t') :
      SelectorReorders (.decoded target t) (.decoded target t')
  | pattern {p : Pattern} : SelectorReorders (.pattern p) (.pattern p)

/-- Lists of templates, one by one the same but for that order. -/
inductive ItemsReorder : List Template → List Template → Prop
  | nil : ItemsReorder [] []
  | cons {t t' : Template} {rest rest' : List Template} (h : Reorders t t')
      (hrest : ItemsReorder rest rest') : ItemsReorder (t :: rest) (t' :: rest')

/-- Templates for fields of the same names, one by one the same but for that order. -/
inductive PartsReorder : List FieldTemplate → List FieldTemplate → Prop
  | nil : PartsReorder [] []
  | cons {name : String} {t t' : Template} {rest rest' : List FieldTemplate}
      (h : Reorders t t') (hrest : PartsReorder rest rest') :
      PartsReorder (.mk name t :: rest) (.mk name t' :: rest')

end

mutual

/-- Where matching one value against a template compares a part with a specific value, and
matching another value against another template does so at the same place, both are in step or
neither is. -/
def stepsAlike : Template → Template → Value → Value → Bool
  | .mk selector _ _, .mk selector' _ _, v, v' => selectorStepsAlike selector selector' v v'
termination_by structural t => t

/-- The same for selectors. -/
def selectorStepsAlike : Selector → Selector → Value → Value → Bool
  | .specific e, .specific e', v, v' => v.isInStep e == v'.isInStep e'
  | .valueList items, .valueList items', v, v' => allStepAlike items items' [(v, v')]
  | .complement items, .complement items', v, v' => allStepAlike items items' [(v, v')]
  | .record _ fields, .record _ fields', .record _ values, .record _ values' =>
    partsStepAlike fields fields' values values'
  | .union _ alternative t, .union _ _ t', .union _ selected v, .union _ _ v' =>
    selected != alternative || stepsAlike t t' v v'
  | .elements _ items, .elements _ items', .list _ values, .list _ values' =>
    if items.any isRun then allStepAlike items items' (values.zip values')
    else items.length != values.length || eachStepAlike items items' (values.zip values')
  | _, _, _, _ => true
termination_by structural selector => selector

/-- The same for each of some templates and each of some pairs of values. -/
def allStepAlike : List Template → List Template → List (Value × Value) → Bool
  | t :: rest, t' :: rest', pairs =>
    pairs.all (fun p => stepsAlike t t' p.1 p.2) && allStepAlike rest rest' pairs
  | _, _, _ => true
termination_by structural items => items

/-- The same for templates and pairs of values, one by one. -/
def eachStepAlike : List Template → List Template → List (Value × Value) → Bool
  | t :: rest, t' :: rest', p :: pairs =>
    stepsAlike t t' p.1 p.2 && eachStepAlike rest rest' pairs
  | _, _, _ => true
termination_by structural items => items

/-- The same for templates for fields and the fields of their names. -/
def partsStepAlike : List FieldTemplate → List FieldTemplate → List FieldValue → List FieldValue →
    Bool
  | .mk name t :: rest, .mk _ t' :: rest', values, values' =>
    (match values.find? fun f => f.name == name, values'.find? fun f => f.name == name with
      | some (.present _ v), some (.present _ v') => stepsAlike t t' v v'
      | _, _ => true) && partsStepAlike rest rest' values values'
  | _, _, _, _ => true
termination_by structural fields => fields

end

theorem Reorders.withIfPresent {t t' : Template} (h : t.Reorders t') (ifPresent : Bool) :
    (t.withIfPresent ifPresent).Reorders (t'.withIfPresent ifPresent) := by
  obtain ⟨h⟩ := h
  exact .mk h

theorem Reorders.withLength {t t' : Template} (h : t.Reorders t')
    (length : Option LengthRestriction) :
    (t.withLength length).Reorders (t'.withLength length) := by
  obtain ⟨h⟩ := h
  exact .mk h

/-! ### What does not look at specific values -/

theorem Reorders.isInitialized_eq {t t' : Template} (h : t.Reorders t') :
    t.isInitialized = t'.isInitialized := by
  obtain ⟨h⟩ := h
  cases h <;> rfl

theorem Reorders.isRun_eq {t t' : Template} (h : t.Reorders t') : t.isRun = t'.isRun := by
  obtain ⟨h⟩ := h
  cases h <;> rfl

theorem ItemsReorder.any_isRun_eq {items items' : List Template} (h : ItemsReorder items items') :
    items.any isRun = items'.any isRun := by
  induction items generalizing items' with
  | nil =>
    cases h
    rfl
  | cons t rest ih =>
    obtain ⟨⟩ | ⟨h, hrest⟩ := h
    rw [List.any_cons, List.any_cons, h.isRun_eq, ih hrest]

theorem ItemsReorder.length_eq {items items' : List Template} (h : ItemsReorder items items') :
    items.length = items'.length := by
  induction items generalizing items' with
  | nil =>
    cases h
    rfl
  | cons t rest ih =>
    obtain ⟨⟩ | ⟨h, hrest⟩ := h
    simp [ih hrest]

mutual

theorem Reorders.matchesOmit_eq (isLegacy : Bool) : {t t' : Template} → t.Reorders t' →
    t.matchesOmit isLegacy = t'.matchesOmit isLegacy
  | .mk _ _ _, .mk _ _ _, .mk h => by
    rw [matchesOmit, matchesOmit, SelectorReorders.matchesOmit_eq isLegacy h]

theorem SelectorReorders.matchesOmit_eq (isLegacy : Bool) : {selector selector' : Selector} →
    SelectorReorders selector selector' →
    selectorMatchesOmit isLegacy selector = selectorMatchesOmit isLegacy selector'
  | _, _, .valueList h | _, _, .complement h => by
    rw [selectorMatchesOmit, selectorMatchesOmit, ItemsReorder.anyMatchesOmit_eq isLegacy h]
  | _, _, .uninitialized | _, _, .omit | _, _, .any | _, _, .anyOrOmit | _, _, .specific _
  | _, _, .record _ | _, _, .union _ | _, _, .elements _ | _, _, .range | _, _, .decoded _
  | _, _, .pattern => rfl

theorem ItemsReorder.anyMatchesOmit_eq (isLegacy : Bool) : {items items' : List Template} →
    ItemsReorder items items' → anyMatchesOmit isLegacy items = anyMatchesOmit isLegacy items'
  | _, _, .nil => rfl
  | _, _, .cons h hrest => by
    rw [anyMatchesOmit, anyMatchesOmit, Reorders.matchesOmit_eq isLegacy h,
      ItemsReorder.anyMatchesOmit_eq isLegacy hrest]

end

/-! ### Matching -/

/-- Content without parts is in step with everything. -/
theorem isInStep_scalar (kind : Kind) (content : Scalar) (e : Value) :
    (Value.scalar kind content).isInStep e = true := by
  cases e <;> rfl

mutual

theorem Reorders.stepsAlike_scalar (kind : Kind) (content : Scalar) : {t t' : Template} →
    t.Reorders t' → stepsAlike t t' (.scalar kind content) (.scalar kind content) = true
  | _, _, .mk h => SelectorReorders.stepsAlike_scalar kind content h

theorem SelectorReorders.stepsAlike_scalar (kind : Kind) (content : Scalar) :
    {selector selector' : Selector} → SelectorReorders selector selector' →
    selectorStepsAlike selector selector' (.scalar kind content) (.scalar kind content) = true
  | _, _, .specific _ => by simp [selectorStepsAlike, isInStep_scalar]
  | _, _, .valueList h | _, _, .complement h => by
    rw [selectorStepsAlike, ItemsReorder.allStepAlike_scalar kind content h]
  | _, _, .uninitialized | _, _, .omit | _, _, .any | _, _, .anyOrOmit | _, _, .record _
  | _, _, .union _ | _, _, .elements _ | _, _, .range | _, _, .decoded _ | _, _, .pattern => rfl

theorem ItemsReorder.allStepAlike_scalar (kind : Kind) (content : Scalar) :
    {items items' : List Template} → ItemsReorder items items' →
    allStepAlike items items' [(.scalar kind content, .scalar kind content)] = true
  | _, _, .nil => rfl
  | _, _, .cons h hrest => by
    simp [allStepAlike, Reorders.stepsAlike_scalar kind content h,
      ItemsReorder.allStepAlike_scalar kind content hrest]

end

theorem reachOne_congr {f g : Value → Except MatchError Bool} {values values' : List Value}
    (h : List.Forall₂ (fun v v' => f v = g v') values values') (reached : List Bool) :
    reachOne f reached values = reachOne g reached values' := by
  induction h generalizing reached with
  | nil => cases reached <;> simp [reachOne]
  | cons h _ ih =>
    cases reached with
    | nil => simp [reachOne]
    | cons isReached reached => rw [reachOne, reachOne, h, ih]

variable {ctx : MatchContext}

mutual

/-- **Matching reordered values.**  Values and templates that are reordered match as before, and
fail as before, if each comparison with a specific value is in step before and after or neither. -/
theorem Reorders.matchAt_eq (hcodec : ctx.codec = some Codec.raw) : {t t' : Template} →
    t.Reorders t' → ∀ {v v' : Value} (depth : Nat), v.Reorders v' → stepsAlike t t' v v' = true →
    matchAt ctx depth t v = matchAt ctx depth t' v'
  | .mk selector _ _, .mk selector' _ _, .mk h, _, _, depth, hv, hstep => by
    have hselector := SelectorReorders.selectorMatch_eq hcodec h depth hv hstep
    have hinit : isInitialized (.mk selector false none) =
        isInitialized (.mk selector' false none) := (Reorders.mk h).isInitialized_eq
    rw [matchAt_mk, matchAt_mk, hinit, hv.isBound, hv.symm.isBound, hv.length_eq, hselector]

theorem SelectorReorders.selectorMatch_eq (hcodec : ctx.codec = some Codec.raw) :
    {selector selector' : Selector} → SelectorReorders selector selector' →
    ∀ {v v' : Value} (depth : Nat), v.Reorders v' →
    selectorStepsAlike selector selector' v v' = true →
    selectorMatch ctx depth selector v = selectorMatch ctx depth selector' v'
  | _, _, .uninitialized, v, v', _, _, _ | _, _, .omit, v, v', _, _, _ | _, _, .any, v, v', _, _, _
  | _, _, .anyOrOmit, v, v', _, _, _ => rfl
  | _, _, .specific he, _, _, _, hv, hstep =>
    hv.equals_eq he (by simpa [selectorStepsAlike] using hstep)
  | _, _, .valueList h, _, _, depth, hv, hstep =>
    ItemsReorder.matchesAny_eq hcodec h (depth + 1) hv hstep
  | _, _, .complement h, _, _, depth, hv, hstep =>
    congrArg (Except.map not) (ItemsReorder.matchesAny_eq hcodec h (depth + 1) hv hstep)
  | _, _, .range, _, _, _, hv, _ => hv.isMatch_range_eq _
  | _, _, .pattern, _, _, _, hv, _ => by rw [selectorMatch, selectorMatch, hv.string_eq]
  | _, _, .record h, v, v', depth, hv, hstep => by
    have hrecord := hv
    cases hv with
    | record => exact PartsReorder.matchesFields_eq hcodec h (depth + 1) hrecord hstep
    | _ => rfl
  | _, _, .union h, _, _, depth, hv, hstep => by
    cases hv with
    | union hv =>
      simp only [selectorStepsAlike, Bool.or_eq_true, bne_iff_ne] at hstep
      rw [selectorMatch, selectorMatch, hv.isBound, hv.symm.isBound]
      split
      · rename_i hselected
        exact Reorders.matchAt_eq hcodec h (depth + 1) hv
          (hstep.resolve_left (not_not_intro hselected.1))
      · rfl
    | _ => rfl
  | _, _, .elements h, _, _, depth, hv, hstep => by
    cases hv with
    | list hlength helements =>
      have hvalues := List.forall₂_iff_zip.mpr ⟨hlength, fun hp => helements _ hp⟩
      simp only [selectorStepsAlike] at hstep
      rw [selectorMatch_elements, selectorMatch_elements, matchesElements_eq, matchesElements_eq,
        matchesTable_eq, matchesTable_eq, ← h.any_isRun_eq, ← h.length_eq, ← hlength]
      split
      · rename_i hrun
        rw [if_pos hrun] at hstep
        rw [ItemsReorder.matchesRuns_eq hcodec h (depth + 1) _ hvalues hstep]
      · rename_i hrun
        rw [if_neg hrun] at hstep
        split
        · rename_i hcount
          refine ItemsReorder.matchesEach_eq hcodec h (depth + 1) hvalues ?_
          simpa [hcount] using hstep
        · rfl
    | _ => rfl
  | _, _, .decoded h, _, _, depth, hv, _ => by
    rw [selectorMatch, selectorMatch, hcodec, hv.octets_eq]
    dsimp only
    split
    · rfl
    split
    · rename_i content hcontent
      obtain ⟨kind, content, rfl, -⟩ := Codec.raw_eq_ok hcontent
      exact Reorders.matchAt_eq hcodec h (depth + 1) .scalar (h.stepsAlike_scalar kind content)
    · rfl

theorem ItemsReorder.matchesAny_eq (hcodec : ctx.codec = some Codec.raw) :
    {items items' : List Template} → ItemsReorder items items' → ∀ {v v' : Value} (depth : Nat),
    v.Reorders v' → allStepAlike items items' [(v, v')] = true →
    matchesAny ctx depth items v = matchesAny ctx depth items' v'
  | _, _, .nil, _, _, _, _, _ => rfl
  | _, _, .cons h hrest, _, _, depth, hv, hstep => by
    simp only [allStepAlike, List.all_cons, List.all_nil, Bool.and_true, Bool.and_eq_true] at hstep
    rw [matchesAny, matchesAny, Reorders.matchAt_eq hcodec h depth hv hstep.1,
      ItemsReorder.matchesAny_eq hcodec hrest depth hv hstep.2]

theorem PartsReorder.matchesFields_eq (hcodec : ctx.codec = some Codec.raw) :
    {fields fields' : List FieldTemplate} → PartsReorder fields fields' →
    ∀ {kind : Kind} {values values' : List FieldValue} (depth : Nat),
    (Value.record kind values).Reorders (.record kind values') →
    partsStepAlike fields fields' values values' = true →
    matchesFields ctx depth kind values fields = matchesFields ctx depth kind values' fields'
  | _, _, .nil, _, _, _, _, _, _ => rfl
  | .mk name t :: _, .mk _ t' :: _, .cons h hrest, kind, values, values', depth, hv, hstep => by
    simp only [partsStepAlike, Bool.and_eq_true] at hstep
    obtain ⟨hstep, hrest_step⟩ := hstep
    have ih := PartsReorder.matchesFields_eq hcodec hrest depth hv hrest_step
    rw [matchesFields, matchesFields, ih]
    have hfield := hv.find?_field name
    revert hstep hfield
    generalize (values.find? fun f => f.name == name) = found
    generalize (values'.find? fun f => f.name == name) = found'
    intro hstep hfield
    cases hfield with
    | none => rfl
    | some hfield =>
      cases hfield with
      | present hv => simp only [Reorders.matchAt_eq hcodec h depth hv hstep]
      | omitted => simp only [h.matchesOmit_eq]

theorem ItemsReorder.matchesEach_eq (hcodec : ctx.codec = some Codec.raw) :
    {items items' : List Template} → ItemsReorder items items' →
    ∀ {values values' : List Value} (depth : Nat), List.Forall₂ Value.Reorders values values' →
    eachStepAlike items items' (values.zip values') = true →
    matchesEach ctx depth items values = matchesEach ctx depth items' values'
  | _, _, .nil, _, _, _, _, _ => by simp [matchesEach]
  | _, _, .cons _ _, _, _, _, .nil, _ => by simp [matchesEach]
  | _, _, .cons h hrest, _, _, depth, .cons hv hvalues, hstep => by
    simp only [List.zip_cons_cons, eachStepAlike, Bool.and_eq_true] at hstep
    rw [matchesEach, matchesEach, Reorders.matchAt_eq hcodec h depth hv hstep.1,
      ItemsReorder.matchesEach_eq hcodec hrest depth hvalues hstep.2]

theorem ItemsReorder.matchesRuns_eq (hcodec : ctx.codec = some Codec.raw) :
    {items items' : List Template} → ItemsReorder items items' →
    ∀ {values values' : List Value} (depth : Nat) (reached : List Bool),
    List.Forall₂ Value.Reorders values values' →
    allStepAlike items items' (values.zip values') = true →
    matchesRuns ctx depth values reached items = matchesRuns ctx depth values' reached items'
  | _, _, .nil, _, _, _, _, _, _ => rfl
  | _, _, .cons h hrest, values, values', depth, reached, hvalues, hstep => by
    simp only [allStepAlike, Bool.and_eq_true, List.all_eq_true] at hstep
    have hmatch := List.forall₂_iff_zip.mpr ⟨hvalues.length_eq, fun {v v'} hp =>
      Reorders.matchAt_eq hcodec h depth (List.forall₂_zip hvalues hp) (hstep.1 _ hp)⟩
    have ih := fun reached =>
      ItemsReorder.matchesRuns_eq hcodec hrest depth reached hvalues hstep.2
    rw [matchesRuns, matchesRuns, h.isRun_eq, reachOne_congr hmatch]
    simp only [ih]

end

end Template

end TestSpec
