import TestSpec.Document.Run
import TestSpec.Proofs.Check.Session
import TestSpec.Proofs.Check.Template
import TestSpec.Proofs.Matching.Operations

/-!
# Checked templates never make a match fail

A match fails where a template asks of a value what its kind does not have, where a part
is not there, or where it is nested too deep.  The check of a template is there to keep
such templates out, and it does: a template that was read for a type, is nested no
deeper than the check walks, and raised no complaint has an answer for every value that
was read for the type, provided that the records in the value list all their fields.
Main statement: `Check.isMatch_ok_of_template`.

The proof follows the template.  A selector **answers** for a type if matching has an
answer for all such values wherever the check of the selector finds nothing
(`Store.Answers`); what the reader makes answers because its parts do, and each kind of
part meets the one operation of matching that could fail (`Store.Describes.answers`).
-/

namespace TestSpec

/-- All records and sets in a value of a type list all fields of their types, present or omitted. -/
inductive Store.ListsFields (s : Store) : TypeId → Value → Prop
  | scalar {type : TypeId} {kind : Kind} {content : Scalar} :
      ListsFields s type (.scalar kind content)
  | record {type last : TypeId} {kind : Kind} {fields : List FieldValue}
      (hlast : s.resolveAlias? type = some last)
      (hall : ∀ f ∈ (s.get last).fields, f.name ∈ fields.map FieldValue.name)
      (hvalues : ∀ name value t, FieldValue.present name value ∈ fields →
        s.fieldType type name = some t → ListsFields s t value) :
      ListsFields s type (.record kind fields)
  | union {type t : TypeId} {kind : Kind} {alternative : String} {value : Value}
      (hfield : s.fieldType type alternative = some t) (hvalue : ListsFields s t value) :
      ListsFields s type (.union kind alternative value)
  | list {type t : TypeId} {kind : Kind} {elements : List Value}
      (helement : s.elementType type = some t)
      (helements : ∀ value ∈ elements, ListsFields s t value) :
      ListsFields s type (.list kind elements)

/-- Check stamps have no part in which fields a type has. -/
theorem Store.ListsFields.congr {s s' : Store} (hsame : s.unstamped = s'.unstamped)
    {type : TypeId} {v : Value} (h : s.ListsFields type v) : s'.ListsFields type v := by
  induction h with
  | scalar => exact .scalar
  | record hlast hall _ ih =>
    rw [resolveAlias?_congr hsame] at hlast
    rw [fields_congr hsame] at hall
    simp only [fieldType_congr hsame] at ih
    exact .record hlast hall ih
  | union hfield _ ih =>
    rw [fieldType_congr hsame] at hfield
    exact .union hfield ih
  | list helement _ ih =>
    rw [elementType_congr hsame] at helement
    exact .list helement ih

/-! ### Matching lists -/

namespace Template

variable {ctx : MatchContext} {depth : Nat}

theorem matchAt_mk (selector : Selector) (ifPresent : Bool) (length : Option LengthRestriction)
    (v : Value) :
    matchAt ctx depth (.mk selector ifPresent length) v =
      if maxMatchDepth ≤ depth then .error .depthExceeded
      else if !isInitialized (.mk selector false none) then .error .uninitializedTemplate
      else if !v.isBound then .error (.unboundValue .matching)
      else match length with
        | none => selectorMatch ctx depth selector v
        | some restriction =>
          match v.length with
          | .error e => .error e
          | .ok n =>
            if restriction.contains n then selectorMatch ctx depth selector v else .ok false := rfl

/-- A template has an answer if it is initialized and not too deep, the value is bound and has a
length where one is asked for, and the selector has an answer. -/
theorem matchAt_ok {selector : Selector} {ifPresent : Bool} {length : Option LengthRestriction}
    {v : Value} (hdepth : depth < maxMatchDepth)
    (hinit : isInitialized (.mk selector false none) = true) (hbound : v.isBound = true)
    (hlength : ∀ r ∈ length, ∃ n, v.length = .ok n)
    (hselector : ∃ answer, selectorMatch ctx depth selector v = .ok answer) :
    ∃ answer, matchAt ctx depth (.mk selector ifPresent length) v = .ok answer := by
  rw [matchAt_mk, if_neg (Nat.not_le.mpr hdepth)]
  simp only [hinit, hbound, Bool.not_true, Bool.false_eq_true, if_false]
  cases length with
  | none => exact hselector
  | some r =>
    obtain ⟨n, hn⟩ := hlength r rfl
    simp only [hn]
    split
    · exact hselector
    · exact ⟨false, rfl⟩

theorem matchesAny_ok {items : List Template} {v : Value}
    (h : ∀ item ∈ items, ∃ answer, matchAt ctx depth item v = .ok answer) :
    ∃ answer, matchesAny ctx depth items v = .ok answer := by
  induction items with
  | nil => exact ⟨false, rfl⟩
  | cons item rest ih =>
    rw [List.forall_mem_cons] at h
    obtain ⟨answer, hanswer⟩ := h.1
    rw [matchesAny, hanswer]
    cases answer with
    | true => exact ⟨true, rfl⟩
    | false => exact ih h.2

theorem matchesEach_ok {items : List Template} {values : List Value}
    (h : ∀ item ∈ items, ∀ v ∈ values, ∃ answer, matchAt ctx depth item v = .ok answer) :
    ∃ answer, matchesEach ctx depth items values = .ok answer := by
  induction items generalizing values with
  | nil => exact ⟨true, rfl⟩
  | cons item rest ih =>
    cases values with
    | nil => exact ⟨true, rfl⟩
    | cons v values =>
      rw [List.forall_mem_cons] at h
      obtain ⟨answer, hanswer⟩ := h.1 v (List.mem_cons_self ..)
      rw [matchesEach, hanswer]
      cases answer with
      | false => exact ⟨false, rfl⟩
      | true => exact ih fun item hitem w hw => h.2 item hitem w (List.mem_cons_of_mem _ hw)

theorem reachOne_ok {isMatch : Value → Except MatchError Bool} (reached : List Bool)
    {values : List Value} (h : ∀ v ∈ values, ∃ answer, isMatch v = .ok answer) :
    ∃ next, reachOne isMatch reached values = .ok next := by
  induction reached generalizing values with
  | nil => exact ⟨[], by rw [reachOne]; simp⟩
  | cons isReached reached ih =>
    cases values with
    | nil => exact ⟨[], rfl⟩
    | cons v values =>
      rw [List.forall_mem_cons] at h
      obtain ⟨answer, hanswer⟩ := h.1
      obtain ⟨next, hnext⟩ := ih h.2
      rw [reachOne]
      cases isReached with
      | true => exact ⟨answer :: next, by simp only [if_true, hanswer, hnext]; rfl⟩
      | false => exact ⟨false :: next, by simp only [hnext]; rfl⟩

/-- The items of a list template can be run over elements if each item that is no run of elements
can be matched with each element. -/
theorem matchesRuns_ok {items : List Template} {values : List Value} (reached : List Bool)
    (h : ∀ item ∈ items, ∀ v ∈ values, ∃ answer, matchAt ctx depth item v = .ok answer) :
    ∃ next, matchesRuns ctx depth values reached items = .ok next := by
  induction items generalizing reached with
  | nil => exact ⟨reached, rfl⟩
  | cons item rest ih =>
    rw [List.forall_mem_cons] at h
    rw [matchesRuns]
    split
    · exact ih _ h.2
    · obtain ⟨next, hnext⟩ := reachOne_ok reached h.1
      rw [hnext]
      exact ih _ h.2

/-- A list template asks its items about the elements, one level deeper. -/
theorem selectorMatch_elements {items : List Template} {values : List Value}
    (kind listKind : Kind) :
    selectorMatch ctx depth (.elements kind items) (.list listKind values) =
      matchesElements ctx (depth + 1) items values := by
  rw [selectorMatch]
  rfl

/-- The table starts at the first position and ends at the last. -/
theorem matchesTable_eq (ctx : MatchContext) (depth : Nat) (items : List Template)
    (values : List Value) : matchesTable ctx depth items values =
      (matchesRuns ctx depth values (reachNone values.length) items).map fun reached =>
        reached.getLast? == some true := rfl

/-- Items match by the table if a bare `*` is among them, and one by one otherwise. -/
theorem matchesElements_eq (ctx : MatchContext) (depth : Nat) (items : List Template)
    (values : List Value) : matchesElements ctx depth items values =
      if items.any isRun then matchesTable ctx depth items values
      else if items.length = values.length then matchesEach ctx depth items values
      else .ok false := rfl

/-- Items match elements or not if each item can be matched with each element. -/
theorem matchesElements_ok {items : List Template} {values : List Value}
    (h : ∀ item ∈ items, ∀ v ∈ values, ∃ answer, matchAt ctx depth item v = .ok answer) :
    ∃ answer, matchesElements ctx depth items values = .ok answer := by
  rw [matchesElements_eq]
  split
  · obtain ⟨next, hnext⟩ := matchesRuns_ok (reachNone values.length) h
    rw [matchesTable_eq, hnext]
    exact ⟨_, rfl⟩
  split
  · exact matchesEach_ok h
  · exact ⟨false, rfl⟩

/-- Fields can be matched if each field template names a field that is there, and can be matched
with its value if it has one. -/
theorem matchesFields_ok {kind : Kind} {values : List FieldValue} {fields : List FieldTemplate}
    (h : ∀ f ∈ fields, ∃ g, (values.find? fun x => x.name == f.name) = some g ∧
      ∀ name v, g = .present name v → ∃ answer, matchAt ctx depth f.template v = .ok answer) :
    ∃ answer, matchesFields ctx depth kind values fields = .ok answer := by
  induction fields with
  | nil => exact ⟨true, rfl⟩
  | cons f rest ih =>
    obtain ⟨name, template⟩ := f
    rw [List.forall_mem_cons] at h
    obtain ⟨⟨g, hfound, hmatch⟩, hrest⟩ := h
    rw [matchesFields, show (values.find? fun x => x.name == name) = some g from hfound]
    cases g with
    | present found v =>
      obtain ⟨answer, hanswer⟩ := hmatch found v rfl
      simp only [FieldTemplate.template] at hanswer
      simp only [hanswer]
      cases answer with
      | true => exact ih hrest
      | false => exact ⟨false, rfl⟩
    | omitted found =>
      dsimp only
      split
      · exact ih hrest
      · exact ⟨false, rfl⟩

end Template

/-! ### Selectors that answer -/

namespace Store

variable {s : Store} {ctx : MatchContext} {type : TypeId}

/-- Wherever the check of a selector for a type finds nothing, and neither the check nor the match
gets too deep, matching a value that has the form of the type has an answer. -/
def Answers (s : Store) (ctx : MatchContext) (type : TypeId) (selector : Selector) : Prop :=
  ∀ ⦃last isOptional n depth v⦄, s.resolveAlias? type = some last →
    (s.checkSelector type last isOptional n selector).1 = [] →
    n.depth + Template.selectorHeight selector ≤ n.maxDepth →
    depth + Template.selectorHeight selector < maxMatchDepth →
    s.Shaped Kind.SameView true type v → s.ListsFields type v →
    ∃ answer, Template.selectorMatch ctx depth selector v = .ok answer

theorem Describes.isInitialized {t : Template} (h : s.Describes type t.selector) :
    Template.isInitialized (.mk t.selector false none) = true := by
  cases t with
  | mk selector ifPresent length =>
    cases h <;> rfl

/-- A type that resolves is not silenced in a store without erroneous declarations. -/
theorem isSilenced_eq_false {last : TypeId} (hclean : ∀ u, (s.get u).isErroneous = false)
    (hlast : s.resolveAlias? type = some last) : s.isSilenced type = false :=
  isSilenced_eq_false_iff.mpr ⟨isErroneous_eq_false fun u _ => hclean u, last, hlast⟩

/-- A template whose selector answers has an answer itself: what its check finds about the selector
one level deeper is nothing, and its length restriction asks for a length that there is. -/
theorem Answers.matchAt {t : Template} (h : s.Answers ctx type t.selector)
    (hinit : Template.isInitialized (.mk t.selector false none) = true)
    (hclean : ∀ u, (s.get u).isErroneous = false) {isOptional : Bool} {n : Nesting} {depth : Nat}
    (hcheck : (s.checkTemplate type isOptional n t).1.complaints = [])
    (hroom : n.depth + t.height ≤ n.maxDepth) (hdepth : depth + t.height ≤ maxMatchDepth)
    {v : Value} (hv : s.Shaped Kind.SameView true type v) (hfields : s.ListsFields type v) :
    ∃ answer, t.matchAt ctx depth v = .ok answer := by
  obtain ⟨selector, ifPresent, length⟩ := t
  obtain ⟨last, hlast⟩ := hv.exists_last
  rw [Template.height_eq] at hroom hdepth
  simp only [Template.selector] at h hinit hroom hdepth
  have hdeeper : n.enter? = some { n with depth := n.depth + 1 } :=
    if_pos (by omega : n.depth < n.maxDepth)
  obtain ⟨-, hlength, hselector⟩ :=
    (checkTemplate_eq_nil_iff (isSilenced_eq_false hclean hlast) hlast hdeeper).mp hcheck
  refine Template.matchAt_ok (by omega) hinit hv.isBound (fun r hr => ?_) ?_
  · exact hv.exists_length hlast (hasLength_of_lengthComplaints (hlength r hr))
  · refine h hlast hselector ?_ (by omega) hv hfields
    simp only
    omega

/-! Each form of selector that is made of templates answers if its templates do. -/

section

variable (hclean : ∀ u, (s.get u).isErroneous = false)

include hclean

/-- Templates for one type, none of which is complained about, have an answer each. -/
theorem Answers.matchAt_items {t : TypeId} {items : List Template}
    (hitems : ∀ item ∈ items, s.Describes t item.selector)
    (h : ∀ item ∈ items, s.Answers ctx t item.selector) {isOptional : Bool} {n : Nesting}
    {depth : Nat}
    (hcheck : ∀ item ∈ items, (s.checkTemplate t isOptional n item).1.complaints = [])
    (hroom : n.depth + Template.itemsHeight items ≤ n.maxDepth)
    (hdepth : depth + Template.itemsHeight items < maxMatchDepth) {item : Template}
    (hitem : item ∈ items) {v : Value} (hv : s.Shaped Kind.SameView true t v)
    (hfields : s.ListsFields t v) :
    ∃ answer, item.matchAt ctx (depth + 1) v = .ok answer := by
  have hheight := Template.height_le_itemsHeight hitem
  exact (h item hitem).matchAt (hitems item hitem).isInitialized hclean (hcheck item hitem)
    (by omega) (by omega) hv hfields

theorem answers_record {kind : Kind} {fields : List FieldTemplate}
    (hnames : ∀ f ∈ fields, (s.fieldType type f.name).isSome = true)
    (hparts : ∀ f ∈ fields, ∀ t, s.fieldType type f.name = some t →
      s.Describes t f.template.selector)
    (h : ∀ f ∈ fields, ∀ t, s.fieldType type f.name = some t →
      s.Answers ctx t f.template.selector) :
    s.Answers ctx type (.record kind fields) := by
  intro last isOptional n depth v hlast hcheck hroom hdepth hv hfields
  obtain ⟨hform, hchecked⟩ := checkSelector_record_eq_nil hcheck
  obtain ⟨kind', values, rfl⟩ := hv.exists_fields hlast hform
  rw [Template.selectorMatch]
  refine Template.matchesFields_ok fun f hf => ?_
  obtain ⟨g, hg, hclear⟩ := hchecked f hf
  obtain ⟨t, ht⟩ := Option.isSome_iff_exists.mp (hnames f hf)
  have hlisted : f.name ∈ values.map FieldValue.name := by
    cases hfields with
    | record hlast' hall _ =>
      obtain rfl := Option.some.inj (hlast'.symm.trans hlast)
      have hname : g.name = f.name := by simpa using List.find?_some hg
      rw [← hname]
      exact hall g (List.mem_of_find?_eq_some hg)
  obtain ⟨x, hx, hxname⟩ := List.mem_map.mp hlisted
  obtain ⟨y, hy⟩ := Option.isSome_iff_exists.mp
    (List.find?_isSome.mpr ⟨x, hx, by simp [hxname]⟩ :
      (values.find? fun x => x.name == f.name).isSome = true)
  refine ⟨y, hy, fun name value heq => ?_⟩
  have hmem := List.mem_of_find?_eq_some hy
  obtain rfl : name = f.name := by simpa [heq, FieldValue.name] using List.find?_some hy
  rw [heq] at hmem
  have hchecked' : (s.checkTemplate t g.isOptional n f.template).1.complaints = [] := by
    refine hclear t ?_
    rw [fieldType_eq hlast, hg] at ht
    exact ht
  have hheight := Template.height_le_fieldsHeight hf
  rw [Template.selectorHeight] at hroom hdepth
  refine (h f hf t ht).matchAt (hparts f hf t ht).isInitialized hclean hchecked' (by omega)
    (by omega) ?_ ?_
  · cases hv with
    | record _ _ _ _ hvalues => exact hvalues _ value t hmem ht
  · cases hfields with
    | record _ _ hvalues => exact hvalues _ value t hmem ht

theorem answers_union {kind : Kind} {alternative : String} {template : Template} {t : TypeId}
    (hfield : s.fieldType type alternative = some t) (hpart : s.Describes t template.selector)
    (h : s.Answers ctx t template.selector) :
    s.Answers ctx type (.union kind alternative template) := by
  intro last isOptional n depth v hlast hcheck hroom hdepth hv hfields
  obtain ⟨hform, t', ht', hchecked⟩ := checkSelector_union_eq_nil hcheck
  rw [fieldType_last hlast] at ht'
  obtain rfl := Option.some.inj (ht'.symm.trans hfield)
  obtain ⟨kind', selected, value, rfl⟩ := hv.exists_alternative hlast hform
  rw [Template.selectorMatch]
  split
  · rename_i hselected
    obtain ⟨rfl, -⟩ := hselected
    rw [Template.selectorHeight] at hroom hdepth
    refine h.matchAt hpart.isInitialized hclean hchecked hroom (by omega) ?_ ?_
    · cases hv with
      | union _ _ _ hfield' hvalue =>
        obtain rfl := Option.some.inj (hfield'.symm.trans hfield)
        exact hvalue
    · cases hfields with
      | union hfield' hvalue =>
        obtain rfl := Option.some.inj (hfield'.symm.trans hfield)
        exact hvalue
  · exact ⟨false, rfl⟩

theorem answers_elements {kind : Kind} {items : List Template} {t : TypeId}
    (helement : s.elementType type = some t)
    (hitems : ∀ item ∈ items, s.Describes t item.selector)
    (h : ∀ item ∈ items, s.Answers ctx t item.selector) :
    s.Answers ctx type (.elements kind items) := by
  intro last isOptional n depth v hlast hcheck hroom hdepth hv hfields
  obtain ⟨hform, hchecked⟩ := checkSelector_elements_eq_nil hcheck
  rw [elementType_last hlast] at hchecked
  obtain ⟨kind', values, rfl⟩ := hv.exists_elements hlast hform
  rw [Template.selectorHeight] at hroom hdepth
  have hmatch : ∀ item ∈ items, ∀ value ∈ values,
      ∃ answer, item.matchAt ctx (depth + 1) value = .ok answer := by
    intro item hitem value hvalue
    refine Answers.matchAt_items hclean hitems h (hchecked t helement) hroom hdepth hitem ?_ ?_
    · cases hv with
      | list _ _ _ helement' helements =>
        obtain rfl := Option.some.inj (helement'.symm.trans helement)
        exact helements value hvalue
    · cases hfields with
      | list helement' helements =>
        obtain rfl := Option.some.inj (helement'.symm.trans helement)
        exact helements value hvalue
  rw [Template.selectorMatch_elements]
  exact Template.matchesElements_ok hmatch

theorem matchesAny_ok_of_answers {items : List Template}
    (hitems : ∀ item ∈ items, s.Describes type item.selector)
    (h : ∀ item ∈ items, s.Answers ctx type item.selector) {isOptional : Bool} {n : Nesting}
    {depth : Nat} (hcheck : (s.checkTemplates type isOptional n items).1 = [])
    (hroom : n.depth + Template.itemsHeight items ≤ n.maxDepth)
    (hdepth : depth + Template.itemsHeight items < maxMatchDepth) {v : Value}
    (hv : s.Shaped Kind.SameView true type v) (hfields : s.ListsFields type v) :
    ∃ answer, Template.matchesAny ctx (depth + 1) items v = .ok answer :=
  Template.matchesAny_ok fun _ hitem =>
    Answers.matchAt_items hclean hitems h (checkTemplates_eq_nil_iff.mp hcheck) hroom hdepth hitem
      hv hfields

theorem answers_decoded (hcodec : ctx.codec = some Codec.raw) {target : DecodeTarget}
    {inner : Template} {t : TypeId} (htarget : s.lookup target.name = some t)
    (hkind : target.kind = (s.resolvedKind t).1) (hinner : s.Describes t inner.selector)
    (h : s.Answers ctx t inner.selector) : s.Answers ctx type (.decoded target inner) := by
  intro last isOptional n depth v hlast hcheck hroom hdepth hv hfields
  obtain ⟨hstring, hchecked⟩ := checkSelector_decoded_eq_nil hcheck
  obtain ⟨octets, hoctets⟩ := hv.exists_octets hlast hstring
  rw [Template.selectorMatch]
  simp only [hcodec, hoctets]
  split
  · rename_i content hcontent
    obtain ⟨_, _, hscalar, -⟩ := Codec.raw_eq_ok hcontent
    rw [Template.selectorHeight] at hroom hdepth
    refine h.matchAt hinner.isInitialized hclean (hchecked t htarget) hroom (by omega)
      (Codec.raw_shaped hkind hcontent) ?_
    rw [hscalar]
    exact .scalar
  · exact ⟨false, rfl⟩

/-- **Selectors answer.**  A selector that is formed as a type calls for answers for it. -/
theorem Describes.answers (hcodec : ctx.codec = some Codec.raw) {selector : Selector}
    (h : s.Describes type selector) : s.Answers ctx type selector := by
  induction h with
  | omitted => exact fun _ _ _ _ _ _ _ _ _ _ _ => ⟨false, rfl⟩
  | any => exact fun _ _ _ _ _ _ _ _ _ _ _ => ⟨true, rfl⟩
  | anyOrOmit => exact fun _ _ _ _ _ _ _ _ _ _ _ => ⟨true, rfl⟩
  | specific hvalue =>
    intro last isOptional n depth v _ _ _ _ hv _
    exact v.equals_ok _ hv.isFullyBound hvalue.isFullyBound
  | record hnames hparts ih => exact answers_record hclean hnames hparts ih
  | union hfield hpart ih => exact answers_union hclean hfield hpart ih
  | elements helement hitems ih => exact answers_elements hclean helement hitems ih
  | valueList hitems ih =>
    intro last isOptional n depth v _ hcheck hroom hdepth hv hfields
    exact matchesAny_ok_of_answers hclean hitems ih hcheck hroom hdepth hv hfields
  | complement hitems ih =>
    intro last isOptional n depth v _ hcheck hroom hdepth hv hfields
    obtain ⟨answer, hanswer⟩ :=
      matchesAny_ok_of_answers hclean hitems ih hcheck hroom hdepth hv hfields
    exact ⟨!answer, by rw [Template.selectorMatch, hanswer]; rfl⟩
  | range hbounds =>
    intro last isOptional n depth v hlast hcheck _ _ hv _
    refine ValueRange.isMatch_ok hv hlast (checkSelector_range_eq_nil hcheck) fun b hb => ?_
    exact ⟨(hbounds b hb).1.mono fun _ _ heq => by rw [heq]; rfl, (hbounds b hb).2⟩
  | decoded htarget hkind hinner ih =>
    exact answers_decoded hclean hcodec htarget hkind hinner ih
  | pattern =>
    intro last isOptional n depth v hlast hcheck _ _ hv _
    obtain ⟨text, htext⟩ := hv.exists_string hlast (checkSelector_pattern_eq_nil hcheck)
    exact ⟨_, by rw [Template.selectorMatch, htext]; rfl⟩

end

end Store

/-- Where no declaration of a store is erroneous, nothing that is found in it is. -/
theorem Store.get_isErroneous {s : Store} (h : ∀ d ∈ s.declarations, d.isErroneous = false)
    (u : TypeId) : (s.get u).isErroneous = false := by
  rw [get, Array.getD_eq_getD_getElem?]
  cases hu : s.declarations[u]? with
  | none => rfl
  | some d => exact h d (Array.mem_of_getElem? hu)

/-- **Checked templates are safe.**  In the session of a document whose declarations are all in
order, a template that is read for a type, is nested no deeper than checks walk, and is checked
without a diagnostic can be matched, by the older rules and by the newer ones, with every value
that is read for the type and lists all fields of its records: the match gives true or false, and
never fails.  The JSON read from a text has numbers alone (`Json.isNumeric_of_ofText?`). -/
theorem Check.isMatch_ok_of_template {store : Store} {options : Options} {s : Session}
    (hs : (Check.allDeclarations.run (Document.openingSession store options)).2 = s)
    (hclean : ∀ d ∈ s.store.declarations, d.isErroneous = false) {type : TypeId} {jt jv : Json}
    (hjt : jt.isNumeric = true) (hjv : jv.isNumeric = true) {t : Template} {v : Value}
    (ht : Document.readTemplate store type jt = .ok t)
    (hv : Document.readValue store type jv = .ok v) (hheight : t.height ≤ maxCheckDepth)
    {location : Location} {isOptional : Bool}
    (hcheck : ((Check.template location type t isOptional).run s).2.collector = s.collector)
    (hfields : store.ListsFields type v) (isLegacy : Bool) :
    ∃ answer, t.isMatch { isLegacy, codec := some Codec.raw } v = .ok answer := by
  obtain ⟨store', collector, errorCount, hsame, hsession⟩ :=
    (Document.openingSession store options).allDeclarations_eq
  rw [hs] at hsession
  subst hsession
  have hdescribes := (Document.readTemplate_describes jt hjt ht).congr hsame.symm
  have hshaped : store'.Shaped Eq true type v :=
    (Document.readValue_shaped jv (fun _ => hjv) hv).congr hsame.symm
  refine (hdescribes.answers (Store.get_isErroneous hclean) rfl).matchAt
    hdescribes.isInitialized (Store.get_isErroneous hclean)
    (Check.complaints_eq_nil_of_template hcheck) ?_ ?_
    (hshaped.mono fun _ _ heq => by rw [heq]; rfl) (hfields.congr hsame.symm)
  · simpa [Document.openingSession] using hheight
  · exact Nat.le_trans (by simpa using hheight) (by decide : maxCheckDepth ≤ maxMatchDepth)

/-- Records of a label, of values that may be left out, and of octets as they were received. -/
def Store.readings : Store where
  declarations := #[
    { name := "Reading", kind := .record,
      fields := [⟨"label", .name "charstring", false⟩, ⟨"values", .name "Values", true⟩,
        ⟨"raw", .name "octetstring", false⟩] },
    { name := "Values", kind := .recordOf, element := some (.name "integer") },
    { name := "charstring", kind := .charstring },
    { name := "integer", kind := .integer },
    { name := "octetstring", kind := .octetstring }]

/-- A template with alternatives, a range, a run of elements and a decoded content in it. -/
def Json.readingTemplate : Json := .object [
  ("label", .object [("list", .array [.string "a", .string "b"])]),
  ("values", .object [
    ("elements", .array [
      .object [("range", .object [("min", .integer 1), ("max", .integer 5)])], .string "*"]),
    ("ifpresent", .boolean true)]),
  ("raw", .object [
    ("decmatch", .object [("type", .string "charstring"), ("template", .string "?")])])]

/-- A record with all its fields, as it is written. -/
def Json.readingValue : Json := .object [
  ("label", .string "b"), ("values", .array [.integer 3, .integer 4]), ("raw", .string "61")]

/-- The record that it is read as. -/
def Value.reading : Value := .record .record [
  .present "label" (.text .charstring "b"),
  .present "values" (.list .recordOf [.integer 3, .integer 4]),
  .present "raw" (.octetstring [0x61])]

theorem Store.readings_listsFields : Store.readings.ListsFields 0 .reading := by
  refine .record rfl (by decide) fun name value t hmem ht => ?_
  simp only [List.mem_cons, List.not_mem_nil, or_false] at hmem
  rcases hmem with h | h | h
  · cases h
    exact .scalar
  · cases h
    cases ht
    refine .list rfl fun value hvalue => ?_
    simp only [List.mem_cons, List.not_mem_nil, or_false] at hvalue
    rcases hvalue with rfl | rfl <;> exact .scalar
  · cases h
    exact .scalar

/-- The template is in order for the records, and the match with the record has an answer. -/
theorem Check.isMatch_ok_of_template_readings :
    ∃ t, Document.readTemplate .readings 0 .readingTemplate = .ok t ∧
      Document.readValue .readings 0 .readingValue = .ok .reading ∧
      ∃ answer, t.isMatch { codec := some Codec.raw } .reading = .ok answer := by
  have hclean : ∀ d ∈ (Check.allDeclarations.run
      (Document.openingSession .readings {})).2.store.declarations, d.isErroneous = false := by
    decide
  have hnumeric : Json.readingTemplate.isNumeric = true ∧ Json.readingValue.isNumeric = true :=
    ⟨rfl, rfl⟩
  have hvalue : Document.readValue .readings 0 .readingValue = .ok .reading := rfl
  refine ⟨_, rfl, hvalue, ?_⟩
  exact Check.isMatch_ok_of_template rfl hclean hnumeric.1 hnumeric.2 rfl hvalue (by decide)
    (show ((Check.template {} 0 _ false).run _).2.collector = _ from rfl)
    Store.readings_listsFields false

end TestSpec
