import TestSpec.Proofs.Document.Order
import TestSpec.Proofs.Document.Template

/-!
# The order of members and templates in documents

Within the JSON of a template, the objects that denote values are those inside the
`value` forms.  `TemplateReorders` says of the JSON of two templates that they are the
same but for the order of members there: it follows the reader from form to form, and
compares the bodies of `value` forms by `Json.Reorders`.  A template that is written in a
text is a reordering of itself (`templateReorders_self_of_ofText?`), since no object of a
text has two members of one name.

Main statement: `isMatch_of_reorders`.  Reordering the JSON of a value, and the `value`
forms of the JSON of a template, leaves the answer of matching as it is, an error
included, provided that each comparison with a specific value is in step before and
after or neither.
-/

namespace TestSpec.Document

/-! ### Reordered templates -/

/-- The names of the mechanisms whose bodies list templates. -/
def listMechanisms : List String := ["list", "complement", "elements"]

/-- The names of the mechanisms whose bodies are objects with templates. -/
def objectMechanisms : List String := ["fields", "decmatch"]

mutual

/-- The JSON of a template that is the same but for the order of members in `value` forms. -/
inductive TemplateReorders : Json → Json → Prop
  | null : TemplateReorders .null .null
  | boolean {b : Bool} : TemplateReorders (.boolean b) (.boolean b)
  | integer {i : Int} : TemplateReorders (.integer i) (.integer i)
  | real {x : Binary64} : TemplateReorders (.real x) (.real x)
  | string {s : String} : TemplateReorders (.string s) (.string s)
  | array {items items' : List Json} (h : TemplatesReorder items items') :
      TemplateReorders (.array items) (.array items')
  | form {members members' : List (String × Json)}
      (hform : (members.any fun m => isFormName m.1) = true) (h : FormReorders members members') :
      TemplateReorders (.object members) (.object members')
  | parts {members members' : List (String × Json)}
      (hparts : (members.any fun m => isFormName m.1) = false) (h : PartsReorder members members') :
      TemplateReorders (.object members) (.object members')

/-- Lists of templates, one by one the same but for that order. -/
inductive TemplatesReorder : List Json → List Json → Prop
  | nil : TemplatesReorder [] []
  | cons {j j' : Json} {rest rest' : List Json} (h : TemplateReorders j j')
      (hrest : TemplatesReorder rest rest') : TemplatesReorder (j :: rest) (j' :: rest')

/-- Templates for parts of the same names, one by one the same but for that order. -/
inductive PartsReorder : List (String × Json) → List (String × Json) → Prop
  | nil : PartsReorder [] []
  | cons {name : String} {j j' : Json} {rest rest' : List (String × Json)}
      (h : TemplateReorders j j') (hrest : PartsReorder rest rest') :
      PartsReorder ((name, j) :: rest) ((name, j') :: rest')

/-- Members of forms, one by one the same but for that order. -/
inductive FormReorders : List (String × Json) → List (String × Json) → Prop
  | nil : FormReorders [] []
  | cons {name : String} {j j' : Json} {rest rest' : List (String × Json)}
      (h : BodyReorders name j j') (hrest : FormReorders rest rest') :
      FormReorders ((name, j) :: rest) ((name, j') :: rest')

/-- The body of a member of a form, by the name of the member. -/
inductive BodyReorders : String → Json → Json → Prop
  | value {j j' : Json} (h : j.Reorders j') : BodyReorders "value" j j'
  | items {name : String} {items items' : List Json} (hname : name ∈ listMechanisms)
      (h : TemplatesReorder items items') : BodyReorders name (.array items) (.array items')
  | fields {members members' : List (String × Json)} (h : PartsReorder members members') :
      BodyReorders "fields" (.object members) (.object members')
  | decmatch {members members' : List (String × Json)} (h : ContentReorders members members') :
      BodyReorders "decmatch" (.object members) (.object members')
  /-- A body without templates stays as it is. -/
  | same {name : String} {j : Json} (hvalue : name ≠ "value")
      (hitems : name ∈ listMechanisms → j.array? = none)
      (hmembers : name ∈ objectMechanisms → j.object? = none) : BodyReorders name j j

/-- Members that describe a decoded content, among them the template for it. -/
inductive ContentReorders : List (String × Json) → List (String × Json) → Prop
  | nil : ContentReorders [] []
  | template {j j' : Json} {rest rest' : List (String × Json)} (h : TemplateReorders j j')
      (hrest : ContentReorders rest rest') :
      ContentReorders (("template", j) :: rest) (("template", j') :: rest')
  | other {name : String} {j : Json} {rest rest' : List (String × Json)} (hname : name ≠ "template")
      (hrest : ContentReorders rest rest') :
      ContentReorders ((name, j) :: rest) ((name, j) :: rest')

end

mutual

/-- The JSON of a template whose objects have distinct names is a reordering of itself. -/
theorem TemplateReorders.refl : (j : Json) → j.Reorders j → TemplateReorders j j
  | .null, _ => .null
  | .boolean _, _ => .boolean
  | .integer _, _ => .integer
  | .real _, _ => .real
  | .string _, _ => .string
  | .array items, h => .array (TemplatesReorder.refl items h.self_of_mem_items)
  | .object members, h => by
    cases hform : members.any fun m => isFormName m.1 with
    | true => exact .form hform (FormReorders.refl members h.self_of_mem)
    | false => exact .parts hform (PartsReorder.refl members h.self_of_mem)

theorem TemplatesReorder.refl : (items : List Json) → (∀ j ∈ items, j.Reorders j) →
    TemplatesReorder items items
  | [], _ => .nil
  | j :: rest, h => by
    rw [List.forall_mem_cons] at h
    exact .cons (TemplateReorders.refl j h.1) (TemplatesReorder.refl rest h.2)

theorem PartsReorder.refl : (members : List (String × Json)) →
    (∀ m ∈ members, m.2.Reorders m.2) → PartsReorder members members
  | [], _ => .nil
  | (_, j) :: rest, h => by
    rw [List.forall_mem_cons] at h
    exact .cons (TemplateReorders.refl j h.1) (PartsReorder.refl rest h.2)

theorem FormReorders.refl : (members : List (String × Json)) →
    (∀ m ∈ members, m.2.Reorders m.2) → FormReorders members members
  | [], _ => .nil
  | (name, j) :: rest, h => by
    rw [List.forall_mem_cons] at h
    exact .cons (BodyReorders.refl name j h.1) (FormReorders.refl rest h.2)

theorem BodyReorders.refl (name : String) : (j : Json) → j.Reorders j → BodyReorders name j j
  | .array items, h => by
    by_cases hvalue : name = "value"
    · exact hvalue ▸ .value h
    by_cases hname : name ∈ listMechanisms
    · exact .items hname (TemplatesReorder.refl items h.self_of_mem_items)
    · exact .same hvalue (fun h => absurd h hname) fun _ => rfl
  | .object members, h => by
    by_cases hvalue : name = "value"
    · exact hvalue ▸ .value h
    by_cases hname : name ∈ objectMechanisms
    · simp only [objectMechanisms, List.mem_cons, List.not_mem_nil, or_false] at hname
      rcases hname with rfl | rfl
      · exact .fields (PartsReorder.refl members h.self_of_mem)
      · exact .decmatch (ContentReorders.refl members h.self_of_mem)
    · exact .same hvalue (fun _ => rfl) fun h => absurd h hname
  | .null, h | .boolean _, h | .integer _, h | .real _, h | .string _, h => by
    by_cases hvalue : name = "value"
    · exact hvalue ▸ .value h
    · exact .same hvalue (fun _ => rfl) fun _ => rfl

theorem ContentReorders.refl : (members : List (String × Json)) →
    (∀ m ∈ members, m.2.Reorders m.2) → ContentReorders members members
  | [], _ => .nil
  | (name, j) :: rest, h => by
    rw [List.forall_mem_cons] at h
    by_cases hname : name = "template"
    · subst hname
      exact .template (TemplateReorders.refl j h.1) (ContentReorders.refl rest h.2)
    · exact .other hname (ContentReorders.refl rest h.2)

end

/-- The JSON of a text may be left as it is, whatever template it is read as. -/
theorem templateReorders_self_of_ofText? {text : String} {j : Json} (h : Json.ofText? text = some j) :
    TemplateReorders j j :=
  TemplateReorders.refl j (Json.reorders_self_of_ofText? h)

/-! ### What the order leaves as it is -/

theorem PartsReorder.length_eq : {members members' : List (String × Json)} →
    PartsReorder members members' → members.length = members'.length
  | _, _, .nil => rfl
  | _, _, .cons _ hrest => by rw [List.length_cons, List.length_cons, hrest.length_eq]

theorem PartsReorder.any_eq (p : String → Bool) : {members members' : List (String × Json)} →
    PartsReorder members members' → (members.any fun m => p m.1) = members'.any fun m => p m.1
  | _, _, .nil => rfl
  | _, _, .cons _ hrest => by rw [List.any_cons, List.any_cons, hrest.any_eq p]

theorem FormReorders.any_eq (p : String → Bool) : {members members' : List (String × Json)} →
    FormReorders members members' → (members.any fun m => p m.1) = members'.any fun m => p m.1
  | _, _, .nil => rfl
  | _, _, .cons _ hrest => by rw [List.any_cons, List.any_cons, hrest.any_eq p]

/-- Modifiers hold no templates. -/
theorem BodyReorders.eq_of_isModifier {name : String} {j j' : Json} (h : BodyReorders name j j')
    (hname : isModifier name = true) : j = j' := by
  cases h with
  | same => rfl
  | value | fields | decmatch => exact absurd hname (by decide)
  | items hlist =>
    simp only [listMechanisms, List.mem_cons, List.not_mem_nil, or_false] at hlist
    rcases hlist with rfl | rfl | rfl <;> exact absurd hname (by decide)

theorem FormReorders.member?_eq {name : String} (hname : isModifier name = true) :
    {members members' : List (String × Json)} → FormReorders members members' →
    Json.member? name members = Json.member? name members'
  | _, _, .nil => rfl
  | _, _, .cons h hrest => by
    have ih := hrest.member?_eq hname
    simp only [Json.member?, List.find?_cons] at ih ⊢
    split
    · rename_i hfound
      rw [h.eq_of_isModifier (eq_of_beq hfound ▸ hname)]
    · exact ih

theorem ContentReorders.member?_eq {name : String} (hname : name ≠ "template") :
    {members members' : List (String × Json)} → ContentReorders members members' →
    Json.member? name members = Json.member? name members'
  | _, _, .nil => rfl
  | _, _, .template _ hrest => by
    have ih := hrest.member?_eq hname
    simpa only [Json.member?, List.find?_cons, beq_false_of_ne (Ne.symm hname)] using ih
  | _, _, .other _ hrest => by
    have ih := hrest.member?_eq hname
    simp only [Json.member?, List.find?_cons] at ih ⊢
    split
    · rfl
    · exact ih

/-- Modifiers make reordered templates of reordered templates. -/
theorem withModifiers_reorders {members members' : List (String × Json)}
    (h : FormReorders members members') {t t' u : Template} (ht : t.Reorders t')
    (hu : withModifiers members t = .ok u) :
    ∃ u', withModifiers members' t' = .ok u' ∧ u.Reorders u' := by
  unfold withModifiers at hu ⊢
  rw [← h.member?_eq (by decide : isModifier "ifpresent" = true),
    ← h.member?_eq (by decide : isModifier "length" = true)]
  have hpresent (found : Option Json) :
      (found.elim t fun j => t.withIfPresent (isSwitchedOn j)).Reorders
        (found.elim t' fun j => t'.withIfPresent (isSwitchedOn j)) := by
    cases found with
    | none => exact ht
    | some j => exact ht.withIfPresent _
  cases hlength : Json.member? "length" members with
  | none =>
    rw [hlength] at hu
    obtain rfl := pure_eq_ok.mp hu
    exact ⟨_, rfl, hpresent _⟩
  | some j =>
    rw [hlength] at hu
    obtain ⟨r, hr, hu⟩ := bind_eq_ok.mp hu
    obtain rfl := pure_eq_ok.mp hu
    simp only [hr]
    exact ⟨_, rfl, (hpresent _).withLength _⟩

theorem ofParts_reorders {parts parts' : List FieldTemplate} (kind : Kind)
    (h : Template.PartsReorder parts parts') :
    (ofParts kind parts).Reorders (ofParts kind parts') := by
  unfold ofParts
  cases kind.isUnionLike with
  | false => exact .mk (.record h)
  | true =>
    cases h with
    | nil => exact .mk (.record .nil)
    | cons ht hrest =>
      cases hrest with
      | nil => exact .mk (.union ht)
      | cons hu hrest => exact .mk (.record (.cons ht (.cons hu hrest)))

variable {s : Store} {type last : TypeId} {kind : Kind} {ignoresCase : Bool} {t : Template}

/-! ### Rules for templates -/

theorem readTemplate_array_eq_ok {items : List Json} :
    readTemplate s type (.array items) = .ok t ↔ ∃ last u templates,
      s.resolveAlias? type = some last ∧ s.elementType last = some u ∧
        readTemplates s u items = .ok templates ∧
        t = .ofSelector (.elements (s.get last).kind templates) := by
  rw [readTemplate.eq_1]
  constructor
  · intro h
    obtain ⟨last, hlast, h⟩ := bind_eq_ok.mp h
    dsimp only at h
    split at h
    · cases h
    · rename_i u hu
      obtain ⟨templates, htemplates, h⟩ := bind_eq_ok.mp h
      exact ⟨last, u, templates, resolveAlias_eq_ok.mp hlast, hu, htemplates,
        (pure_eq_ok.mp h).symm⟩
  · rintro ⟨last, u, templates, hlast, hu, htemplates, rfl⟩
    refine bind_eq_ok.mpr ⟨last, resolveAlias_eq_ok.mpr hlast, ?_⟩
    dsimp only
    rw [hu]
    exact bind_eq_ok.mpr ⟨templates, htemplates, rfl⟩

/-- A form is read as its mechanism with its modifiers. -/
theorem readTemplate_form_eq_ok {members : List (String × Json)}
    (hform : (members.any fun m => isFormName m.1) = true) :
    readTemplate s type (.object members) = .ok t ↔ ∃ last u, s.resolveAlias? type = some last ∧
      readMechanism s type last (s.get last).kind
        ((Json.member? "nocase" members).any isSwitchedOn) members = .ok u ∧
      withModifiers members u = .ok t := by
  rw [readTemplate.eq_1]
  simp only [bind_eq_ok, resolveAlias_eq_ok, hform, Bool.or_true, if_true, exists_and_left]

/-- Members none of which has the name of a mechanism are no form. -/
theorem readMechanism_ne_ok {members : List (String × Json)}
    (h : (members.any fun m => isFormName m.1) = false) :
    readMechanism s type last kind ignoresCase members ≠ .ok t := by
  intro ht
  match members, h, ht with
  | [], _, ht => cases ht
  | (mechanism, body) :: rest, h, ht =>
    rw [List.any_cons, Bool.or_eq_false_iff, isFormName, Bool.or_eq_false_iff] at h
    obtain ⟨⟨hname, hmodifier⟩, -⟩ := h
    rw [readMechanism.eq_def] at ht
    dsimp only at hname hmodifier ht
    rw [hmodifier, if_neg Bool.false_ne_true] at ht
    split at ht
    · cases ht
    split at ht
    all_goals first
      | exact absurd hname (by decide)
      | cases ht

/-- An object that is no form is read part by part. -/
theorem readTemplate_parts_eq_ok {members : List (String × Json)}
    (hparts : (members.any fun m => isFormName m.1) = false) :
    readTemplate s type (.object members) = .ok t ↔ ∃ last parts,
      s.resolveAlias? type = some last ∧ hasNamedParts (s.get last).kind = true ∧
        checkAlternatives (s.get last).kind (s.name type) members = .ok () ∧
        readParts s last (s.get last).kind (s.name type) members = .ok parts ∧
        t = ofParts (s.get last).kind parts := by
  rw [readTemplate.eq_1]
  constructor
  · intro h
    obtain ⟨last, hlast, h⟩ := bind_eq_ok.mp h
    dsimp only at h
    rw [hparts, Bool.or_false] at h
    split at h
    · obtain ⟨u, hu, -⟩ := bind_eq_ok.mp h
      exact absurd hu (readMechanism_ne_ok hparts)
    · rename_i hnamed
      obtain ⟨⟨⟩, hcheck, h⟩ := bind_eq_ok.mp h
      obtain ⟨parts, hread, h⟩ := bind_eq_ok.mp h
      exact ⟨last, parts, resolveAlias_eq_ok.mp hlast, by simpa using hnamed, hcheck, hread,
        (pure_eq_ok.mp h).symm⟩
  · rintro ⟨last, parts, hlast, hnamed, hcheck, hread, rfl⟩
    refine bind_eq_ok.mpr ⟨last, resolveAlias_eq_ok.mpr hlast, ?_⟩
    dsimp only
    rw [hparts, Bool.or_false, hnamed, if_neg (by decide)]
    exact bind_eq_ok.mpr ⟨(), hcheck, bind_eq_ok.mpr ⟨parts, hread, rfl⟩⟩

/-- Members are read with modifiers passed over, and only one mechanism may be among them. -/
theorem readMechanism_cons {mechanism : String} {body : Json} {rest : List (String × Json)} :
    readMechanism s type last kind ignoresCase ((mechanism, body) :: rest) =
      if isModifier mechanism then readMechanism s type last kind ignoresCase rest
      else if rest.any fun m => !isModifier m.1 then .error (.manyMechanisms (s.name type))
      else readMechanism s type last kind ignoresCase [(mechanism, body)] := by
  rw [readMechanism.eq_def]
  dsimp only
  split
  · rfl
  rename_i hmodifier
  split
  · rfl
  · rw [readMechanism.eq_def s type last kind ignoresCase [(mechanism, body)]]
    dsimp only
    rw [if_neg hmodifier, List.any_nil, if_neg Bool.false_ne_true]

/-- A mechanism whose body lists templates makes one selector of the templates of one type. -/
theorem exists_listRule {name : String} (hname : name ∈ listMechanisms) {items : List Json}
    (h : readMechanism s type last kind ignoresCase [(name, .array items)] = .ok t) :
    ∃ u, ∃ selector : List Template → Selector,
      (∀ items t, readMechanism s type last kind ignoresCase [(name, .array items)] = .ok t ↔
        ∃ templates, readTemplates s u items = .ok templates ∧
          t = .ofSelector (selector templates)) ∧
      ∀ ts ts', Template.ItemsReorder ts ts' →
        Template.SelectorReorders (selector ts) (selector ts') := by
  have hrule {u : TypeId} {selector : List Template → Selector} (items : List Json)
      (t : Template) : (do
        let templates ← readTemplates s u items
        pure (Template.ofSelector (selector templates))) = .ok t ↔
      ∃ templates, readTemplates s u items = .ok templates ∧
        t = .ofSelector (selector templates) := by
    rw [bind_eq_ok]
    simp only [pure_eq_ok]
    exact exists_congr fun _ => and_congr_right fun _ => eq_comm
  simp only [listMechanisms, List.mem_cons, List.not_mem_nil, or_false] at hname
  rcases hname with rfl | rfl | rfl
  · exact ⟨type, .valueList, hrule, fun _ _ => .valueList⟩
  · exact ⟨type, .complement, hrule, fun _ _ => .complement⟩
  · have helements (items : List Json) :
        readMechanism s type last kind ignoresCase [("elements", .array items)] =
          (s.elementType last).elim (.error (.noList (s.name type))) fun u => (do
            let templates ← readTemplates s u items
            pure (.ofSelector (.elements kind templates))) := by
      rw [readMechanism.eq_def]
      dsimp only
      cases s.elementType last <;> rfl
    simp only [helements] at h ⊢
    cases hu : s.elementType last with
    | none =>
      rw [hu] at h
      cases h
    | some u => exact ⟨u, .elements kind, hrule, fun _ _ => .elements⟩

theorem readMechanism_value_eq_ok {j : Json} :
    readMechanism s type last kind ignoresCase [("value", j)] = .ok t ↔
      ∃ v, readValue s type j = .ok v ∧ t = .specific v := by
  have hvalue : readMechanism s type last kind ignoresCase [("value", j)] =
      Template.specific <$> readValue s type j := rfl
  rw [hvalue, map_eq_ok]
  exact exists_congr fun _ => and_congr_right fun _ => eq_comm

theorem readMechanism_fields_eq_ok {members : List (String × Json)} :
    readMechanism s type last kind ignoresCase [("fields", .object members)] = .ok t ↔
      ∃ parts, checkAlternatives kind (s.name type) members = .ok () ∧
        readParts s last kind (s.name type) members = .ok parts ∧ t = ofParts kind parts := by
  have hfields : readMechanism s type last kind ignoresCase [("fields", .object members)] = (do
      checkAlternatives kind (s.name type) members
      let parts ← readParts s last kind (s.name type) members
      pure (ofParts kind parts)) := rfl
  rw [hfields, bind_eq_ok]
  simp only [bind_eq_ok, pure_eq_ok, eq_comm (a := t)]
  constructor
  · rintro ⟨⟨⟩, hcheck, parts, hparts, h⟩
    exact ⟨parts, hcheck, hparts, h⟩
  · rintro ⟨parts, hcheck, hparts, h⟩
    exact ⟨(), hcheck, parts, hparts, h⟩

theorem readMechanism_decmatch_eq_ok {members : List (String × Json)} :
    readMechanism s type last kind ignoresCase [("decmatch", .object members)] = .ok t ↔
      ∃ target content u, readTarget s members = .ok (target, content) ∧
        readInner s content members = .ok (some u) ∧ t = .ofSelector (.decoded target u) := by
  constructor
  · intro h
    obtain ⟨⟨target, content⟩, htarget, h⟩ := bind_eq_ok.mp h
    obtain ⟨inner, hinner, h⟩ := bind_eq_ok.mp h
    cases inner with
    | none => cases h
    | some u => exact ⟨target, content, u, htarget, hinner, (pure_eq_ok.mp h).symm⟩
  · rintro ⟨target, content, u, htarget, hinner, rfl⟩
    exact bind_eq_ok.mpr ⟨(target, content), htarget, bind_eq_ok.mpr ⟨some u, hinner, rfl⟩⟩

/-! ### Templates without values in them -/

/-- A value that is read has fields with distinct names if the JSON has. -/
theorem readValue_reorders_self {j : Json} {v : Value}
    (hj : j.Reorders j) (h : readValue s type j = .ok v) : v.Reorders v := by
  obtain ⟨v', hv', hreorders⟩ := readValue_reorders hj h
  obtain rfl := Except.ok.inj (h.symm.trans hv')
  exact hreorders

theorem readRange_reorders_self {j : Json} (h : readRange s type j = .ok t) : t.Reorders t := by
  obtain ⟨r, -, h⟩ := bind_eq_ok.mp h
  obtain ⟨lower, -, h⟩ := bind_eq_ok.mp h
  obtain ⟨upper, -, h⟩ := bind_eq_ok.mp h
  rw [mapError_eq_ok] at h
  obtain ⟨rfl, -⟩ := Template.range_eq_ok h
  exact .mk .range

theorem readPattern_reorders_self {j : Json} (h : readPattern ignoresCase j = .ok t) :
    t.Reorders t := by
  unfold readPattern at h
  split at h
  · cases h
  split at h
  · cases h
    exact .mk .pattern
  · cases h

/-- A body that stays as it is holds no templates, so nothing is reordered. -/
theorem readMechanism_reorders_self {name : String} {j : Json}
    (hmodifier : isModifier name = false) (hvalue : name ≠ "value")
    (hitems : name ∈ listMechanisms → j.array? = none)
    (hmembers : name ∈ objectMechanisms → j.object? = none)
    (h : readMechanism s type last kind ignoresCase [(name, j)] = .ok t) : t.Reorders t := by
  rw [readMechanism.eq_def] at h
  dsimp only at h
  rw [hmodifier, List.any_nil, if_neg Bool.false_ne_true, if_neg Bool.false_ne_true] at h
  -- the mechanisms in the order in which the reader tells them apart
  split at h
  · exact absurd rfl hvalue
  · cases h
    exact .mk .any
  · cases h
    exact .mk .anyOrOmit
  · cases h
    exact .mk .omit
  · split at h
    · cases hitems (by decide)
    · cases h
  · split at h
    · cases hitems (by decide)
    · cases h
  · exact readRange_reorders_self h
  · exact readPattern_reorders_self h
  · split at h
    · cases hmembers (by decide)
    · cases h
  · split at h
    · cases hmembers (by decide)
    · cases h
  · split at h
    · cases hitems (by decide)
    · cases h
  · cases h

/-- A template that is read from JSON without parts has nothing to reorder. -/
theorem readTemplate_reorders_self {j : Json} (hitems : j.array? = none)
    (hmembers : j.object? = none) (h : readTemplate s type j = .ok t) : t.Reorders t := by
  rw [readTemplate.eq_1] at h
  obtain ⟨last, -, h⟩ := bind_eq_ok.mp h
  dsimp only at h
  split at h
  · cases h
    exact .mk .any
  · cases h
    exact .mk .anyOrOmit
  · cases h
    exact .mk .omit
  · cases hitems
  · cases hmembers
  · obtain ⟨v, hv, rfl⟩ := map_eq_ok.mp h
    have hself : j.Reorders j := by
      cases j with
      | array => cases hitems
      | object => cases hmembers
      | _ => constructor
    exact .mk (.specific (readValue_reorders_self hself hv))

/-! ### Templates are read -/

mutual

/-- **Reordered templates are read.**  The JSON of a template that is reordered is read for the
same types, as a template that is reordered. -/
theorem readTemplate_reorders {s : Store} : {j j' : Json} → TemplateReorders j j' →
    ∀ {type : TypeId} {t : Template}, readTemplate s type j = .ok t →
    ∃ t', readTemplate s type j' = .ok t' ∧ t.Reorders t'
  | _, _, .null, _, _, h | _, _, .boolean, _, _, h | _, _, .integer, _, _, h | _, _, .real, _, _, h
  | _, _, .string, _, _, h => ⟨_, h, readTemplate_reorders_self rfl rfl h⟩
  | _, _, .array hitems, _, _, h => by
    obtain ⟨last, u, templates, hlast, hu, htemplates, rfl⟩ := readTemplate_array_eq_ok.mp h
    obtain ⟨templates', htemplates', hreorders⟩ := readTemplates_reorders hitems htemplates
    exact ⟨_, readTemplate_array_eq_ok.mpr ⟨last, u, templates', hlast, hu, htemplates', rfl⟩,
      .mk (.elements hreorders)⟩
  | _, _, .form hform hmembers, _, _, h => by
    obtain ⟨last, u, hlast, hu, h⟩ := (readTemplate_form_eq_ok hform).mp h
    obtain ⟨u', hu', hreorders⟩ := readMechanism_reorders hmembers hu
    obtain ⟨t', ht', hreorders⟩ := withModifiers_reorders hmembers hreorders h
    rw [hmembers.member?_eq (by decide : isModifier "nocase" = true)] at hu'
    rw [hmembers.any_eq isFormName] at hform
    exact ⟨t', (readTemplate_form_eq_ok hform).mpr ⟨last, u', hlast, hu', ht'⟩, hreorders⟩
  | _, _, .parts hparts hmembers, _, _, h => by
    obtain ⟨last, parts, hlast, hnamed, hcheck, hread, rfl⟩ :=
      (readTemplate_parts_eq_ok hparts).mp h
    obtain ⟨parts', hread', hreorders⟩ := readParts_reorders hmembers hread
    rw [checkAlternatives, hmembers.length_eq, ← checkAlternatives] at hcheck
    rw [hmembers.any_eq isFormName] at hparts
    exact ⟨_, (readTemplate_parts_eq_ok hparts).mpr
      ⟨last, parts', hlast, hnamed, hcheck, hread', rfl⟩, ofParts_reorders _ hreorders⟩

theorem readTemplates_reorders {s : Store} : {items items' : List Json} →
    TemplatesReorder items items' → ∀ {type : TypeId} {templates : List Template},
    readTemplates s type items = .ok templates →
    ∃ templates', readTemplates s type items' = .ok templates' ∧
      Template.ItemsReorder templates templates'
  | _, _, .nil, _, _, h => by
    cases h
    exact ⟨[], rfl, .nil⟩
  | _, _, .cons hj hrest, _, _, h => by
    rw [readTemplates.eq_2] at h ⊢
    obtain ⟨first, hfirst, h⟩ := bind_eq_ok.mp h
    obtain ⟨others, hothers, h⟩ := bind_eq_ok.mp h
    obtain rfl := pure_eq_ok.mp h
    obtain ⟨first', hfirst', ht⟩ := readTemplate_reorders hj hfirst
    obtain ⟨others', hothers', hts⟩ := readTemplates_reorders hrest hothers
    exact ⟨_, bind_eq_ok.mpr ⟨first', hfirst', bind_eq_ok.mpr ⟨others', hothers', rfl⟩⟩,
      .cons ht hts⟩

theorem readParts_reorders {s : Store} : {members members' : List (String × Json)} →
    PartsReorder members members' → ∀ {last : TypeId} {kind : Kind} {typeName : String}
    {parts : List FieldTemplate}, readParts s last kind typeName members = .ok parts →
    ∃ parts', readParts s last kind typeName members' = .ok parts' ∧
      Template.PartsReorder parts parts'
  | _, _, .nil, _, _, _, _, h => by
    cases h
    exact ⟨[], rfl, .nil⟩
  | _, _, .cons hj hrest, _, _, _, _, h => by
    rw [readParts.eq_2] at h ⊢
    split at h
    · cases h
    · obtain ⟨part, hpart, h⟩ := bind_eq_ok.mp h
      obtain ⟨others, hothers, h⟩ := bind_eq_ok.mp h
      obtain rfl := pure_eq_ok.mp h
      obtain ⟨part', hpart', ht⟩ := readTemplate_reorders hj hpart
      obtain ⟨others', hothers', hts⟩ := readParts_reorders hrest hothers
      exact ⟨_, bind_eq_ok.mpr ⟨part', hpart', bind_eq_ok.mpr ⟨others', hothers', rfl⟩⟩,
        .cons ht hts⟩

theorem readMechanism_reorders {s : Store} : {members members' : List (String × Json)} →
    FormReorders members members' → ∀ {type last : TypeId} {kind : Kind} {ignoresCase : Bool}
    {t : Template}, readMechanism s type last kind ignoresCase members = .ok t →
    ∃ t', readMechanism s type last kind ignoresCase members' = .ok t' ∧ t.Reorders t'
  | _, _, .nil, _, _, _, _, _, h => by cases h
  | _, _, .cons hbody hrest, _, _, _, _, _, h => by
    rw [readMechanism_cons] at h ⊢
    rw [← hrest.any_eq fun name => !isModifier name]
    split at h
    · rename_i hmodifier
      rw [if_pos hmodifier]
      exact readMechanism_reorders hrest h
    rename_i hmodifier
    rw [if_neg hmodifier]
    split at h
    · cases h
    rename_i hone
    rw [if_neg hone]
    exact readBody_reorders hbody (Bool.eq_false_iff.mpr hmodifier) h

/-- One mechanism is read by its name. -/
theorem readBody_reorders {s : Store} : {name : String} → {j j' : Json} → BodyReorders name j j' →
    isModifier name = false → ∀ {type last : TypeId} {kind : Kind} {ignoresCase : Bool}
    {t : Template}, readMechanism s type last kind ignoresCase [(name, j)] = .ok t →
    ∃ t', readMechanism s type last kind ignoresCase [(name, j')] = .ok t' ∧ t.Reorders t'
  | _, _, _, .value hj, _, _, _, _, _, _, h => by
    obtain ⟨v, hv, rfl⟩ := readMechanism_value_eq_ok.mp h
    obtain ⟨v', hv', hreorders⟩ := readValue_reorders hj hv
    exact ⟨_, readMechanism_value_eq_ok.mpr ⟨v', hv', rfl⟩, .mk (.specific hreorders)⟩
  | _, _, _, .items hname hitems, _, _, _, _, _, _, h => by
    obtain ⟨u, selector, hrule, hselector⟩ := exists_listRule hname h
    obtain ⟨templates, htemplates, rfl⟩ := (hrule _ _).mp h
    obtain ⟨templates', htemplates', hreorders⟩ := readTemplates_reorders hitems htemplates
    exact ⟨_, (hrule _ _).mpr ⟨templates', htemplates', rfl⟩, .mk (hselector _ _ hreorders)⟩
  | _, _, _, .fields hmembers, _, _, _, _, _, _, h => by
    obtain ⟨parts, hcheck, hread, rfl⟩ := readMechanism_fields_eq_ok.mp h
    obtain ⟨parts', hread', hreorders⟩ := readParts_reorders hmembers hread
    rw [checkAlternatives, hmembers.length_eq, ← checkAlternatives] at hcheck
    exact ⟨_, readMechanism_fields_eq_ok.mpr ⟨parts', hcheck, hread', rfl⟩,
      ofParts_reorders _ hreorders⟩
  | _, _, _, .decmatch hmembers, _, _, _, _, _, _, h => by
    obtain ⟨target, content, u, htarget, hinner, rfl⟩ := readMechanism_decmatch_eq_ok.mp h
    obtain ⟨u', hinner', hreorders⟩ := readInner_reorders hmembers hinner
    rw [readTarget, hmembers.member?_eq (by decide : "type" ≠ "template"), ← readTarget] at htarget
    exact ⟨_, readMechanism_decmatch_eq_ok.mpr ⟨target, content, u', htarget, hinner', rfl⟩,
      .mk (.decoded hreorders)⟩
  | _, _, _, .same hvalue hitems hmembers, hmodifier, _, _, _, _, _, h =>
    ⟨_, h, readMechanism_reorders_self hmodifier hvalue hitems hmembers h⟩

theorem readInner_reorders {s : Store} : {members members' : List (String × Json)} →
    ContentReorders members members' → ∀ {type : TypeId} {t : Template},
    readInner s type members = .ok (some t) →
    ∃ t', readInner s type members' = .ok (some t') ∧ t.Reorders t'
  | _, _, .nil, _, _, h => by cases h
  | _, _, .template hj _, _, _, h => by
    rw [readInner.eq_2, if_pos rfl] at h ⊢
    obtain ⟨u, hu, heq⟩ := map_eq_ok.mp h
    obtain rfl := Option.some.inj heq
    obtain ⟨u', hu', hreorders⟩ := readTemplate_reorders hj hu
    exact ⟨u', map_eq_ok.mpr ⟨u', hu', rfl⟩, hreorders⟩
  | _, _, .other hname hrest, _, _, h => by
    rw [readInner.eq_2, if_neg hname] at h ⊢
    exact readInner_reorders hrest h

end

/-- **The order of members.**  When JSON of a value and of a template has been read for a type, so
is the JSON with the members of its objects reordered, in the value and in the `value` forms of the
template.  Matching answers the same, or fails the same, under the older rules for omitted fields as
well as the newer ones, if each comparison with a specific value that the template can make is in
step before and after or neither. -/
theorem isMatch_of_reorders {s : Store} {type : TypeId} {template template' value value' : Json}
    {t : Template} {v : Value} (ht : readTemplate s type template = .ok t)
    (hv : readValue s type value = .ok v) (htemplate : TemplateReorders template template')
    (hvalue : value.Reorders value') :
    ∃ t' v', readTemplate s type template' = .ok t' ∧ readValue s type value' = .ok v' ∧
      (t.stepsAlike t' v v' = true → ∀ isLegacy,
        t.isMatch { isLegacy, codec := some Codec.raw } v =
          t'.isMatch { isLegacy, codec := some Codec.raw } v') := by
  obtain ⟨t', ht', htemplate⟩ := readTemplate_reorders htemplate ht
  obtain ⟨v', hv', hvalue⟩ := readValue_reorders hvalue hv
  exact ⟨t', v', ht', hv', fun hstep _ => htemplate.matchAt_eq rfl 0 hvalue hstep⟩

end TestSpec.Document

namespace TestSpec

/-- Records of two coordinates, and records of two of them. -/
def Store.segments : Store where
  declarations := #[
    { name := "Point", kind := .record,
      fields := [⟨"x", .name "integer", false⟩, ⟨"y", .name "integer", false⟩] },
    { name := "Segment", kind := .record,
      fields := [⟨"from", .name "Point", false⟩, ⟨"to", .name "Point", false⟩] },
    { name := "integer", kind := .integer }]

/-- A point as it is written, with either coordinate first. -/
def Json.point (isSwapped : Bool) (x y : Int) : Json :=
  if isSwapped then .object [("y", .integer y), ("x", .integer x)]
  else .object [("x", .integer x), ("y", .integer y)]

/-- A segment as it is written, with either end and either coordinate first. -/
def Json.segment (isSwapped : Bool) : Json :=
  if isSwapped then .object [("to", point true 3 4), ("from", point true 1 2)]
  else .object [("from", point false 1 2), ("to", point false 3 4)]

/-- A template for segments from a specific point. -/
def Json.segmentTemplate (isSwapped : Bool) : Json :=
  .object [("from", .object [("value", point isSwapped 1 2)]), ("to", .string "?")]

theorem Json.point_reorders (x y : Int) : (point false x y).Reorders (point true x y) :=
  .swap (by decide) .integer .integer

/-- Members of a segment and of a point in a template for it, all of them reordered. -/
theorem Document.isMatch_of_reorders_segment :
    TemplateReorders (.segmentTemplate false) (.segmentTemplate true) ∧
      (Json.segment false).Reorders (.segment true) ∧
      ∃ t v t' v', readTemplate .segments 1 (.segmentTemplate false) = .ok t ∧
        readValue .segments 1 (.segment false) = .ok v ∧
        readTemplate .segments 1 (.segmentTemplate true) = .ok t' ∧
        readValue .segments 1 (.segment true) = .ok v' ∧ t.stepsAlike t' v v' = true ∧
        ∀ isLegacy, t.isMatch { isLegacy, codec := some Codec.raw } v =
          t'.isMatch { isLegacy, codec := some Codec.raw } v' := by
  have htemplate : TemplateReorders (.segmentTemplate false) (.segmentTemplate true) :=
    .parts rfl (.cons (.form rfl (.cons (.value (Json.point_reorders 1 2)) .nil))
      (.cons .string .nil))
  have hvalue : (Json.segment false).Reorders (.segment true) :=
    .swap (by decide) (Json.point_reorders 1 2) (Json.point_reorders 3 4)
  refine ⟨htemplate, hvalue, _, _, _, _, rfl, rfl, rfl, rfl, rfl, ?_⟩
  obtain ⟨t', v', ht', hv', hmatch⟩ := Document.isMatch_of_reorders
    (show readTemplate .segments 1 (.segmentTemplate false) = .ok _ from rfl)
    (show readValue .segments 1 (.segment false) = .ok _ from rfl) htemplate hvalue
  obtain rfl := Except.ok.inj ht'
  obtain rfl := Except.ok.inj hv'
  exact hmatch rfl

/-- A point matches a specific point that is written alike, and no longer matches it when its
coordinates are written in the other order. -/
theorem Document.isMatch_ne_swappedPoint :
    (Json.point false 1 2).Reorders (.point true 1 2) ∧
      ∃ t v v', readTemplate .segments 0 (.object [("value", .point false 1 2)]) = .ok t ∧
        readValue .segments 0 (.point false 1 2) = .ok v ∧
        readValue .segments 0 (.point true 1 2) = .ok v' ∧
        ∀ isLegacy, t.isMatch { isLegacy, codec := some Codec.raw } v = .ok true ∧
          t.isMatch { isLegacy, codec := some Codec.raw } v' = .ok false :=
  ⟨Json.point_reorders 1 2, _, _, _, rfl, rfl, rfl, fun _ => ⟨rfl, rfl⟩⟩

end TestSpec
