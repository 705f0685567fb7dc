import TestSpec.Document.Template
import TestSpec.Proofs.Document.Shape
import TestSpec.Proofs.Template.Change

/-!
# The shape of a template that is read for a type

A template that is read from a document is formed as its type calls for, whether it can
match anything or not: values stand for the type, parts for members that the type has,
bounds that are strings are single characters, and the target of a decoded content is
the type of the inner template.  `Store.Describes` says this of a type and a selector;
modifiers may stand on any template.

Main statement: `Document.readTemplate_describes`.
-/

namespace TestSpec

/-- A bound that is a character string is a single character. -/
def Bound.IsLimit (b : Bound) : Prop := ∀ text, b.value.string = .ok text → text.length = 1

/-- The bounds of a range. -/
def ValueRange.bounds (r : ValueRange) : List Bound := r.lower.toList ++ r.upper.toList

/-- A selector is formed as a type calls for: its values have the form of the type, its parts
stand for members of the type, and so on inside its parts. -/
inductive Store.Describes (s : Store) : TypeId → Selector → Prop
  | omitted {type : TypeId} : Describes s type .omit
  | any {type : TypeId} : Describes s type .any
  | anyOrOmit {type : TypeId} : Describes s type .anyOrOmit
  | specific {type : TypeId} {value : Value} (hvalue : s.Shaped Eq true type value) :
      Describes s type (.specific value)
  | record {type : TypeId} {kind : Kind} {fields : List FieldTemplate}
      (hfields : ∀ f ∈ fields, (s.fieldType type f.name).isSome = true)
      (hparts : ∀ f ∈ fields, ∀ t, s.fieldType type f.name = some t →
        Describes s t f.template.selector) :
      Describes s type (.record kind fields)
  | union {type t : TypeId} {kind : Kind} {alternative : String} {template : Template}
      (hfield : s.fieldType type alternative = some t)
      (hpart : Describes s t template.selector) :
      Describes s type (.union kind alternative template)
  | elements {type t : TypeId} {kind : Kind} {items : List Template}
      (helement : s.elementType type = some t)
      (hitems : ∀ item ∈ items, Describes s t item.selector) :
      Describes s type (.elements kind items)
  | valueList {type : TypeId} {items : List Template}
      (hitems : ∀ item ∈ items, Describes s type item.selector) :
      Describes s type (.valueList items)
  | complement {type : TypeId} {items : List Template}
      (hitems : ∀ item ∈ items, Describes s type item.selector) :
      Describes s type (.complement items)
  | range {type : TypeId} {r : ValueRange}
      (hbounds : ∀ b ∈ r.bounds, s.Shaped Eq true type b.value ∧ b.IsLimit) :
      Describes s type (.range r)
  | decoded {type t : TypeId} {target : DecodeTarget} {inner : Template}
      (htarget : s.lookup target.name = some t) (hkind : target.kind = (s.resolvedKind t).1)
      (hinner : Describes s t inner.selector) :
      Describes s type (.decoded target inner)
  | pattern {type : TypeId} {p : Pattern} : Describes s type (.pattern p)

/-- Check stamps have no part in how a selector is formed. -/
theorem Store.Describes.congr {s s' : Store} (hsame : s.unstamped = s'.unstamped) {type : TypeId}
    {selector : Selector} (h : s.Describes type selector) : s'.Describes type selector := by
  induction h with
  | omitted => exact .omitted
  | any => exact .any
  | anyOrOmit => exact .anyOrOmit
  | specific hvalue => exact .specific (hvalue.congr hsame)
  | record hfields _ ih =>
    simp only [fieldType_congr hsame] at hfields ih
    exact .record hfields ih
  | union hfield _ ih =>
    rw [fieldType_congr hsame] at hfield
    exact .union hfield ih
  | elements helement _ ih =>
    rw [elementType_congr hsame] at helement
    exact .elements helement ih
  | valueList _ ih => exact .valueList ih
  | complement _ ih => exact .complement ih
  | range hbounds => exact .range fun b hb => ⟨(hbounds b hb).1.congr hsame, (hbounds b hb).2⟩
  | decoded htarget hkind _ ih =>
    rw [lookup_congr hsame] at htarget
    rw [resolvedKind_congr hsame] at hkind
    exact .decoded htarget hkind ih
  | pattern => exact .pattern

/-! ### Ranges -/

theorem Bound.isLimit_of_check {side : BoundSide} {b : Bound} (h : b.check side = .ok ()) :
    b.IsLimit := by
  intro text htext
  simp only [check, htext] at h
  split at h
  · assumption
  · cases h

/-- The bounds of a range that is built are limits. -/
theorem Template.isLimit_of_range {lower upper : Option Bound} {t : Template}
    (h : Template.range lower upper = .ok t) :
    ∀ b ∈ (ValueRange.mk lower upper).bounds, b.IsLimit := by
  obtain ⟨-, hlower, hupper⟩ := Template.range_eq_ok h
  intro b hb
  simp only [ValueRange.bounds, List.mem_append, Option.mem_toList] at hb
  rcases hb with hb | hb
  · exact Bound.isLimit_of_check (hlower b hb)
  · exact Bound.isLimit_of_check (hupper b hb)

namespace Document

theorem locate_eq_ok {α : Type} {site : Site} {x : Except Failure α} {a : α} :
    locate site x = .ok a ↔ x = .ok a := by
  simp [locate, mapError_eq_ok]

/-- Modifiers leave the selector as it is. -/
theorem withModifiers_selector {members : List (String × Json)} {t t' : Template}
    (h : withModifiers members t = .ok t') : t'.selector = t.selector := by
  have hpresent : ((Json.member? "ifpresent" members).elim t fun j =>
      t.withIfPresent (isSwitchedOn j)).selector = t.selector := by
    cases Json.member? "ifpresent" members <;> rfl
  unfold withModifiers at h
  dsimp only at h
  split at h
  · rw [← pure_eq_ok.mp h, hpresent]
  · obtain ⟨_, -, h⟩ := bind_eq_ok.mp h
    rw [← pure_eq_ok.mp h, ← hpresent]
    rfl

theorem readBound_shaped {s : Store} {type : TypeId} {isExclusive : Bool} {j : Option Json}
    {b : Option Bound} (hj : ∀ x ∈ j, x.isNumeric = true)
    (h : readBound s type isExclusive j = .ok b) :
    ∀ c ∈ b, s.Shaped Eq true type c.value := by
  cases j with
  | none =>
    cases h
    simp
  | some j =>
    obtain ⟨v, hv, rfl⟩ := map_eq_ok.mp h
    simpa using readValue_shaped j (fun _ => hj j rfl) hv

/-- The bounds of a range that is read from numeric JSON are numeric. -/
theorem rangeSchema_isNumeric {j : Json} {r : RangeEntry} (hj : j.isNumeric = true)
    (h : rangeSchema .value (.ofJson j) = .ok r) :
    (∀ x ∈ r.min, x.isNumeric = true) ∧ ∀ x ∈ r.max, x.isNumeric = true := by
  have hbound {s : Json.Source} {b : Option Json} (hs : s.isNumeric = true)
      (h : Json.Schema.optional Json.Schema.any .value s = .ok b) :
      ∀ x ∈ b, x.isNumeric = true := by
    unfold Json.Schema.optional at h
    split at h
    · cases h
      simp
    · obtain ⟨x, hx, rfl⟩ := map_eq_ok.mp h
      unfold Json.Schema.any at hx
      split at hx
      · rename_i y hy
        cases hx
        simpa using Json.Source.json?_isNumeric s hs _ hy
      · cases hx
  refine Json.Structure.schema_invariant
    (P := fun r => (∀ x ∈ r.min, x.isNumeric = true) ∧ ∀ x ∈ r.max, x.isNumeric = true)
    ?_ (Json.Source.ofJson_isNumeric j hj) ⟨by simp, by simp⟩ h
  intro m hm s x x' hs hx h
  simp only [range, List.mem_cons, List.not_mem_nil, or_false] at hm
  rcases hm with rfl | rfl | rfl | rfl
  all_goals
    obtain ⟨b, hb, rfl⟩ := map_eq_ok.mp h
  · exact ⟨hbound hs hb, hx.2⟩
  · exact ⟨hx.1, hbound hs hb⟩
  · exact hx
  · exact hx

theorem readRange_describes {s : Store} {type : TypeId} {j : Json} {t : Template}
    (hj : j.isNumeric = true) (h : readRange s type j = .ok t) : s.Describes type t.selector := by
  obtain ⟨r, hr, h⟩ := bind_eq_ok.mp h
  rw [locate_eq_ok, mapError_eq_ok] at hr
  obtain ⟨lower, hlower, h⟩ := bind_eq_ok.mp h
  obtain ⟨upper, hupper, h⟩ := bind_eq_ok.mp h
  rw [mapError_eq_ok] at h
  obtain ⟨hmin, hmax⟩ := rangeSchema_isNumeric hj hr
  obtain ⟨rfl, -⟩ := Template.range_eq_ok h
  refine .range fun b hb => ⟨?_, Template.isLimit_of_range h b hb⟩
  simp only [ValueRange.bounds, List.mem_append, Option.mem_toList] at hb
  rcases hb with hb | hb
  · exact readBound_shaped hmin hlower b hb
  · exact readBound_shaped hmax hupper b hb

theorem readPattern_describes {s : Store} {type : TypeId} {ignoresCase : Bool} {j : Json}
    {t : Template} (h : readPattern ignoresCase j = .ok t) : s.Describes type t.selector := by
  unfold readPattern at h
  split at h
  · cases h
  split at h
  · cases h
    exact .pattern
  · cases h

/-- The target of a decoded content names the type that its template is read for. -/
theorem readTarget_eq_ok {s : Store} {members : List (String × Json)} {target : DecodeTarget}
    {type : TypeId} (h : readTarget s members = .ok (target, type)) :
    s.lookup target.name = some type ∧ target.kind = (s.resolvedKind type).1 := by
  unfold readTarget at h
  split at h
  · cases h
  · rename_i name _
    obtain ⟨t, ht, h⟩ := bind_eq_ok.mp h
    cases pure_eq_ok.mp h
    refine ⟨?_, rfl⟩
    unfold typeOfName at ht
    cases hname : s.lookup name with
    | none => simp [hname] at ht
    | some u =>
      rw [hname] at ht
      cases ht
      rfl

/-- The template for named parts, all of which a type has, is formed as the type calls for. -/
theorem ofParts_describes {s : Store} {type : TypeId} {kind : Kind} {parts : List FieldTemplate}
    (hfields : ∀ f ∈ parts, (s.fieldType type f.name).isSome = true)
    (hparts : ∀ f ∈ parts, ∀ t, s.fieldType type f.name = some t →
      s.Describes t f.template.selector) :
    s.Describes type (ofParts kind parts).selector := by
  unfold ofParts
  split
  · rename_i alternative template _
    obtain ⟨t, ht⟩ := Option.isSome_iff_exists.mp (hfields (.mk alternative template) (by simp))
    exact .union ht (hparts (.mk alternative template) (by simp) t ht)
  · exact .record hfields hparts

mutual

/-- **Templates that are read.**  A template that is read for a type is formed as the type calls
for. -/
theorem readTemplate_describes {s : Store} {type : TypeId} {t : Template} :
    (j : Json) → j.isNumeric = true → readTemplate s type j = .ok t →
      s.Describes type t.selector
  | .array items, hj, h => by
    rw [readTemplate.eq_1] at h
    obtain ⟨last, hlast, h⟩ := bind_eq_ok.mp h
    rw [resolveAlias_eq_ok] at hlast
    dsimp only at h
    split at h
    · cases h
    · rename_i t ht
      obtain ⟨templates, htemplates, h⟩ := bind_eq_ok.mp h
      obtain rfl := pure_eq_ok.mp h
      rw [Store.elementType_last hlast] at ht
      exact .elements ht (readTemplates_describes items hj htemplates)
  | .object members, hj, h => by
    rw [readTemplate.eq_1] at h
    obtain ⟨last, hlast, h⟩ := bind_eq_ok.mp h
    rw [resolveAlias_eq_ok] at hlast
    dsimp only at h
    split at h
    · obtain ⟨t', ht', h⟩ := bind_eq_ok.mp h
      rw [withModifiers_selector h]
      exact readMechanism_describes members hj hlast ht'
    · obtain ⟨⟨⟩, -, h⟩ := bind_eq_ok.mp h
      obtain ⟨parts, hparts, h⟩ := bind_eq_ok.mp h
      obtain rfl := pure_eq_ok.mp h
      obtain ⟨hfields, hdescribes⟩ := readParts_describes members hj hlast hparts
      exact ofParts_describes hfields hdescribes
  | .string text, hj, h => by
    rw [readTemplate.eq_1] at h
    obtain ⟨last, -, h⟩ := bind_eq_ok.mp h
    dsimp only at h
    split at h
    case h_6 =>
      obtain ⟨v, hv, rfl⟩ := map_eq_ok.mp h
      exact .specific (readValue_shaped _ (fun _ => hj) hv)
    case h_4 heq => cases heq
    case h_5 heq => cases heq
    all_goals obtain rfl := pure_eq_ok.mp h
    · exact .any
    · exact .anyOrOmit
    · exact .omitted
  | .null, hj, h | .boolean _, hj, h | .integer _, hj, h | .real _, hj, h => by
    rw [readTemplate.eq_1] at h
    obtain ⟨last, -, h⟩ := bind_eq_ok.mp h
    obtain ⟨v, hv, rfl⟩ := map_eq_ok.mp h
    exact .specific (readValue_shaped _ (fun _ => hj) hv)
termination_by j => sizeOf j

/-- The template of a mechanism is formed as the type calls for. -/
theorem readMechanism_describes {s : Store} {type last : TypeId} {kind : Kind}
    {ignoresCase : Bool} {t : Template} :
    (members : List (String × Json)) → Json.membersNumeric members = true →
      s.resolveAlias? type = some last →
      readMechanism s type last kind ignoresCase members = .ok t → s.Describes type t.selector
  | [], _, _, h => by
    rw [readMechanism.eq_1] at h
    cases h
  | (mechanism, body) :: rest, hj, hlast, h => by
    simp only [Json.membersNumeric, Bool.and_eq_true] at hj
    rw [readMechanism.eq_def] at h
    dsimp only at h
    split at h
    · exact readMechanism_describes rest hj.2 hlast h
    split at h
    · cases h
    -- the mechanisms in the order in which the reader tells them apart
    split at h
    · obtain ⟨v, hv, rfl⟩ := map_eq_ok.mp h
      exact .specific (readValue_shaped body (fun _ => hj.1) hv)
    · cases h
      exact .any
    · cases h
      exact .anyOrOmit
    · cases h
      exact .omitted
    · split at h
      · obtain ⟨items, hitems, h⟩ := bind_eq_ok.mp h
        obtain rfl := pure_eq_ok.mp h
        exact .valueList (readTemplates_describes _ hj.1 hitems)
      · cases h
    · split at h
      · obtain ⟨items, hitems, h⟩ := bind_eq_ok.mp h
        obtain rfl := pure_eq_ok.mp h
        exact .complement (readTemplates_describes _ hj.1 hitems)
      · cases h
    · exact readRange_describes hj.1 h
    · exact readPattern_describes h
    · split at h
      · obtain ⟨⟨target, targetType⟩, htarget, h⟩ := bind_eq_ok.mp h
        obtain ⟨inner, hinner, h⟩ := bind_eq_ok.mp h
        dsimp only at h
        split at h
        · cases h
        · obtain rfl := pure_eq_ok.mp h
          obtain ⟨hlookup, hkind⟩ := readTarget_eq_ok htarget
          exact .decoded hlookup hkind (readInner_describes _ hj.1 hinner)
      · cases h
    · split at h
      · obtain ⟨⟨⟩, -, h⟩ := bind_eq_ok.mp h
        obtain ⟨parts, hparts, h⟩ := bind_eq_ok.mp h
        obtain rfl := pure_eq_ok.mp h
        obtain ⟨hfields, hdescribes⟩ := readParts_describes _ hj.1 hlast hparts
        exact ofParts_describes hfields hdescribes
      · cases h
    · split at h
      · split at h
        · cases h
        · rename_i t ht
          obtain ⟨items, hitems, h⟩ := bind_eq_ok.mp h
          obtain rfl := pure_eq_ok.mp h
          rw [Store.elementType_last hlast] at ht
          exact .elements ht (readTemplates_describes _ hj.1 hitems)
      · cases h
    · cases h
termination_by members => sizeOf members

/-- The templates that are read for a type are formed as the type calls for. -/
theorem readTemplates_describes {s : Store} {type : TypeId} {templates : List Template} :
    (items : List Json) → Json.itemsNumeric items = true →
      readTemplates s type items = .ok templates →
      ∀ item ∈ templates, s.Describes type item.selector
  | [], _, h => by
    cases h
    simp
  | j :: rest, hj, h => by
    rw [readTemplates.eq_2] at h
    obtain ⟨first, hfirst, h⟩ := bind_eq_ok.mp h
    obtain ⟨others, hothers, h⟩ := bind_eq_ok.mp h
    obtain rfl := pure_eq_ok.mp h
    simp only [Json.itemsNumeric, Bool.and_eq_true] at hj
    rw [List.forall_mem_cons]
    exact ⟨readTemplate_describes j hj.1 hfirst, readTemplates_describes rest hj.2 hothers⟩
termination_by items => sizeOf items

/-- The parts that are read are parts of the type, with templates for their types. -/
theorem readParts_describes {s : Store} {type last : TypeId} {kind : Kind} {typeName : String}
    {parts : List FieldTemplate} :
    (members : List (String × Json)) → Json.membersNumeric members = true →
      s.resolveAlias? type = some last → readParts s last kind typeName members = .ok parts →
      (∀ f ∈ parts, (s.fieldType type f.name).isSome = true) ∧
      ∀ f ∈ parts, ∀ t, s.fieldType type f.name = some t → s.Describes t f.template.selector
  | [], _, _, h => by
    cases h
    simp
  | (name, j) :: rest, hj, hlast, h => by
    rw [readParts.eq_2] at h
    split at h
    · cases h
    · rename_i t ht
      obtain ⟨part, hpart, h⟩ := bind_eq_ok.mp h
      obtain ⟨others, hothers, h⟩ := bind_eq_ok.mp h
      obtain rfl := pure_eq_ok.mp h
      simp only [Json.membersNumeric, Bool.and_eq_true] at hj
      obtain ⟨hfields, hdescribes⟩ := readParts_describes rest hj.2 hlast hothers
      rw [Store.fieldType_last hlast] at ht
      rw [List.forall_mem_cons, List.forall_mem_cons]
      refine ⟨⟨by simp [FieldTemplate.name, ht], hfields⟩, ?_, hdescribes⟩
      intro t' ht'
      obtain rfl := Option.some.inj (ht.symm.trans ht')
      exact readTemplate_describes j hj.1 hpart
termination_by members => sizeOf members

/-- The template for a decoded content is formed as the type of the content calls for. -/
theorem readInner_describes {s : Store} {type : TypeId} {inner : Template} :
    (members : List (String × Json)) → Json.membersNumeric members = true →
      readInner s type members = .ok (some inner) → s.Describes type inner.selector
  | [], _, h => by cases h
  | (name, j) :: rest, hj, h => by
    simp only [Json.membersNumeric, Bool.and_eq_true] at hj
    rw [readInner.eq_2] at h
    split at h
    · obtain ⟨t, ht, heq⟩ := map_eq_ok.mp h
      obtain rfl := Option.some.inj heq
      exact readTemplate_describes j hj.1 ht
    · exact readInner_describes rest hj.2 h
termination_by members => sizeOf members

end

end Document

end TestSpec
