import TestSpec.Proofs.Matching.Elements
import TestSpec.Proofs.Template.Nodes

/-!
# Older and newer rules for omitted fields

Two runs of matching, one under the older rules and one under the newer ones, ask the same
templates about the same values.  They part only where a record template meets an omitted
field.  So there is nothing to tell them apart in a value that omits nothing
(`Template.isMatch_eq_of_omitsNothing`): whatever a selector asks of its parts, it has the same
answer, or the same error, if its parts have.

Where fields are omitted, the older rules accept more.  A match is not lost by that unless a
template is complemented: it stays a match, or one of the parts that are now asked in addition
fails (`Template.isMatch_legacy_of_isMatch`).  Here the two runs do not ask the same.  An
alternative may answer sooner, and in a list with a bare `*` more positions are reached, so that
items meet elements that they did not meet before; it is carried along that each position reached
under the newer rules is reached under the older ones (`Template.reached_matchesRuns`).
-/

namespace TestSpec

/-! ### Values without omitted fields -/

namespace Value

mutual

/-- No field of a record or set is omitted, at any depth. -/
def omitsNothing : Value → Bool
  | .unbound _ | .scalar _ _ => true
  | .record _ fields => fieldsOmitNothing fields
  | .union _ _ value => omitsNothing value
  | .list _ elements => elementsOmitNothing elements

/-- No field is omitted, nor one in the value of a field. -/
def fieldsOmitNothing : List FieldValue → Bool
  | [] => true
  | .present _ value :: rest => omitsNothing value && fieldsOmitNothing rest
  | .omitted _ :: _ => false

/-- No field is omitted in any of the elements. -/
def elementsOmitNothing : List Value → Bool
  | [] => true
  | value :: rest => omitsNothing value && elementsOmitNothing rest

end

theorem fieldsOmitNothing_iff {fields : List FieldValue} : fieldsOmitNothing fields = true ↔
    ∀ f ∈ fields, ∃ v, f.value? = some v ∧ v.omitsNothing = true := by
  induction fields with
  | nil => simp [fieldsOmitNothing]
  | cons f rest ih => cases f <;> simp [fieldsOmitNothing, FieldValue.value?, ih]

theorem elementsOmitNothing_iff {elements : List Value} :
    elementsOmitNothing elements = true ↔ ∀ v ∈ elements, v.omitsNothing = true := by
  induction elements with
  | nil => simp [elementsOmitNothing]
  | cons v rest ih => simp [elementsOmitNothing, ih]

end Value

namespace Template

variable {ctx ctx' : MatchContext} {depth depth' : Nat} {t item : Template}
  {items : List Template} {v : Value} {values : List Value}

/-! ### Two runs with the same answers -/

/-- A template has the same answer in two runs if its selector has. -/
theorem matchAt_congr
    (h : selectorMatch ctx depth t.selector v = selectorMatch ctx' depth t.selector v) :
    matchAt ctx depth t v = matchAt ctx' depth t v := by
  obtain ⟨selector, ifPresent, length⟩ := t
  rw [Template.selector] at h
  rw [matchAt_mk, matchAt_mk, h]

theorem matchesAny_congr
    (h : ∀ item ∈ items, matchAt ctx depth item v = matchAt ctx' depth' item v) :
    matchesAny ctx depth items v = matchesAny ctx' depth' items v := by
  induction items with
  | nil => rfl
  | cons item rest ih =>
    rw [List.forall_mem_cons] at h
    rw [matchesAny, matchesAny, h.1, ih h.2]

/-- Field templates have the same answers in two runs if each has about the field it finds. -/
theorem matchesFields_congr {kind : Kind} {fields : List FieldValue}
    {templates : List FieldTemplate}
    (h : ∀ f ∈ templates, ∀ x, (fields.find? fun x => x.name == f.name) = some x →
      (∀ v ∈ x.value?, matchAt ctx depth f.template v = matchAt ctx' depth' f.template v) ∧
      (x.value? = none →
        matchesOmit ctx.isLegacy f.template = matchesOmit ctx'.isLegacy f.template)) :
    matchesFields ctx depth kind fields templates =
      matchesFields ctx' depth' kind fields templates := by
  induction templates with
  | nil => rfl
  | cons f rest ih =>
    obtain ⟨name, template⟩ := f
    rw [List.forall_mem_cons] at h
    obtain ⟨hfield, hrest⟩ := h
    rw [matchesFields, matchesFields, ih hrest]
    split
    · rfl
    · rename_i v hfound
      have hv : matchAt ctx depth template v = matchAt ctx' depth' template v :=
        (hfield _ hfound).1 v rfl
      rw [hv]
    · rename_i hfound
      have homit : matchesOmit ctx.isLegacy template = matchesOmit ctx'.isLegacy template :=
        (hfield _ hfound).2 rfl
      rw [homit]

theorem matchesEach_congr
    (h : ∀ item ∈ items, ∀ v ∈ values, matchAt ctx depth item v = matchAt ctx' depth' item v) :
    matchesEach ctx depth items values = matchesEach ctx' depth' items values := by
  induction items generalizing values with
  | nil => simp [matchesEach]
  | cons item rest ih =>
    cases values with
    | nil => simp [matchesEach]
    | cons v values =>
      have hfirst : matchAt ctx depth item v = matchAt ctx' depth' item v := by
        apply h <;> apply List.mem_cons_self
      have hrest : matchesEach ctx depth rest values = matchesEach ctx' depth' rest values := by
        apply ih
        intro item hitem v hv
        exact h item (List.mem_cons_of_mem _ hitem) v (List.mem_cons_of_mem _ hv)
      rw [matchesEach, matchesEach, hfirst, hrest]

theorem reachOne_congr_of_mem {isMatch isMatch' : Value → Except MatchError Bool}
    (h : ∀ v ∈ values, isMatch v = isMatch' v) (reached : List Bool) :
    reachOne isMatch reached values = reachOne isMatch' reached values := by
  induction reached generalizing values with
  | nil => simp [reachOne]
  | cons isReached reached ih =>
    cases values with
    | nil => simp [reachOne]
    | cons v values =>
      rw [List.forall_mem_cons] at h
      rw [reachOne, reachOne, h.1, ih h.2]

theorem matchesRuns_congr
    (h : ∀ item ∈ items, ∀ v ∈ values, matchAt ctx depth item v = matchAt ctx' depth' item v)
    (reached : List Bool) :
    matchesRuns ctx depth values reached items = matchesRuns ctx' depth' values reached items := by
  induction items generalizing reached with
  | nil => rfl
  | cons item rest ih =>
    rw [List.forall_mem_cons] at h
    rw [matchesRuns, matchesRuns, reachOne_congr_of_mem h.1]
    simp only [ih h.2]

/-- The items of a list template have the same answer in two runs if each has about every
element. -/
theorem matchesElements_congr
    (h : ∀ item ∈ items, ∀ v ∈ values, matchAt ctx depth item v = matchAt ctx' depth' item v) :
    matchesElements ctx depth items values = matchesElements ctx' depth' items values := by
  rw [matchesElements_eq, matchesElements_eq, matchesTable_eq, matchesTable_eq,
    matchesRuns_congr h, matchesEach_congr h]

/-! ### Where nothing is omitted -/

/-- The codec gives values that omit nothing. -/
def DecodesFully (codec : Option Codec) : Prop :=
  ∀ decode ∈ codec, ∀ octets target content, decode octets target = .ok content →
    content.omitsNothing = true

/-- The raw codec gives content without parts. -/
theorem decodesFully_raw : DecodesFully (some Codec.raw) := by
  intro decode hdecode octets target content hcontent
  obtain rfl := Option.some.inj hdecode
  obtain ⟨kind, content, rfl, -⟩ := Codec.raw_eq_ok hcontent
  rfl

/-- A selector has the same answer in two runs about a value that omits nothing, if its parts
have. -/
theorem selectorMatch_congr (hcodec : ctx.codec = ctx'.codec) (hdecodes : DecodesFully ctx.codec)
    {selector : Selector}
    (hparts : ∀ u ∈ selector.parts, ∀ v : Value, v.omitsNothing = true →
      matchAt ctx (depth + 1) u v = matchAt ctx' (depth + 1) u v)
    (hv : v.omitsNothing = true) :
    selectorMatch ctx depth selector v = selectorMatch ctx' depth selector v := by
  cases selector with
  | valueList items => exact matchesAny_congr fun u hu => hparts u hu v hv
  | complement items =>
    have hany : matchesAny ctx (depth + 1) items v = matchesAny ctx' (depth + 1) items v :=
      matchesAny_congr fun u hu => hparts u hu v hv
    rw [selectorMatch, selectorMatch, hany]
  | record kind templates =>
    cases v with
    | record kind' fields =>
      rw [selectorMatch, selectorMatch]
      apply matchesFields_congr
      intro f hf x hfound
      have hx := List.mem_of_find?_eq_some hfound
      obtain ⟨w, hvalue, hw⟩ := Value.fieldsOmitNothing_iff.mp hv x hx
      have hmem : f.template ∈ templates.map FieldTemplate.template := List.mem_map_of_mem hf
      constructor
      · intro u hu
        obtain rfl : w = u := Option.some.inj (hvalue.symm.trans hu)
        exact hparts _ hmem _ hw
      · intro hnone
        rw [hnone] at hvalue
        cases hvalue
    | _ => rfl
  | union kind alternative template =>
    cases v with
    | union kind' selected inner =>
      have hinner := hparts template (List.mem_singleton_self template) inner hv
      rw [selectorMatch, selectorMatch, hinner]
    | _ => rfl
  | elements kind items =>
    cases v with
    | list kind' values =>
      rw [selectorMatch_elements, selectorMatch_elements]
      apply matchesElements_congr
      intro item hitem w hw
      exact hparts item hitem w (Value.elementsOmitNothing_iff.mp hv w hw)
    | _ => rfl
  | decoded target inner =>
    rw [selectorMatch, selectorMatch, ← hcodec]
    split
    · rfl
    rename_i decode hdecode
    split
    · rfl
    split
    · rename_i content hcontent
      have hfull := hdecodes decode hdecode _ _ _ hcontent
      exact hparts inner (List.mem_singleton_self inner) content hfull
    · rfl
  | _ => rfl

theorem matchAt_eq_of_omitsNothing (hcodec : ctx.codec = ctx'.codec)
    (hdecodes : DecodesFully ctx.codec) (t : Template) (depth : Nat)
    (hv : v.omitsNothing = true) : matchAt ctx depth t v = matchAt ctx' depth t v := by
  induction t using induction_parts generalizing depth v with
  | step t ih =>
    apply matchAt_congr
    apply selectorMatch_congr hcodec hdecodes _ hv
    intro u hu w hw
    exact ih u hu (depth + 1) hw

/-- **The rules for omitted fields matter for omitted fields alone.**  A value in which no field is
omitted, at any depth, matches a template under the older rules as under the newer ones, or fails
with the same error, without a codec as with the raw one. -/
theorem isMatch_eq_of_omitsNothing (t : Template) {v : Value} (hv : v.omitsNothing = true)
    {codec : Option Codec} (hcodec : codec = none ∨ codec = some Codec.raw) :
    t.isMatch { isLegacy := true, codec } v = t.isMatch { isLegacy := false, codec } v := by
  have hdecodes : DecodesFully codec := by
    rcases hcodec with rfl | rfl
    · intro decode hdecode
      cases hdecode
    · exact decodesFully_raw
  let older : MatchContext := { isLegacy := true, codec }
  let newer : MatchContext := { isLegacy := false, codec }
  have hcodec : older.codec = newer.codec := rfl
  exact matchAt_eq_of_omitsNothing hcodec hdecodes t 0 hv

/-- Octets whose text is other than "b", and numbers of which the last is two. -/
def otherThanB : Template := .ofSelector (.record .record [
  .mk "text" (.ofSelector (.decoded ⟨"charstring", .charstring⟩
    (.ofSelector (.complement [specific (.text .charstring "b")])))),
  .mk "numbers" (.ofSelector (.elements .recordOf
    [.ofSelector .anyOrOmit, specific (.integer 2)]))])

/-- A record of octets and numbers that leaves nothing out. -/
def fullEntry : Value := .record .record [
  .present "text" (.octetstring [0x61]),
  .present "numbers" (.list .recordOf [.integer 1, .integer 2])]

/-- The record has the same answer under both rules: it matches. -/
theorem isMatch_eq_of_omitsNothing_fullEntry : fullEntry.omitsNothing = true ∧
    otherThanB.isMatch { isLegacy := true, codec := some Codec.raw } fullEntry =
      otherThanB.isMatch { isLegacy := false, codec := some Codec.raw } fullEntry ∧
    otherThanB.isMatch { isLegacy := false, codec := some Codec.raw } fullEntry = .ok true :=
  ⟨rfl, isMatch_eq_of_omitsNothing otherThanB rfl (.inr rfl), rfl⟩

/-- A record that leaves a note out. -/
def withoutNote : Value := .record .record [.omitted "note", .present "rest" (.integer 1)]

/-- A list of alternatives with `omit` among them accepts an omitted field under the older rules
alone. -/
example :
    let t : Template :=
      .ofSelector (.record .record [.mk "note" (.ofSelector (.valueList [.ofSelector .omit]))])
    t.isMatch { isLegacy := true } withoutNote = .ok true ∧
      t.isMatch { isLegacy := false } withoutNote = .ok false :=
  ⟨rfl, rfl⟩

/-! ### Matches that are kept -/

/-- Where the first answer is a match, the second one is no refusal: it is a match too, or an
error. -/
def KeepsMatch (answer answer' : Except MatchError Bool) : Prop :=
  answer = .ok true → answer' ≠ .ok false

theorem KeepsMatch.refl (answer : Except MatchError Bool) : KeepsMatch answer answer := by
  intro hmatch hrefuse
  rw [hmatch] at hrefuse
  cases hrefuse

/-- A template keeps its matches if its selector does. -/
theorem matchAt_keepsMatch
    (h : KeepsMatch (selectorMatch ctx depth t.selector v)
      (selectorMatch ctx' depth t.selector v)) :
    KeepsMatch (matchAt ctx depth t v) (matchAt ctx' depth t v) := by
  obtain ⟨selector, ifPresent, length⟩ := t
  rw [Template.selector] at h
  rw [matchAt_mk, matchAt_mk]
  split
  · exact .refl _
  split
  · exact .refl _
  split
  · exact .refl _
  cases length with
  | none => exact h
  | some r =>
    dsimp only
    split
    · exact .refl _
    split
    · exact h
    · exact .refl _

/-- Alternatives keep a match if each of them does: those before it may match now, or fail. -/
theorem matchesAny_keepsMatch
    (h : ∀ item ∈ items, KeepsMatch (matchAt ctx depth item v) (matchAt ctx' depth item v)) :
    KeepsMatch (matchesAny ctx depth items v) (matchesAny ctx' depth items v) := by
  induction items with
  | nil => exact .refl _
  | cons item rest ih =>
    rw [List.forall_mem_cons] at h
    obtain ⟨hitem, hrest⟩ := h
    intro hmatch
    rw [matchesAny] at hmatch ⊢
    cases hlater : matchAt ctx' depth item v with
    | error e =>
      intro hrefuse
      cases hrefuse
    | ok answer =>
      cases answer with
      | true =>
        intro hrefuse
        cases hrefuse
      | false =>
        -- the item refuses in the second run, so it was not this one that matched in the first
        have hfirst : matchAt ctx depth item v ≠ .ok true := fun hitem' => hitem hitem' hlater
        split at hmatch
        · exact ih hrest hmatch
        · exact absurd hmatch hfirst

/-- Field templates keep a match if each keeps it about the field it finds, be there a value or
not. -/
theorem matchesFields_keepsMatch {kind : Kind} {fields : List FieldValue}
    {templates : List FieldTemplate}
    (h : ∀ f ∈ templates,
      (∀ v, KeepsMatch (matchAt ctx depth f.template v) (matchAt ctx' depth f.template v)) ∧
      (matchesOmit ctx.isLegacy f.template = true → matchesOmit ctx'.isLegacy f.template = true)) :
    KeepsMatch (matchesFields ctx depth kind fields templates)
      (matchesFields ctx' depth kind fields templates) := by
  induction templates with
  | nil => exact .refl _
  | cons f rest ih =>
    obtain ⟨name, template⟩ := f
    rw [List.forall_mem_cons] at h
    obtain ⟨⟨hvalue, homit⟩, hrest⟩ := h
    intro hmatch
    rw [matchesFields] at hmatch ⊢
    split at hmatch
    · cases hmatch
    · rename_i v hfound
      split at hmatch
      · rename_i hfirst
        have hlater := hvalue v hfirst
        simp only [FieldTemplate.template] at hlater
        split
        · exact ih hrest hmatch
        · exact hlater
      · rename_i hfirst
        exact absurd hmatch hfirst
    · rename_i hfound
      split at hmatch
      · rename_i haccepted
        have hlater : matchesOmit ctx'.isLegacy template = true := homit haccepted
        rw [if_pos hlater]
        exact ih hrest hmatch
      · cases hmatch

theorem matchesEach_keepsMatch
    (h : ∀ item ∈ items, ∀ v, KeepsMatch (matchAt ctx depth item v) (matchAt ctx' depth item v)) :
    KeepsMatch (matchesEach ctx depth items values) (matchesEach ctx' depth items values) := by
  induction items generalizing values with
  | nil => simp [matchesEach, KeepsMatch]
  | cons item rest ih =>
    cases values with
    | nil => simp [matchesEach, KeepsMatch]
    | cons v values =>
      rw [List.forall_mem_cons] at h
      intro hmatch
      rw [matchesEach] at hmatch ⊢
      split at hmatch
      · rename_i hfirst
        have hlater := h.1 v hfirst
        split
        · exact ih h.2 hmatch
        · exact hlater
      · rename_i hfirst
        exact absurd hmatch hfirst

/-! ### Positions that stay reached -/

/-- Taking one element passes a reached position, unless the element is refused. -/
theorem getElem?_reachOne_of_ne_false {isMatch : Value → Except MatchError Bool}
    {reached next : List Bool} (h : reachOne isMatch reached values = .ok next) {i : Nat}
    (hreached : reached[i]? = some true) (hv : values[i]? = some v)
    (hanswer : isMatch v ≠ .ok false) : next[i]? = some true := by
  have hasked : ∃ answer, isMatch v = .ok answer := by
    induction reached generalizing values next i with
    | nil => cases hreached
    | cons isReached reached ih =>
      cases values with
      | nil => cases hv
      | cons value values =>
        obtain ⟨here, rest, hhere, hrest, -⟩ := reachOne_cons_eq_ok h
        cases i with
        | zero =>
          obtain rfl : isReached = true := by simpa using hreached
          obtain rfl : value = v := by simpa using hv
          exact ⟨here, hhere⟩
        | succ i => exact ih hrest hreached hv
  obtain ⟨answer, hasked⟩ := hasked
  have hmatch : isMatch v = .ok true := by
    cases answer with
    | true => exact hasked
    | false => exact absurd hasked hanswer
  exact ((getElem?_reachOne h).2 i).mpr ⟨hreached, v, hv, hmatch⟩

/-- What is reached in a run of the table is reached in a second one that keeps the matches and
starts with no less. -/
theorem reached_matchesRuns
    (h : ∀ item ∈ items, ∀ v, KeepsMatch (matchAt ctx depth item v) (matchAt ctx' depth item v))
    {reached reached' out out' : List Bool} (hlength : reached.length = reached'.length)
    (hsub : ∀ i : Nat, reached[i]? = some true → reached'[i]? = some true)
    (hout : matchesRuns ctx depth values reached items = .ok out)
    (hout' : matchesRuns ctx' depth values reached' items = .ok out') :
    ∀ i : Nat, out[i]? = some true → out'[i]? = some true := by
  induction items generalizing reached reached' with
  | nil =>
    obtain rfl : reached = out := Except.ok.inj hout
    obtain rfl : reached' = out' := Except.ok.inj hout'
    exact hsub
  | cons item rest ih =>
    rw [List.forall_mem_cons] at h
    rw [matchesRuns] at hout hout'
    by_cases hrun : item.isRun = true
    · rw [if_pos hrun] at hout hout'
      obtain ⟨hsame, hfirst⟩ := getElem?_reachRun reached
      obtain ⟨hsame', hlater⟩ := getElem?_reachRun reached'
      refine ih h.2 (by rw [hsame, hsame', hlength]) ?_ hout hout'
      intro i hi
      obtain ⟨hlt, j, hj, hstart⟩ := (hfirst i).mp hi
      exact (hlater i).mpr ⟨hlength ▸ hlt, j, hj, hsub j hstart⟩
    · rw [if_neg hrun] at hout hout'
      split at hout
      · cases hout
      rename_i next hnext
      split at hout'
      · cases hout'
      rename_i next' hnext'
      obtain ⟨hsame, hfirst⟩ := getElem?_reachOne hnext
      obtain ⟨hsame', -⟩ := getElem?_reachOne hnext'
      refine ih h.2 (by simp [hsame, hsame', hlength]) ?_ hout hout'
      intro i hi
      -- the position in front is unreached in both runs, so `i` follows one that was passed
      cases i with
      | zero => cases hi
      | succ i =>
        obtain ⟨hstart, v, hv, hmatch⟩ := (hfirst i).mp hi
        exact getElem?_reachOne_of_ne_false hnext' (hsub i hstart) hv (h.1 v hmatch)

theorem matchesElements_keepsMatch
    (h : ∀ item ∈ items, ∀ v, KeepsMatch (matchAt ctx depth item v) (matchAt ctx' depth item v)) :
    KeepsMatch (matchesElements ctx depth items values)
      (matchesElements ctx' depth items values) := by
  rw [matchesElements_eq, matchesElements_eq]
  split
  · intro hmatch hrefuse
    obtain ⟨out, hout, hlast⟩ := map_eq_ok.mp hmatch
    obtain ⟨out', hout', hlast'⟩ := map_eq_ok.mp hrefuse
    have hstart : (reachNone values.length).length = values.length + 1 := by simp [reachNone]
    have hlength := (getElem?_matchesRuns hout hstart).1
    have hlength' := (getElem?_matchesRuns hout' hstart).1
    rw [beq_iff_eq, List.getLast?_eq_getElem?, hlength] at hlast
    have hreached := reached_matchesRuns h rfl (fun _ hi => hi) hout hout' _ hlast
    rw [beq_eq_false_iff_ne, List.getLast?_eq_getElem?, hlength'] at hlast'
    exact hlast' hreached
  split
  · exact matchesEach_keepsMatch h
  · exact .refl _

/-! ### Where nothing is complemented -/

/-- No node of the template is a complemented list. -/
def HasNoComplement (t : Template) : Prop :=
  ∀ u, t.HasNode u → ∀ items, u.selector ≠ .complement items

theorem HasNoComplement.of_parts (ht : ∀ items, t.selector ≠ .complement items)
    (hparts : ∀ u ∈ t.parts, u.HasNoComplement) : t.HasNoComplement :=
  forall_node_of_parts ht hparts

/-- What accepts an omitted field under the newer rules does so under the older ones. -/
theorem matchesOmit_legacy (h : t.matchesOmit false = true) : t.matchesOmit true = true := by
  obtain ⟨selector, ifPresent, length⟩ := t
  rw [matchesOmit] at h ⊢
  cases selector <;> simp_all [selectorMatchesOmit]

/-- A selector other than a complement keeps its matches if its parts do. -/
theorem selectorMatch_keepsMatch (hcodec : ctx.codec = ctx'.codec)
    (hlegacy : ctx.isLegacy = false ∧ ctx'.isLegacy = true) {selector : Selector}
    (hplain : ∀ items, selector ≠ .complement items)
    (hparts : ∀ u ∈ selector.parts, ∀ v : Value,
      KeepsMatch (matchAt ctx (depth + 1) u v) (matchAt ctx' (depth + 1) u v)) :
    KeepsMatch (selectorMatch ctx depth selector v) (selectorMatch ctx' depth selector v) := by
  cases selector with
  | valueList items => exact matchesAny_keepsMatch fun u hu => hparts u hu v
  | complement items => exact absurd rfl (hplain items)
  | record kind templates =>
    cases v with
    | record kind' fields =>
      rw [selectorMatch, selectorMatch]
      apply matchesFields_keepsMatch
      intro f hf
      refine ⟨hparts _ (List.mem_map_of_mem hf), ?_⟩
      rw [hlegacy.1, hlegacy.2]
      exact matchesOmit_legacy
    | _ => exact .refl _
  | union kind alternative template =>
    cases v with
    | union kind' selected inner =>
      rw [selectorMatch, selectorMatch]
      split
      · exact hparts template (List.mem_singleton_self template) inner
      · exact .refl _
    | _ => exact .refl _
  | elements kind items =>
    cases v with
    | list kind' values =>
      rw [selectorMatch_elements, selectorMatch_elements]
      exact matchesElements_keepsMatch hparts
    | _ => exact .refl _
  | decoded target inner =>
    rw [selectorMatch, selectorMatch, ← hcodec]
    split
    · exact .refl _
    split
    · exact .refl _
    split
    · exact hparts inner (List.mem_singleton_self inner) _
    · exact .refl _
  | _ => exact .refl _

theorem matchAt_keepsMatch_of_hasNoComplement (hcodec : ctx.codec = ctx'.codec)
    (hlegacy : ctx.isLegacy = false ∧ ctx'.isLegacy = true) (hplain : t.HasNoComplement)
    (depth : Nat) (v : Value) :
    KeepsMatch (matchAt ctx depth t v) (matchAt ctx' depth t v) := by
  induction t using induction_parts generalizing depth v with
  | step t ih =>
    apply matchAt_keepsMatch
    apply selectorMatch_keepsMatch hcodec hlegacy (hplain t .self)
    intro u hu w
    have hpart : u.HasNoComplement := fun node hnode => hplain node (.part hu hnode)
    exact ih u hu hpart (depth + 1) w

/-- **The older rules for omitted fields only add matches where nothing is complemented.**  Let no
node of a template be a complemented list.  A value that matches it under the newer rules is not
refused under the older ones, with any codec and without one: it matches, or matching fails.  And
where the template accepts an omitted field under the newer rules it does so under the older
ones. -/
theorem isMatch_legacy_of_isMatch {t : Template} (hplain : t.HasNoComplement)
    (codec : Option Codec) (v : Value) :
    (t.isMatch { isLegacy := false, codec } v = .ok true →
      t.isMatch { isLegacy := true, codec } v = .ok true ∨
        ∃ e, t.isMatch { isLegacy := true, codec } v = .error e) ∧
      (t.matchesOmit false = true → t.matchesOmit true = true) := by
  refine ⟨fun hmatch => ?_, matchesOmit_legacy⟩
  let older : MatchContext := { isLegacy := true, codec }
  let newer : MatchContext := { isLegacy := false, codec }
  have hcodec : newer.codec = older.codec := rfl
  have hkept : t.isMatch older v ≠ .ok false :=
    matchAt_keepsMatch_of_hasNoComplement hcodec ⟨rfl, rfl⟩ hplain 0 v hmatch
  cases hanswer : t.isMatch { isLegacy := true, codec } v with
  | error e => exact .inr ⟨e, rfl⟩
  | ok answer =>
    cases answer with
    | true => exact .inl rfl
    | false => exact absurd hanswer hkept

/-- A record whose note may be left out under the older rules, and whose rest was never said. -/
def unsaid : Template := .ofSelector (.record .record [
  .mk "note" (.ofSelector (.valueList [.ofSelector .omit])),
  .mk "rest" (.ofSelector .uninitialized)])

/-- Two alternatives, of which the second is any value. -/
def unsaidOrAny : Template := .ofSelector (.valueList [unsaid, .ofSelector .any])

theorem unsaidOrAny_hasNoComplement : unsaidOrAny.HasNoComplement := by
  have homit : (ofSelector .omit).HasNoComplement := .of_parts nofun nofun
  have hany : (ofSelector .any).HasNoComplement := .of_parts nofun nofun
  have huninitialized : (ofSelector .uninitialized).HasNoComplement := .of_parts nofun nofun
  have hnote : (ofSelector (.valueList [ofSelector .omit])).HasNoComplement :=
    .of_parts nofun (List.forall_mem_singleton.mpr homit)
  have hunsaid : unsaid.HasNoComplement :=
    .of_parts nofun (List.forall_mem_cons.mpr ⟨hnote, List.forall_mem_singleton.mpr huninitialized⟩)
  exact .of_parts nofun (List.forall_mem_cons.mpr ⟨hunsaid, List.forall_mem_singleton.mpr hany⟩)

/-- A record without its note matches the second alternative under the newer rules; under the older
ones the first alternative goes on to the rest, and fails. -/
theorem isMatch_legacy_of_isMatch_unsaidOrAny :
    unsaidOrAny.isMatch { isLegacy := false } withoutNote = .ok true ∧
      (unsaidOrAny.isMatch { isLegacy := true } withoutNote = .ok true ∨
        ∃ e, unsaidOrAny.isMatch { isLegacy := true } withoutNote = .error e) ∧
      unsaidOrAny.isMatch { isLegacy := true } withoutNote = .error .uninitializedTemplate := by
  have hmatch : unsaidOrAny.isMatch { isLegacy := false } withoutNote = .ok true := rfl
  have hlater := isMatch_legacy_of_isMatch unsaidOrAny_hasNoComplement none withoutNote
  exact ⟨hmatch, hlater.1 hmatch, rfl⟩

end Template

end TestSpec
