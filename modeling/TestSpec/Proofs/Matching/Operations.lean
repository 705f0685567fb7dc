import TestSpec.Codec
import TestSpec.Matching
import TestSpec.Proofs.Document.Template

/-!
# Operations that have an answer

Operations on values fail where they are misused.  A value that has the form its type
calls for (`Store.Shaped`) is not misused by what the kind of the type admits: it can be
compared, it has a length, an encoded form or a text where the kind has one, and it
lies in a range or not where the kind is ordered.

The raw codec gives values of the form that their target calls for; their kind may be
another one of the same TTCN-3 view.
-/

namespace TestSpec

/-! ### Content -/

namespace Scalar

variable {content : Scalar} {k : Kind}

theorem exists_length (h : content.fits k = true) (hk : k.hasLength = true) :
    ∃ n, content.length? = some n := by
  unfold fits at h
  split at h
  all_goals first | exact ⟨_, rfl⟩ | exact absurd hk (by decide) | cases h

theorem exists_octets (h : content.fits k = true) (hk : k.isString = true) :
    ∃ octets, content.octets? = some octets := by
  unfold fits at h
  split at h
  all_goals first | exact ⟨_, rfl⟩ | exact absurd hk (by decide) | cases h

theorem exists_text (h : content.fits k = true) (hk : k.isCharacterString = true) :
    ∃ text, content = .text text := by
  unfold fits at h
  split at h
  all_goals first | exact ⟨_, rfl⟩ | exact absurd hk (by decide) | cases h

/-- Content without parts fits no kind whose values have parts. -/
theorem simple_of_fits (h : content.fits k.ttcn3View = true) :
    k.isRecordLike = false ∧ k.isSetLike = false ∧ k.isUnionLike = false ∧ k.isList = false := by
  have hview {k : Kind} (h : content.fits k = true) : k.isRecordLike = false ∧
      k.isSetLike = false ∧ k.isUnionLike = false ∧ k.isList = false := by
    unfold fits at h
    split at h
    all_goals first | decide | cases h
  obtain ⟨hrecord, hset, hunion, hlist, -⟩ := k.classes_ttcn3View
  rw [← hrecord, ← hset, ← hunion, ← hlist]
  exact hview h

/-- Content of an ordered kind that is no character string is a number. -/
theorem eq_number (h : content.fits k = true) (hk : k.isOrdered = true)
    (htext : k.isCharacterString = false) :
    (k = .integer ∧ ∃ i, content = .integer i) ∨ (k = .real ∧ ∃ x, content = .real x) := by
  unfold fits at h
  split at h
  all_goals first
    | exact .inl ⟨rfl, _, rfl⟩
    | exact .inr ⟨rfl, _, rfl⟩
    | exact absurd hk (by decide)
    | exact absurd htext (by decide)
    | cases h

end Scalar

theorem Binary64.exists_compare {x y : Binary64} (hx : x ≠ .nan) (hy : y ≠ .nan) :
    ∃ o, x.compare? y = some o := by
  have hplace {z : Binary64} (hz : z ≠ .nan) : ∃ i, z.place? = some i := by
    cases z with
    | nan => exact absurd rfl hz
    | infinite negative => exact ⟨_, rfl⟩
    | finite negative significand exponent => exact ⟨_, rfl⟩
  obtain ⟨i, hi⟩ := hplace hx
  obtain ⟨j, hj⟩ := hplace hy
  exact ⟨compare i j, by simp [compare?, hi, hj]⟩

namespace Value

/-! ### Comparison -/

theorem fieldsFullyBound_iff {fields : List FieldValue} :
    fieldsFullyBound fields = true ↔ ∀ f ∈ fields, ∀ v ∈ f.value?, v.isFullyBound = true := by
  induction fields with
  | nil => simp [fieldsFullyBound]
  | cons f rest ih => cases f <;> simp [fieldsFullyBound, FieldValue.value?, ih]

theorem elementsFullyBound_iff {elements : List Value} :
    elementsFullyBound elements = true ↔ ∀ v ∈ elements, v.isFullyBound = true := by
  induction elements with
  | nil => simp [elementsFullyBound]
  | cons v rest ih => simp [elementsFullyBound, ih]

mutual

/-- Values all parts of which are bound can be compared. -/
theorem equals_ok : (a b : Value) → a.isFullyBound = true → b.isFullyBound = true →
    ∃ answer, a.equals b = .ok answer
  | .unbound _, _, ha, _ => by cases ha
  | .scalar _ _, b, _, hb => by
    cases b with
    | unbound => cases hb
    | _ => exact ⟨_, rfl⟩
  | .record _ as, b, ha, hb => by
    cases b with
    | unbound => cases hb
    | record kind bs =>
      rw [equals]
      split
      · exact equalFields_ok as bs ha hb
      · exact ⟨false, rfl⟩
    | _ => exact ⟨_, rfl⟩
  | .union _ _ a, b, ha, hb => by
    cases b with
    | unbound => cases hb
    | union kind alternative b =>
      rw [equals]
      split
      · exact equals_ok a b ha hb
      · exact ⟨false, rfl⟩
    | _ => exact ⟨_, rfl⟩
  | .list _ as, b, ha, hb => by
    cases b with
    | unbound => cases hb
    | list kind bs =>
      rw [equals]
      split
      · exact equalElements_ok as bs ha hb
      · exact ⟨false, rfl⟩
    | _ => exact ⟨_, rfl⟩

/-- Fields all values of which are bound can be compared. -/
theorem equalFields_ok : (as bs : List FieldValue) → fieldsFullyBound as = true →
    fieldsFullyBound bs = true → ∃ answer, equalFields as bs = .ok answer
  | [], [], _, _ | [], _ :: _, _, _ | .present _ _ :: _, [], _, _ | .omitted _ :: _, [], _, _
  | .present _ _ :: _, .omitted _ :: _, _, _ | .omitted _ :: _, .present _ _ :: _, _, _ =>
    ⟨_, rfl⟩
  | .present m a :: as, .present n b :: bs, ha, hb => by
    simp only [fieldsFullyBound, Bool.and_eq_true] at ha hb
    rw [equalFields]
    split
    · obtain ⟨answer, hanswer⟩ := equals_ok a b ha.1 hb.1
      rw [hanswer]
      cases answer with
      | true => exact equalFields_ok as bs ha.2 hb.2
      | false => exact ⟨false, rfl⟩
    · exact ⟨false, rfl⟩
  | .omitted m :: as, .omitted n :: bs, ha, hb => by
    rw [equalFields]
    split
    · exact equalFields_ok as bs ha hb
    · exact ⟨false, rfl⟩

/-- Elements all of which are bound can be compared. -/
theorem equalElements_ok : (as bs : List Value) → elementsFullyBound as = true →
    elementsFullyBound bs = true → ∃ answer, equalElements as bs = .ok answer
  | [], [], _, _ | [], _ :: _, _, _ | _ :: _, [], _, _ => ⟨_, rfl⟩
  | a :: as, b :: bs, ha, hb => by
    simp only [elementsFullyBound, Bool.and_eq_true] at ha hb
    rw [equalElements]
    obtain ⟨answer, hanswer⟩ := equals_ok a b ha.1 hb.1
    rw [hanswer]
    cases answer with
    | true => exact equalElements_ok as bs ha.2 hb.2
    | false => exact ⟨false, rfl⟩

end

end Value

/-! ### Values of the form that a type calls for -/

namespace Store.Shaped

variable {s : Store} {R : Kind → Kind → Prop} {isNumeric : Bool} {type last : TypeId} {v : Value}

theorem exists_last (h : s.Shaped R isNumeric type v) :
    ∃ last, s.resolveAlias? type = some last := by
  cases h <;> exact ⟨_, by assumption⟩

/-- How the kind of a value goes with the kind of its type may be told more loosely. -/
theorem mono {R' : Kind → Kind → Prop} (hR : ∀ k k', R k k' → R' k k')
    (h : s.Shaped R isNumeric type v) : s.Shaped R' isNumeric type v := by
  induction h with
  | scalar hlast hkind hcontent hnumber => exact .scalar hlast (hR _ _ hkind) hcontent hnumber
  | record hlast hkind hform hfields _ ih => exact .record hlast (hR _ _ hkind) hform hfields ih
  | union hlast hkind hform hfield _ ih => exact .union hlast (hR _ _ hkind) hform hfield ih
  | list hlast hkind hform helement _ ih => exact .list hlast (hR _ _ hkind) hform helement ih

/-- A value that has the form of a type has no unbound part. -/
theorem isFullyBound (h : s.Shaped R isNumeric type v) : v.isFullyBound = true := by
  induction h with
  | scalar => rfl
  | record _ _ _ hfields _ ih =>
    refine Value.fieldsFullyBound_iff.mpr fun f hf value hvalue => ?_
    obtain ⟨t, ht⟩ := Option.isSome_iff_exists.mp (hfields f hf)
    cases f with
    | present name w =>
      obtain rfl := Option.some.inj hvalue
      exact ih name w t hf ht
    | omitted name => cases hvalue
  | union _ _ _ _ _ ih => exact ih
  | list _ _ _ _ _ ih => exact Value.elementsFullyBound_iff.mpr ih

theorem isBound (h : s.Shaped R isNumeric type v) : v.isBound = true := by
  cases h <;> rfl

/-- What a value that has the form of a type can be, by the kind at the end of the alias chain. -/
theorem forms (h : s.Shaped Kind.SameView true type v) (hlast : s.resolveAlias? type = some last) :
    (∃ kind content, v = .scalar kind content ∧ kind.SameView (s.get last).kind ∧
        content.fits (s.get last).kind.ttcn3View = true ∧ content ≠ .real .nan) ∨
      (((s.get last).kind.isRecordLike || (s.get last).kind.isSetLike) = true ∧
        ∃ kind fields, v = .record kind fields) ∨
      ((s.get last).kind.isUnionLike = true ∧
        ∃ kind alternative value, v = .union kind alternative value) ∨
      ((s.get last).kind.isList = true ∧ ∃ kind elements, v = .list kind elements) := by
  cases h with
  | scalar hlast' hkind hcontent hnumber =>
    obtain rfl := Option.some.inj (hlast'.symm.trans hlast)
    rw [show _ = _ from hkind] at hcontent
    exact .inl ⟨_, _, rfl, hkind, hcontent, hnumber rfl⟩
  | record hlast' hkind hform _ _ =>
    obtain rfl := Option.some.inj (hlast'.symm.trans hlast)
    obtain ⟨hrecord, hset, -⟩ := Kind.SameView.classes hkind
    rw [hrecord, hset] at hform
    exact .inr (.inl ⟨hform, _, _, rfl⟩)
  | union hlast' hkind hform _ _ =>
    obtain rfl := Option.some.inj (hlast'.symm.trans hlast)
    obtain ⟨-, -, hunion, -⟩ := Kind.SameView.classes hkind
    rw [hunion] at hform
    exact .inr (.inr (.inl ⟨hform, _, _, _, rfl⟩))
  | list hlast' hkind hform _ _ =>
    obtain rfl := Option.some.inj (hlast'.symm.trans hlast)
    obtain ⟨-, -, -, hlist, -⟩ := Kind.SameView.classes hkind
    rw [hlist] at hform
    exact .inr (.inr (.inr ⟨hform, _, _, rfl⟩))

section

variable (h : s.Shaped Kind.SameView true type v) (hlast : s.resolveAlias? type = some last)

include h hlast

/-- A value of a record or set has fields. -/
theorem exists_fields
    (hform : ((s.get last).kind.isRecordLike || (s.get last).kind.isSetLike) = true) :
    ∃ kind fields, v = .record kind fields := by
  have hclass := (s.get last).kind.class_cases
  rcases h.forms hlast with ⟨_, _, -, -, hfits, -⟩ | ⟨-, hv⟩ | ⟨hunion, -⟩ | ⟨hlist, -⟩
  · have hsimple := Scalar.simple_of_fits hfits
    simp_all
  · exact hv
  · simp_all
  · simp_all

/-- A value of a union has an alternative. -/
theorem exists_alternative (hform : (s.get last).kind.isUnionLike = true) :
    ∃ kind alternative value, v = .union kind alternative value := by
  have hclass := (s.get last).kind.class_cases
  rcases h.forms hlast with ⟨_, _, -, -, hfits, -⟩ | ⟨hfields, -⟩ | ⟨-, hv⟩ | ⟨hlist, -⟩
  · have hsimple := Scalar.simple_of_fits hfits
    simp_all
  · simp_all
  · exact hv
  · simp_all

/-- A value of a list type has elements. -/
theorem exists_elements (hform : (s.get last).kind.isList = true) :
    ∃ kind elements, v = .list kind elements := by
  have hclass := (s.get last).kind.class_cases
  rcases h.forms hlast with ⟨_, _, -, -, hfits, -⟩ | ⟨hfields, -⟩ | ⟨hunion, -⟩ | ⟨-, hv⟩
  · have hsimple := Scalar.simple_of_fits hfits
    simp_all
  · simp_all
  · simp_all
  · exact hv

/-- A value of a kind of strings, or of an ordered one, has content without parts. -/
theorem exists_content
    (hform : ((s.get last).kind.isString || (s.get last).kind.isOrdered) = true) :
    ∃ kind content, v = .scalar kind content ∧ kind.SameView (s.get last).kind ∧
      content.fits (s.get last).kind.ttcn3View = true ∧ content ≠ .real .nan := by
  obtain ⟨hrecord, hset, hunion, hlist⟩ := Kind.simple_of_isString_or_isOrdered hform
  rcases h.forms hlast with hv | ⟨hfields, -⟩ | ⟨hunion', -⟩ | ⟨hlist', -⟩
  · exact hv
  · simp_all
  · simp_all
  · simp_all

/-- A value of a kind whose values have a length has one. -/
theorem exists_length (hkind : (s.get last).kind.hasLength = true) : ∃ n, v.length = .ok n := by
  obtain ⟨hrecord, hset, hunion⟩ := Kind.unnamed_of_hasLength hkind
  rcases h.forms hlast with ⟨kind, content, rfl, -, hfits, -⟩ | ⟨hfields, -⟩ | ⟨hunion', -⟩ |
    ⟨-, _, elements, rfl⟩
  · obtain ⟨n, hn⟩ := Scalar.exists_length hfits ((Kind.traits_ttcn3View _).1 hkind)
    exact ⟨n, by simp [Value.length, hn]⟩
  · simp_all
  · simp_all
  · exact ⟨elements.length, rfl⟩

/-- A string has an encoded form. -/
theorem exists_octets (hkind : (s.get last).kind.isString = true) :
    ∃ octets, v.octets = .ok octets := by
  obtain ⟨kind, content, rfl, -, hfits, -⟩ := h.exists_content hlast (by simp [hkind])
  obtain ⟨octets, hoctets⟩ := Scalar.exists_octets hfits ((Kind.traits_ttcn3View _).2 hkind)
  exact ⟨octets, by simp [Value.octets, hoctets]⟩

/-- A character string has a text. -/
theorem exists_string (hkind : (s.get last).kind.isCharacterString = true) :
    ∃ text, v.string = .ok text := by
  obtain ⟨kind, content, rfl, -, hfits, -⟩ :=
    h.exists_content hlast (by simp [Kind.isString, hkind])
  obtain ⟨-, -, -, -, hview, -⟩ := (s.get last).kind.classes_ttcn3View
  obtain ⟨text, rfl⟩ := Scalar.exists_text hfits (hview.trans hkind)
  exact ⟨text, rfl⟩

/-- Two numbers that have the form of one ordered type have an order. -/
theorem exists_order {w : Value} (hw : s.Shaped Kind.SameView true type w)
    (hordered : (s.get last).kind.isOrdered = true)
    (htext : (s.get last).kind.isCharacterString = false) : ∃ o, v.order w = .ok o := by
  obtain ⟨-, -, -, -, htextView, horderedView⟩ := (s.get last).kind.classes_ttcn3View
  have hnumber {content : Scalar} (hfits : content.fits (s.get last).kind.ttcn3View = true) :=
    Scalar.eq_number hfits (horderedView.trans hordered) (htextView.trans htext)
  obtain ⟨_, x, rfl, -, hx, hx'⟩ := h.exists_content hlast (by simp [hordered])
  obtain ⟨_, y, rfl, -, hy, hy'⟩ := hw.exists_content hlast (by simp [hordered])
  have horder : ∃ o, Value.scalarOrder? (some x) (some y) = some o := by
    rcases hnumber hx with ⟨hview, i, rfl⟩ | ⟨hview, x, rfl⟩ <;>
      rcases hnumber hy with ⟨hview', j, rfl⟩ | ⟨hview', y, rfl⟩
    · exact ⟨_, rfl⟩
    · exact absurd (hview.symm.trans hview') (by decide)
    · exact absurd (hview.symm.trans hview') (by decide)
    · exact Binary64.exists_compare (fun heq => hx' (by rw [heq])) fun heq => hy' (by rw [heq])
  obtain ⟨o, ho⟩ := horder
  exact ⟨o, by simp [Value.order, Value.scalarFor, ho]⟩

end

end Store.Shaped

/-! ### Ranges -/

/-- A bound that is a character string is a character. -/
theorem Bound.exists_charLimit {b : Bound} {text : String} (htext : b.value.string = .ok text)
    (hlimit : b.IsLimit) : ∃ c, b.charLimit = .ok c := by
  have hlength := hlimit text htext
  rw [← String.length_toList, List.length_eq_one_iff] at hlength
  obtain ⟨c, hc⟩ := hlength
  exact ⟨⟨c, b.isExclusive⟩, by simp [charLimit, htext, onlyChar?, hc]⟩

theorem Bound.exists_charLimit? {b : Option Bound}
    (h : ∀ c ∈ b, (∃ text, c.value.string = .ok text) ∧ c.IsLimit) :
    ∃ l, Bound.charLimit? b = .ok l := by
  cases b with
  | none => exact ⟨none, rfl⟩
  | some b =>
    obtain ⟨⟨text, htext⟩, hlimit⟩ := h b rfl
    obtain ⟨c, hc⟩ := b.exists_charLimit htext hlimit
    exact ⟨some c, by simp [charLimit?, hc, Except.map]⟩

namespace ValueRange

variable {s : Store} {type last : TypeId} {r : ValueRange} {v : Value}

theorem lower_mem {b : Bound} (h : b ∈ r.lower) : b ∈ r.bounds :=
  List.mem_append_left _ (Option.mem_toList.mpr h)

theorem upper_mem {b : Bound} (h : b ∈ r.upper) : b ∈ r.bounds :=
  List.mem_append_right _ (Option.mem_toList.mpr h)

/-- A value of an ordered type lies in a range of values of the type, or it does not. -/
theorem isMatch_ok (hv : s.Shaped Kind.SameView true type v)
    (hlast : s.resolveAlias? type = some last) (hordered : (s.get last).kind.isOrdered = true)
    (hbounds : ∀ b ∈ r.bounds, s.Shaped Kind.SameView true type b.value ∧ b.IsLimit) :
    ∃ answer, r.isMatch v = .ok answer := by
  obtain ⟨kind, content, hcontent, hview, -⟩ := hv.exists_content hlast (by simp [hordered])
  obtain ⟨-, -, -, -, htext, horder⟩ := hview.classes
  have hkind : v.kind = kind := by rw [hcontent]; rfl
  unfold isMatch
  rw [hkind, htext, horder, hordered]
  cases hstring : (s.get last).kind.isCharacterString with
  | true =>
    have hlimit {b : Bound} (hb : b ∈ r.bounds) :
        (∃ text, b.value.string = .ok text) ∧ b.IsLimit :=
      ⟨(hbounds b hb).1.exists_string hlast hstring, (hbounds b hb).2⟩
    obtain ⟨lower, hlower⟩ := Bound.exists_charLimit? fun b hb => hlimit (r.lower_mem hb)
    obtain ⟨upper, hupper⟩ := Bound.exists_charLimit? fun b hb => hlimit (r.upper_mem hb)
    obtain ⟨text, htext⟩ := hv.exists_string hlast hstring
    simp only [if_true, matchesText, hlower, hupper, htext]
    exact ⟨_, rfl⟩
  | false =>
    have hbound {b : Bound} (hb : b ∈ r.bounds) : ∃ o, b.value.order v = .ok o :=
      (hbounds b hb).1.exists_order hlast hv hordered hstring
    have habove : ∃ answer, r.lower.elim (.ok true) (·.admitsAbove v) = .ok answer := by
      cases hlower : r.lower with
      | none => exact ⟨true, rfl⟩
      | some b =>
        obtain ⟨o, ho⟩ := hbound (r.lower_mem hlower)
        rw [Option.elim_some, Bound.admitsAbove, ho]
        exact ⟨_, rfl⟩
    have hbelow : ∃ answer, r.upper.elim (.ok true) (·.admitsBelow v) = .ok answer := by
      cases hupper : r.upper with
      | none => exact ⟨true, rfl⟩
      | some b =>
        obtain ⟨o, ho⟩ := hbound (r.upper_mem hupper)
        rw [Option.elim_some, Bound.admitsBelow, ho]
        exact ⟨_, rfl⟩
    obtain ⟨above, habove⟩ := habove
    obtain ⟨below, hbelow⟩ := hbelow
    simp only [Bool.false_eq_true, if_false, if_true, matchesOrdered, habove, hbelow]
    exact ⟨_, rfl⟩

end ValueRange

/-! ### Decoded content -/

namespace Codec

/-- What the raw codec decodes is content without parts, which fits the kind of the target. -/
theorem raw_eq_ok {octets : List UInt8} {target : DecodeTarget} {v : Value}
    (h : raw octets target = .ok v) :
    ∃ kind content, v = .scalar kind content ∧ kind.SameView target.kind ∧
      content.fits kind.ttcn3View = true ∧ content ≠ .real .nan := by
  have hsame {k : Kind} (hview : target.kind.ttcn3View = k) (hself : k.ttcn3View = k) :
      k.SameView target.kind := hself.trans hview.symm
  unfold raw at h
  split at h
  · rename_i hview
    cases h
    exact ⟨_, _, rfl, hsame hview rfl, rfl, by simp⟩
  · rename_i hview
    have hboolean : ∃ b, v = Value.boolean b := by
      unfold decodeBoolean at h
      split at h
      · cases h
      · split at h
        · cases h
          exact ⟨_, rfl⟩
        split at h <;> cases h
        exact ⟨_, rfl⟩
      · cases h
    obtain ⟨b, rfl⟩ := hboolean
    exact ⟨_, _, rfl, hsame hview rfl, rfl, by simp⟩
  · rename_i hview
    have hinteger : ∃ i, v = Value.integer i := by
      unfold decodeInteger at h
      split at h
      · cases h
      · split at h <;> cases h
        exact ⟨_, rfl⟩
    obtain ⟨i, rfl⟩ := hinteger
    exact ⟨_, _, rfl, hsame hview rfl, rfl, by simp⟩
  · rename_i hview
    cases h
    exact ⟨_, _, rfl, hsame hview rfl, rfl, by simp⟩
  · split at h
    · rename_i hstring
      obtain ⟨-, -, -, -, htext, -⟩ := target.kind.classes_ttcn3View
      rw [htext] at hstring
      have hvalue : ∃ text, v = Value.text target.kind text := by
        unfold decodeText at h
        split at h
        · split at h <;> cases h
          exact ⟨_, rfl⟩
        · cases h
      obtain ⟨text, rfl⟩ := hvalue
      refine ⟨_, _, rfl, rfl, ?_, by simp⟩
      rcases Kind.ttcn3View_of_isCharacterString hstring with hview | hview <;>
        rw [hview] <;> rfl
    · cases h

/-- A value that the raw codec decodes for a type has the form that the type calls for. -/
theorem raw_shaped {s : Store} {octets : List UInt8} {target : DecodeTarget} {t : TypeId}
    {v : Value} (htarget : target.kind = (s.resolvedKind t).1) (h : raw octets target = .ok v) :
    s.Shaped Kind.SameView true t v := by
  obtain ⟨kind, content, rfl, hview, hfits, hnumber⟩ := raw_eq_ok h
  rw [htarget] at hview
  cases hlast : s.resolveAlias? t with
  | some last =>
    rw [Store.resolvedKind_eq hlast] at hview
    exact .scalar hlast hview hfits fun _ => hnumber
  | none =>
    -- an unresolved type counts as undefined, and nothing fits that kind
    rw [Store.resolvedKind, hlast] at hview
    rw [show kind.ttcn3View = .undefined from hview] at hfits
    cases content <;> cases hfits

end Codec

end TestSpec
