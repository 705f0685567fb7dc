import TestSpec.Document.Value
import TestSpec.Proofs.Json.Numeric
import TestSpec.Proofs.Kind.Table
import TestSpec.Proofs.Store.Stamp

/-!
# The shape of a value that is read for a type

Kinds and content of a value are independent, but a value that is read from a
document has content of the sort that the kind of its type calls for, and so have
its parts.  `Store.Shaped` says this of a type and a value.  It leaves open how the
kind of a value goes with the kind of its type: a value read for a type has the
same kind, and a value that a codec decodes has one of the same TTCN-3 view.

Main statement: `Document.readValue_shaped`.  A number in a value is a number if all
numbers of the document are (`Json.isNumeric`); JSON has no notation for others.
-/

namespace TestSpec

/-- Content of the sort that values of a kind hold; the kind is the TTCN-3 view of theirs. -/
def Scalar.fits : Scalar → Kind → Bool
  | .null, .null | .boolean _, .boolean | .integer _, .integer | .real _, .real
  | .verdict _, .verdict | .bits _, .bitstring | .nibbles _, .hexstring | .octets _, .octetstring
  | .text _, .charstring | .text _, .universalCharstring | .enumerated _ _, .enumerated
  | .objectId _, .objectIdentifier | .objectId _, .relativeOid => true
  | _, _ => false

/-- Only enumerated types hold enumerators. -/
theorem Scalar.isEnumerated_of_fits {name : String} {ordinal : Int64} {k : Kind}
    (h : (Scalar.enumerated name ordinal).fits k.ttcn3View = true) : k.isEnumerated = true := by
  cases k <;> first | rfl | cases h

/-- A value has the form that a type calls for: content that fits its kind, fields and
alternatives that the type has, elements of the type of elements, and parts of the form that
their types call for.  The kind of each value goes with the kind of its type by `R`.  If
`isNumeric`, each real is a number. -/
inductive Store.Shaped (s : Store) (R : Kind → Kind → Prop) (isNumeric : Bool) :
    TypeId → Value → Prop
  | scalar {type last : TypeId} {kind : Kind} {content : Scalar}
      (hlast : s.resolveAlias? type = some last) (hkind : R kind (s.get last).kind)
      (hcontent : content.fits kind.ttcn3View = true)
      (hnumber : isNumeric = true → content ≠ .real .nan) :
      Shaped s R isNumeric type (.scalar kind content)
  | record {type last : TypeId} {kind : Kind} {fields : List FieldValue}
      (hlast : s.resolveAlias? type = some last) (hkind : R kind (s.get last).kind)
      (hform : (kind.isRecordLike || kind.isSetLike) = true)
      (hfields : ∀ f ∈ fields, (s.fieldType type f.name).isSome = true)
      (hvalues : ∀ name value t, FieldValue.present name value ∈ fields →
        s.fieldType type name = some t → Shaped s R isNumeric t value) :
      Shaped s R isNumeric type (.record kind fields)
  | union {type last t : TypeId} {kind : Kind} {alternative : String} {value : Value}
      (hlast : s.resolveAlias? type = some last) (hkind : R kind (s.get last).kind)
      (hform : kind.isUnionLike = true) (hfield : s.fieldType type alternative = some t)
      (hvalue : Shaped s R isNumeric t value) :
      Shaped s R isNumeric type (.union kind alternative value)
  | list {type last t : TypeId} {kind : Kind} {elements : List Value}
      (hlast : s.resolveAlias? type = some last) (hkind : R kind (s.get last).kind)
      (hform : kind.isList = true) (helement : s.elementType type = some t)
      (helements : ∀ value ∈ elements, Shaped s R isNumeric t value) :
      Shaped s R isNumeric type (.list kind elements)

/-- Check stamps have no part in the form that a type calls for. -/
theorem Store.Shaped.congr {s s' : Store} (hsame : s.unstamped = s'.unstamped)
    {R : Kind → Kind → Prop} {isNumeric : Bool} {type : TypeId} {v : Value}
    (h : s.Shaped R isNumeric type v) : s'.Shaped R isNumeric type v := by
  induction h with
  | scalar hlast hkind hcontent hnumber =>
    rw [resolveAlias?_congr hsame] at hlast
    rw [kind_congr hsame] at hkind
    exact .scalar hlast hkind hcontent hnumber
  | record hlast hkind hform hfields _ ih =>
    rw [resolveAlias?_congr hsame] at hlast
    rw [kind_congr hsame] at hkind
    simp only [fieldType_congr hsame] at hfields ih
    exact .record hlast hkind hform hfields ih
  | union hlast hkind hform hfield _ ih =>
    rw [resolveAlias?_congr hsame] at hlast
    rw [kind_congr hsame] at hkind
    rw [fieldType_congr hsame] at hfield
    exact .union hlast hkind hform hfield ih
  | list hlast hkind hform helement _ ih =>
    rw [resolveAlias?_congr hsame] at hlast
    rw [kind_congr hsame] at hkind
    rw [elementType_congr hsame] at helement
    exact .list hlast hkind hform helement ih

namespace Document

theorem resolveAlias_eq_ok {s : Store} {type last : TypeId} :
    (s.resolveAlias type).mapError Failure.unresolved = .ok last ↔
      s.resolveAlias? type = some last := by
  simp only [Store.resolveAlias?]
  rw [mapError_eq_ok]
  cases s.resolveAlias type <;> simp

theorem expect_eq_ok {α : Type} {form : ValueForm} {type : String} {x : Option α} {a : α} :
    expect form type x = .ok a ↔ x = some a := by
  cases x <;> simp [expect]

/-- Content that is read for a declaration fits its kind. -/
theorem readScalar?_fits {d : Declaration} {type : String} {j : Json} {r : Except Failure Scalar}
    {content : Scalar} (h : readScalar? d type j = some r) (hr : r = .ok content) :
    content.fits d.kind.ttcn3View = true ∧ (j.isNumeric = true → content ≠ .real .nan) := by
  subst hr
  simp only [readScalar?] at h
  split at h
  all_goals
    rename_i hkind
    try simp only [Option.some.injEq, map_eq_ok, bind_eq_ok, pure_eq_ok, expect_eq_ok] at h
  case h_1 =>
    split at h
    · cases h
      simp [hkind, Kind.ttcn3View, Scalar.fits]
    · cases h
  case h_5 =>
    obtain ⟨x, hx, rfl⟩ := h
    refine ⟨by simp [hkind, Kind.ttcn3View, Scalar.fits], ?_⟩
    intro hj heq
    exact Json.binary64?_ne_nan hj hx (Scalar.real.inj heq)
  case h_6 =>
    obtain ⟨word, -, hword⟩ := h
    cases hv : Verdict.ofWord? word with
    | none => simp [hv] at hword
    | some v =>
      simp only [hv, Option.elim_some, Except.ok.injEq] at hword
      subst hword
      simp [hkind, Kind.ttcn3View, Scalar.fits]
  case h_15 =>
    split at h
    · rename_i hstring
      simp only [Option.some.injEq, map_eq_ok] at h
      obtain ⟨text, -, rfl⟩ := h
      rcases Kind.ttcn3View_of_isCharacterString hstring with hview | hview <;>
        simp [hview, Scalar.fits]
    · cases h
  case h_7 | h_8 | h_9 | h_10 | h_11 | h_12 =>
    obtain ⟨_, -, _, -, rfl⟩ := h
    simp [hkind, Kind.ttcn3View, Scalar.fits]
  all_goals
    obtain ⟨_, -, rfl⟩ := h
    simp [hkind, Kind.ttcn3View, Scalar.fits]

/-- What a value that is read can be: content without parts, the fields of a record or set, the
alternative of a union, or the elements of a list. -/
theorem readValue_cases {s : Store} {type : TypeId} {j : Json} {v : Value}
    (h : readValue s type j = .ok v) : ∃ last, s.resolveAlias? type = some last ∧
      ((∃ content, readScalar? (s.get last) (s.name type) j = some (.ok content) ∧
          v = .scalar (s.get last).kind content) ∨
        (∃ members fields, j = .object members ∧
          ((s.get last).kind.isRecordLike || (s.get last).kind.isSetLike) = true ∧
          readFields s last (s.name type) members = .ok fields ∧
          v = .record (s.get last).kind fields) ∨
        (∃ members, j = .object members ∧ (s.get last).kind.isUnionLike = true ∧
          readAlternative s last (s.get last).kind (s.name type) members = .ok v) ∨
        ∃ items t elements, j = .array items ∧ (s.get last).kind.isList = true ∧
          s.elementType last = some t ∧ readElements s t items = .ok elements ∧
          v = .list (s.get last).kind elements) := by
  rw [readValue.eq_1] at h
  obtain ⟨last, hlast, hbody⟩ := bind_eq_ok.mp h
  refine ⟨last, resolveAlias_eq_ok.mp hlast, ?_⟩
  clear h
  dsimp only at hbody
  split at hbody
  · rename_i r hr
    obtain ⟨content, rfl, hv⟩ := bind_eq_ok.mp hbody
    exact .inl ⟨content, hr, (pure_eq_ok.mp hv).symm⟩
  split at hbody
  · rename_i hform
    cases j with
    | object members =>
      obtain ⟨fields, hfields, hv⟩ := bind_eq_ok.mp hbody
      exact .inr (.inl ⟨members, fields, rfl, hform, hfields, (pure_eq_ok.mp hv).symm⟩)
    | _ => cases hbody
  split at hbody
  · rename_i hform
    cases j with
    | object members => exact .inr (.inr (.inl ⟨members, rfl, hform, hbody⟩))
    | _ => cases hbody
  split at hbody
  · rename_i hform
    split at hbody
    · cases hbody
    rename_i t ht
    cases j with
    | array items =>
      obtain ⟨elements, helements, hv⟩ := bind_eq_ok.mp hbody
      exact .inr (.inr (.inr
        ⟨items, t, elements, rfl, hform, ht, helements, (pure_eq_ok.mp hv).symm⟩))
    | _ => cases hbody
  · cases hbody

mutual

/-- A value that is read for a type has the form that the type calls for, and the same kind. -/
theorem readValue_shaped {s : Store} {isNumeric : Bool} {type : TypeId} {v : Value} :
    (j : Json) → (isNumeric = true → j.isNumeric = true) → readValue s type j = .ok v →
      s.Shaped Eq isNumeric type v
  | .null, hj, h | .boolean _, hj, h | .integer _, hj, h | .real _, hj, h | .string _, hj, h => by
    obtain ⟨last, hlast, ⟨content, hcontent, rfl⟩ | ⟨_, _, hform, -⟩ | ⟨_, hform, -⟩ |
      ⟨_, _, _, hform, -⟩⟩ := readValue_cases h
    · obtain ⟨hfits, hnumber⟩ := readScalar?_fits hcontent rfl
      exact .scalar hlast rfl hfits fun hn => hnumber (hj hn)
    · cases hform
    · cases hform
    · cases hform
  | .array items, hj, h => by
    obtain ⟨last, hlast, ⟨content, hcontent, rfl⟩ | ⟨_, _, hform, -⟩ | ⟨_, hform, -⟩ |
      ⟨_, t, elements, heq, hform, ht, helements, rfl⟩⟩ := readValue_cases h
    · obtain ⟨hfits, hnumber⟩ := readScalar?_fits hcontent rfl
      exact .scalar hlast rfl hfits fun hn => hnumber (hj hn)
    · cases hform
    · cases hform
    · cases heq
      rw [Json.isNumeric] at hj
      rw [Store.elementType_last hlast] at ht
      exact .list hlast rfl hform ht (readElements_shaped items hj helements)
  | .object members, hj, h => by
    obtain ⟨last, hlast, ⟨content, hcontent, rfl⟩ | ⟨_, fields, heq, hform, hfields, rfl⟩ |
      ⟨_, heq, hform, halternative⟩ | ⟨_, _, _, hform, -⟩⟩ := readValue_cases h
    · obtain ⟨hfits, hnumber⟩ := readScalar?_fits hcontent rfl
      exact .scalar hlast rfl hfits fun hn => hnumber (hj hn)
    · cases heq
      rw [Json.isNumeric] at hj
      obtain ⟨hnames, hvalues⟩ := readFields_shaped members hj hfields
      simp only [Store.fieldType_last hlast] at hnames hvalues
      exact .record hlast rfl hform hnames hvalues
    · cases heq
      rw [Json.isNumeric] at hj
      obtain ⟨alternative, t, value, rfl, hfield, hvalue⟩ :=
        readAlternative_shaped members hj halternative
      rw [Store.fieldType_last hlast] at hfield
      exact .union hlast rfl hform hfield hvalue
    · cases hform

/-- The fields that are read for a type are fields of it, with values for their types. -/
theorem readFields_shaped {s : Store} {isNumeric : Bool} {last : TypeId} {type : String}
    {fields : List FieldValue} :
    (members : List (String × Json)) → (isNumeric = true → Json.membersNumeric members = true) →
      readFields s last type members = .ok fields →
      (∀ f ∈ fields, (s.fieldType last f.name).isSome = true) ∧
      ∀ name value t, FieldValue.present name value ∈ fields → s.fieldType last name = some t →
        s.Shaped Eq isNumeric t value
  | [], _, h => by
    cases h
    simp
  | (name, j) :: rest, hj, h => by
    rw [readFields.eq_2] at h
    split at h
    · cases h
    rename_i t ht
    have hfirst : isNumeric = true → j.isNumeric = true := fun hn => by
      have := hj hn
      simp only [Json.membersNumeric, Bool.and_eq_true] at this
      exact this.1
    have hrest : isNumeric = true → Json.membersNumeric rest = true := fun hn => by
      have := hj hn
      simp only [Json.membersNumeric, Bool.and_eq_true] at this
      exact this.2
    -- the first field is omitted or has a value, and the rest follows in both cases
    have hfield : ∃ first others, fields = first :: others ∧
        readFields s last type rest = .ok others ∧ first.name = name ∧
        ∀ value, first = .present name value → readValue s t j = .ok value := by
      dsimp only at h
      split at h
      · obtain ⟨first, hfirst, h⟩ := bind_eq_ok.mp h
        obtain ⟨others, hothers, h⟩ := bind_eq_ok.mp h
        obtain rfl := pure_eq_ok.mp hfirst
        obtain rfl := pure_eq_ok.mp h
        exact ⟨_, others, rfl, hothers, rfl, fun _ heq => by cases heq⟩
      · obtain ⟨first, hfirst, h⟩ := bind_eq_ok.mp h
        obtain ⟨others, hothers, h⟩ := bind_eq_ok.mp h
        obtain ⟨value, hvalue, rfl⟩ := map_eq_ok.mp hfirst
        obtain rfl := pure_eq_ok.mp h
        refine ⟨_, others, rfl, hothers, rfl, fun _ heq => ?_⟩
        cases heq
        exact hvalue
    obtain ⟨first, others, rfl, hothers, hname, hvalue⟩ := hfield
    obtain ⟨hnames, hvalues⟩ := readFields_shaped rest hrest hothers
    constructor
    · rw [List.forall_mem_cons]
      exact ⟨by simp [hname, ht], hnames⟩
    · intro n value t' hmem ht'
      rcases List.mem_cons.mp hmem with hmem | hmem
      · obtain rfl : n = name := by rw [← hname, ← hmem]; rfl
        obtain rfl := Option.some.inj (ht.symm.trans ht')
        exact readValue_shaped j hfirst (hvalue value hmem.symm)
      · exact hvalues n value t' hmem ht'

/-- The alternative that is read for a type is one of it, with a value for its type. -/
theorem readAlternative_shaped {s : Store} {isNumeric : Bool} {last : TypeId} {kind : Kind}
    {type : String} {v : Value} :
    (members : List (String × Json)) → (isNumeric = true → Json.membersNumeric members = true) →
      readAlternative s last kind type members = .ok v →
      ∃ alternative t value, v = .union kind alternative value ∧
        s.fieldType last alternative = some t ∧ s.Shaped Eq isNumeric t value
  | [], _, h => by cases h
  | _ :: _ :: _, _, h => by cases h
  | [(alternative, j)], hj, h => by
    rw [readAlternative.eq_1] at h
    split at h
    · cases h
    rename_i t ht
    obtain ⟨value, hvalue, h⟩ := bind_eq_ok.mp h
    obtain rfl := pure_eq_ok.mp h
    have hfirst : isNumeric = true → j.isNumeric = true := fun hn => by
      simpa [Json.membersNumeric] using hj hn
    exact ⟨alternative, t, value, rfl, ht, readValue_shaped j hfirst hvalue⟩

/-- The elements that are read for a type have its form. -/
theorem readElements_shaped {s : Store} {isNumeric : Bool} {type : TypeId}
    {elements : List Value} :
    (items : List Json) → (isNumeric = true → Json.itemsNumeric items = true) →
      readElements s type items = .ok elements →
      ∀ value ∈ elements, s.Shaped Eq isNumeric type value
  | [], _, h => by
    cases h
    simp
  | j :: rest, hj, h => by
    rw [readElements.eq_2] at h
    obtain ⟨first, hfirst, h⟩ := bind_eq_ok.mp h
    obtain ⟨others, hothers, h⟩ := bind_eq_ok.mp h
    obtain rfl := pure_eq_ok.mp h
    simp only [Json.itemsNumeric, Bool.and_eq_true] at hj
    rw [List.forall_mem_cons]
    exact ⟨readValue_shaped j (fun hn => (hj hn).1) hfirst,
      readElements_shaped rest (fun hn => (hj hn).2) hothers⟩

end

end Document

end TestSpec
