import TestSpec.Proofs.Check.Acceptance
import TestSpec.Proofs.Check.Declaration
import TestSpec.Session.Basic

/-!
# Permitted lengths, and the values they reach

A declaration may set lengths for every kind whose values have one: character strings,
strings of bits, hexadecimal digits and octets, and lists.  A check of a value asks the
constraint in force about the literal that the value corresponds to, and of all values
with a length only character strings correspond to one.  So permitted lengths decide
about character strings and about nothing else (`Check.value_ok_iff_of_lengths`): an
octetstring of any length is accepted whatever lengths its type permits.
-/

namespace TestSpec

/-- The value is a character string. -/
def Value.isText : Value → Bool
  | .scalar _ (.text _) => true
  | _ => false

namespace Store

variable {s : Store} {type : TypeId} {v : Value} {ranges : List LengthRange} {length : Nat}

/-- Lengths in force admit a value with a length unless it is a character string and the length is
not permitted. -/
theorem admits_lengths_iff (hc : s.effectiveConstraint type = some (.lengths ranges))
    (hlength : v.length = .ok length) :
    s.Admits type v ↔ (v.isText = true → ranges.any (·.contains length) = true) := by
  cases v with
  | unbound kind => cases hlength
  | record kind fields => cases hlength
  | union kind alternative value => cases hlength
  | list kind elements => simp [Admits, Value.literal?, Value.isText]
  | scalar kind content =>
    cases content with
    | text t =>
      obtain rfl : t.length = length := by simpa [Value.length, Scalar.length?] using hlength
      simp [Admits, hc, Value.literal?, Scalar.literal?, Value.isText, Constraint.admits,
        Literal.stringLength?]
    | bits digits => simp [Admits, Value.literal?, Scalar.literal?, Value.isText]
    | nibbles digits => simp [Admits, Value.literal?, Scalar.literal?, Value.isText]
    | octets raw => simp [Admits, Value.literal?, Scalar.literal?, Value.isText]
    | _ => simp [Value.length, Scalar.length?] at hlength

theorem isBound_of_length (hlength : v.length = .ok length) : v.isBound = true := by
  cases v with
  | unbound kind => cases hlength
  | _ => rfl

end Store

/-- **Which permitted lengths are enforced.**  In a store without errors, let a set of lengths be in
force for a type, and let a value have a length.  The check accepts the value exactly if there is
room for it, the type accepts its kind, its parts are in order, and its length is permitted if it
is a character string. -/
theorem Check.value_ok_iff_of_lengths {s : Session} {type : TypeId} {v : Value}
    {ranges : List LengthRange} {length : Nat} (hstore : s.store.HasNoErrors)
    (hc : s.store.effectiveConstraint type = some (.lengths ranges))
    (hlength : v.length = .ok length) (location : Location) :
    ((Check.value location type v).run s).1 = true ↔
      ∃ deeper, s.nesting.enter? = some deeper ∧ s.store.acceptsKind type v.kind = true ∧
        s.store.PartsInOrder type deeper v ∧
        (v.isText = true → ranges.any (·.contains length) = true) := by
  have hrun : ((Check.value location type v).run s).1 =
      (s.store.checkValue type s.nesting v).1.ok := rfl
  rw [hrun, Store.checkValue_ok_iff]
  simp only [Store.isBound_of_length hlength, hstore.isSilenced type, true_implies,
    Store.admits_lengths_iff hc hlength]

/-- A session over two strings of one or two elements: one of octets, the other of characters. -/
def Session.shortStrings : Session where
  store := ⟨#[
    { name := "octetstring", kind := .octetstring, isBuiltin := true },
    { name := "charstring", kind := .charstring, isBuiltin := true },
    { name := "Key", kind := .referenced, target := some (.name "octetstring"),
      constraint := some (.lengths [⟨1, some 2⟩]) },
    { name := "Name", kind := .referenced, target := some (.name "charstring"),
      constraint := some (.lengths [⟨1, some 2⟩]) }]⟩
  pass := 1

theorem Session.shortStrings_hasNoErrors : Session.shortStrings.store.HasNoErrors :=
  .of_size (by decide)

/-- A name of two characters is accepted. -/
theorem Check.value_ok_iff_of_lengths_shortName :
    Session.shortStrings.store.HasNoErrors ∧
      Session.shortStrings.store.effectiveConstraint 3 = some (.lengths [⟨1, some 2⟩]) ∧
      (Value.text .charstring "ab").length = .ok 2 ∧
      ((Check.value {} 3 (.text .charstring "ab")).run Session.shortStrings).1 = true := by
  have hc : Session.shortStrings.store.effectiveConstraint 3 = some (.lengths [⟨1, some 2⟩]) := by
    decide
  have hlength : (Value.text .charstring "ab").length = .ok 2 := rfl
  have haccepted := (Check.value_ok_iff_of_lengths Session.shortStrings_hasNoErrors hc hlength
    {}).mpr ⟨_, rfl, by decide, trivial, fun _ => by decide⟩
  exact ⟨Session.shortStrings_hasNoErrors, hc, hlength, haccepted⟩

/-- A key of five octets is accepted though no length above two is permitted. -/
theorem Check.value_ok_longKey :
    Session.shortStrings.store.HasNoErrors ∧
      Session.shortStrings.store.effectiveConstraint 2 = some (.lengths [⟨1, some 2⟩]) ∧
      (Value.octetstring [1, 2, 3, 4, 5]).length = .ok 5 ∧
      [(⟨1, some 2⟩ : LengthRange)].any (·.contains 5) = false ∧
      ((Check.value {} 2 (.octetstring [1, 2, 3, 4, 5])).run Session.shortStrings).1 = true :=
  ⟨Session.shortStrings_hasNoErrors, by decide, rfl, by decide, by decide⟩

end TestSpec
