import TestSpec.Proofs.Value.Equality

/-!
# Equality of values is an equivalence

Equality looks at less than a value holds: of an enumerated value at the ordinal, of a
real at its place on the line of numbers, so that what is not a number, having no place,
is equal to itself.  On contents without parts it is therefore equality of what is looked
at (`Scalar.equals_iff`), and on values it is symmetric and transitive by induction over
their parts.

A comparison may meet an unbound part before it finds a difference, or after.  It meets
the same one in either order, so the failures are symmetric too; and comparing a value
with itself finds no difference, so that it fails exactly if some part is unbound.
Main statement: `Value.equals_equivalence`.
-/

namespace TestSpec

namespace Binary64

/-- Only what is not a number has no place. -/
theorem place?_eq_none_iff {x : Binary64} : x.place? = none ↔ x.isNaN = true := by
  cases x with
  | nan => exact iff_of_true rfl rfl
  | infinite | finite => exact iff_of_false (Option.some_ne_none _) Bool.false_ne_true

/-- Reals are equal as contents if they have the same place. -/
theorem same_iff_place {x y : Binary64} :
    (x.sameValue y || (x.isNaN && y.isNaN)) = true ↔ x.place? = y.place? := by
  rw [Bool.or_eq_true, Bool.and_eq_true, ← place?_eq_none_iff, ← place?_eq_none_iff, sameValue,
    compare?]
  cases x.place? with
  | none => cases y.place? <;> simp
  | some i => cases y.place? <;> simp

end Binary64

namespace Scalar

/-- What equality looks at: the place of a real, the ordinal of an enumerated value, and the whole
of any other content. -/
def essence : Scalar → Option Int ⊕ Int64 ⊕ Scalar
  | .real x => .inl x.place?
  | .enumerated _ ordinal => .inr (.inl ordinal)
  | content => .inr (.inr content)

theorem equals_iff {a b : Scalar} : a.equals b = true ↔ a.essence = b.essence := by
  cases a with
  | real x =>
    cases b with
    | real y =>
      rw [equals, Binary64.same_iff_place, essence, essence, Sum.inl.injEq]
    | _ => simp [equals, essence]
  | _ => cases b <;> simp [equals, essence]

theorem equals_comm (a b : Scalar) : a.equals b = b.equals a := by
  rw [Bool.eq_iff_iff, equals_iff, equals_iff]
  exact eq_comm

theorem equals_trans {a b c : Scalar} (hab : a.equals b = true) (hbc : b.equals c = true) :
    a.equals c = true :=
  equals_iff.mpr ((equals_iff.mp hab).trans (equals_iff.mp hbc))

end Scalar

namespace Value

/-! ### Either order -/

mutual

/-- Two values are compared with one result in either order, a failure included. -/
theorem equals_comm : (a b : Value) → a.equals b = b.equals a
  | .unbound _, b => by cases b <;> rfl
  | .scalar _ m, b => by
    cases b with
    | scalar _ n => rw [equals, equals, Scalar.equals_comm]
    | _ => rfl
  | .record _ as, b => by
    cases b with
    | record _ bs =>
      rw [equals, equals, equalFields_comm as bs]
      simp only [eq_comm]
    | _ => rfl
  | .union _ m a, b => by
    cases b with
    | union _ n b =>
      rw [equals, equals, equals_comm a b]
      simp only [eq_comm]
    | _ => rfl
  | .list _ as, b => by
    cases b with
    | list _ bs =>
      rw [equals, equals, equalElements_comm as bs]
      simp only [eq_comm]
    | _ => rfl

theorem equalFields_comm : (as bs : List FieldValue) → equalFields as bs = equalFields bs as
  | [], [] | [], .present _ _ :: _ | [], .omitted _ :: _ | .present _ _ :: _, []
  | .omitted _ :: _, [] | .present _ _ :: _, .omitted _ :: _
  | .omitted _ :: _, .present _ _ :: _ => rfl
  | .present m a :: as, .present n b :: bs => by
    rw [equalFields, equalFields, equals_comm a b, equalFields_comm as bs]
    simp only [eq_comm]
  | .omitted m :: as, .omitted n :: bs => by
    rw [equalFields, equalFields, equalFields_comm as bs]
    simp only [eq_comm]

theorem equalElements_comm : (as bs : List Value) → equalElements as bs = equalElements bs as
  | [], [] | [], _ :: _ | _ :: _, [] => rfl
  | a :: as, b :: bs => by
    rw [equalElements, equalElements, equals_comm a b, equalElements_comm as bs]

end

/-! ### Three values -/

mutual

theorem equals_trans : (a b c : Value) → a.equals b = .ok true → b.equals c = .ok true →
    a.equals c = .ok true
  | .unbound _, _, _, hab, _ => by cases hab
  | .scalar _ m, b, c, hab, hbc => by
    cases b with
    | scalar _ n =>
      cases c with
      | scalar _ k =>
        rw [equals, Except.ok.injEq] at hab hbc ⊢
        exact Scalar.equals_trans hab hbc
      | _ => cases hbc
    | _ => cases hab
  | .record _ as, _, _, hab, hbc => by
    obtain ⟨_, bs, rfl, habs⟩ := record_equals_iff.mp hab
    obtain ⟨_, cs, rfl, hbcs⟩ := record_equals_iff.mp hbc
    exact record_equals_iff.mpr ⟨_, _, rfl, fields_related_trans as bs cs habs hbcs⟩
  | .union _ _ a, _, _, hab, hbc => by
    obtain ⟨_, b, rfl, hinner⟩ := union_equals_iff.mp hab
    obtain ⟨_, c, rfl, hinner'⟩ := union_equals_iff.mp hbc
    exact union_equals_iff.mpr ⟨_, _, rfl, equals_trans a b c hinner hinner'⟩
  | .list _ as, _, _, hab, hbc => by
    obtain ⟨_, bs, rfl, habs⟩ := list_equals_iff.mp hab
    obtain ⟨_, cs, rfl, hbcs⟩ := list_equals_iff.mp hbc
    exact list_equals_iff.mpr ⟨_, _, rfl, elements_equal_trans as bs cs habs hbcs⟩

theorem fields_related_trans : (as bs cs : List FieldValue) →
    List.Forall₂ (FieldValue.Related fun a b => a.equals b = .ok true) as bs →
    List.Forall₂ (FieldValue.Related fun a b => a.equals b = .ok true) bs cs →
    List.Forall₂ (FieldValue.Related fun a b => a.equals b = .ok true) as cs
  | [], _, _, .nil, .nil => .nil
  | .omitted _ :: as, _, _, .cons .omitted hab, .cons .omitted hbc =>
    .cons .omitted (fields_related_trans as _ _ hab hbc)
  | .present _ a :: as, _, _, .cons (.present hab) habs, .cons (.present hbc) hbcs =>
    .cons (.present (equals_trans a _ _ hab hbc)) (fields_related_trans as _ _ habs hbcs)

theorem elements_equal_trans : (as bs cs : List Value) →
    List.Forall₂ (fun a b => a.equals b = .ok true) as bs →
    List.Forall₂ (fun a b => a.equals b = .ok true) bs cs →
    List.Forall₂ (fun a b => a.equals b = .ok true) as cs
  | [], _, _, .nil, .nil => .nil
  | a :: as, _, _, .cons hab habs, .cons hbc hbcs =>
    .cons (equals_trans a _ _ hab hbc) (elements_equal_trans as _ _ habs hbcs)

end

/-! ### One value -/

mutual

/-- A value with an unbound part cannot be compared with itself: the parts before it are equal to
themselves, so the comparison comes to it. -/
theorem equals_self_of_unbound : (v : Value) → v.isFullyBound = false →
    v.equals v = .error (.unboundValue .comparison)
  | .unbound _, _ => rfl
  | .scalar _ _, h => by cases h
  | .record _ fields, h => by
    rw [equals, if_pos rfl]
    exact equalFields_self_of_unbound fields h
  | .union _ _ v, h => by
    rw [equals, if_pos rfl]
    exact equals_self_of_unbound v h
  | .list _ elements, h => by
    rw [equals, if_pos rfl]
    exact equalElements_self_of_unbound elements h

theorem equalFields_self_of_unbound : (fields : List FieldValue) →
    fieldsFullyBound fields = false →
    equalFields fields fields = .error (.unboundValue .comparison)
  | [], h => by cases h
  | .omitted _ :: rest, h => by
    rw [equalFields, if_pos rfl]
    exact equalFields_self_of_unbound rest h
  | .present _ v :: rest, h => by
    rw [fieldsFullyBound] at h
    rw [equalFields, if_pos rfl]
    cases hv : v.isFullyBound with
    | false => rw [equals_self_of_unbound v hv]
    | true =>
      rw [hv, Bool.true_and] at h
      rw [equals_self v hv]
      exact equalFields_self_of_unbound rest h

theorem equalElements_self_of_unbound : (elements : List Value) →
    elementsFullyBound elements = false →
    equalElements elements elements = .error (.unboundValue .comparison)
  | [], h => by cases h
  | v :: rest, h => by
    rw [elementsFullyBound] at h
    rw [equalElements]
    cases hv : v.isFullyBound with
    | false => rw [equals_self_of_unbound v hv]
    | true =>
      rw [hv, Bool.true_and] at h
      rw [equals_self v hv]
      exact equalElements_self_of_unbound rest h

end

/-- **Equality of values is an equivalence.**  The order of two values does not matter, also where
they cannot be compared; values equal to a third are equal; a value is equal to itself, or cannot be
compared with itself because some part of it is unbound; and values without unbound parts can
always be compared. -/
theorem equals_equivalence (x y z : Value) :
    x.equals y = y.equals x ∧
      (x.equals y = .ok true → y.equals z = .ok true → x.equals z = .ok true) ∧
      x.equals x =
        (if x.isFullyBound then .ok true else .error (.unboundValue .comparison)) ∧
      (x.isFullyBound = true → y.isFullyBound = true → ∃ answer, x.equals y = .ok answer) := by
  refine ⟨equals_comm x y, equals_trans x y z, ?_, equals_ok x y⟩
  cases hx : x.isFullyBound with
  | true => exact equals_self x hx
  | false => exact equals_self_of_unbound x hx

/-- A record of a number, a limit that is not a number, an omitted field, and an enumerated value
under some name. -/
def measurement (kind : Kind) (number : Binary64) (name : String) : Value :=
  .record kind [.present "value" (.scalar .real (.real number)),
    .present "limit" (.scalar .real (.real .nan)), .omitted "note",
    .present "state" (.scalar .enumerated (.enumerated name 1))]

/-- A record of a number and a field that no value was given to. -/
def unfinished (number : Int64) : Value :=
  .record .record [.present "number" (.integer number), .present "rest" (.unbound .integer)]

/-- The two zeros are equal, so is what is not a number, and so are enumerated values of one ordinal
under different names; a zero is not equal to what is not a number.  Two records that differ before
a field without a value are not equal, in either order, and each of them cannot be compared with
itself. -/
theorem equals_equivalence_zeros :
    (measurement .record (.zero true) "on").equals (measurement .set (.zero false) "running") =
        .ok true ∧
      (measurement .set (.zero false) "running").equals (measurement .record (.zero true) "up") =
        .ok true ∧
      (measurement .record (.zero true) "on").equals (measurement .record (.zero true) "up") =
        .ok true ∧
      (∃ answer, (measurement .record (.zero true) "on").equals
        (measurement .set (.zero false) "running") = .ok answer) ∧
      (measurement .record (.zero true) "on").equals (measurement .record .nan "on") =
        .ok false ∧
      (measurement .record .nan "on").equals (measurement .record (.zero true) "on") =
        .ok false ∧
      (unfinished 1).equals (unfinished 2) = .ok false ∧
      (unfinished 2).equals (unfinished 1) = .ok false ∧
      (unfinished 1).equals (unfinished 1) = .error (.unboundValue .comparison) := by
  obtain ⟨-, htrans, -, hbound⟩ := equals_equivalence (measurement .record (.zero true) "on")
    (measurement .set (.zero false) "running") (measurement .record (.zero true) "up")
  obtain ⟨hswapped, -, -, -⟩ := equals_equivalence (measurement .record .nan "on")
    (measurement .record (.zero true) "on") (unfinished 1)
  obtain ⟨hcomm, -, hself, -⟩ := equals_equivalence (unfinished 1) (unfinished 2) (unfinished 1)
  have hleft : (measurement .record (.zero true) "on").equals
      (measurement .set (.zero false) "running") = .ok true := by decide
  have hright : (measurement .set (.zero false) "running").equals
      (measurement .record (.zero true) "up") = .ok true := by decide
  have hunlike : (measurement .record (.zero true) "on").equals (measurement .record .nan "on") =
      .ok false := by decide
  have hdiffer : (unfinished 1).equals (unfinished 2) = .ok false := by decide
  exact ⟨hleft, hright, htrans hleft hright, hbound rfl rfl, hunlike, hswapped.trans hunlike,
    hdiffer, hcomm.symm.trans hdiffer, hself⟩

end Value

end TestSpec
