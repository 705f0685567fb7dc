import TestSpec.Proofs.Json.Numeric
import TestSpec.Template.Range

/-!
# Changes of a template

A change that is made in place may have written when it fails.  A change that only
**asks** leaves every template as it is, whatever its outcome; a change is **atomic** if
it leaves the template as it is whenever it fails.  Whatever asks first and then makes an
atomic change is atomic, and this is the form that setting a bound has: the bound, the
selector and the order of the bounds are asked for, and the bound is written at the end.

Main statements: `Template.atomic_setBound`, `Template.on_setBound_eq_ok_iff`.
-/

namespace TestSpec

namespace Template

namespace Change

variable {α β : Type}

/-! ### The parts of a change -/

/-- A change that is put behind another one is made to the template that the first one leaves, if
that one succeeds. -/
theorem on_bind (c : Change α) (f : α → Change β) (t : Template) :
    (c >>= f).on t =
      match c.on t with
      | (.ok a, t') => (f a).on t'
      | (.error e, t') => (.error e, t') := by
  change (match c.on t with
    | (x, t') => ExceptT.bindCont f x t') = _
  rcases c.on t with ⟨e | a, t'⟩ <;> rfl

theorem on_bind_eq_ok_iff {c : Change α} {f : α → Change β} {t t' : Template} {b : β} :
    (c >>= f).on t = (.ok b, t') ↔ ∃ a u, c.on t = (.ok a, u) ∧ (f a).on u = (.ok b, t') := by
  rw [on_bind]
  rcases c.on t with ⟨e | a, u⟩
  · simp
  · constructor
    · exact fun h => ⟨a, u, rfl, h⟩
    · rintro ⟨_, _, ⟨⟩, h⟩
      exact h

theorem on_liftExcept (x : Except MatchError α) (t : Template) :
    (liftExcept x : Change α).on t = (x, t) := by
  cases x <;> rfl

theorem on_get_bind (f : Template → Change β) (t : Template) : (get >>= f).on t = (f t).on t := rfl

/-- What comes behind a question is done to the template as it was, if there is an answer. -/
theorem on_liftExcept_bind_eq_ok_iff {x : Except MatchError α} {f : α → Change β}
    {t t' : Template} {b : β} :
    (liftExcept x >>= f).on t = (.ok b, t') ↔ ∃ a, x = .ok a ∧ (f a).on t = (.ok b, t') := by
  rw [on_bind, on_liftExcept]
  cases x <;> simp

/-! ### Asking and writing -/

/-- The change leaves every template as it is. -/
def Asks (c : Change α) : Prop := ∀ t, (c.on t).2 = t

/-- Where the change fails, it leaves the template as it is. -/
def Atomic (c : Change α) : Prop := ∀ ⦃t t' e⦄, c.on t = (.error e, t') → t' = t

theorem asks_liftExcept (x : Except MatchError α) : Asks (liftExcept x) := fun t => by
  rw [on_liftExcept]

theorem asks_get : Asks get := fun _ => rfl

theorem Asks.atomic {c : Change α} (h : c.Asks) : c.Atomic := fun t t' e hc => by
  rw [← h t, hc]

theorem atomic_throw (e : MatchError) : Atomic (throw e : Change α) :=
  Asks.atomic fun _ => rfl

/-- A single write does not fail. -/
theorem atomic_set (u : Template) : Atomic (set u) := fun t t' e h => by
  cases h

/-- Questions may be put before an atomic change. -/
theorem Asks.bind_atomic {c : Change α} {f : α → Change β} (hc : c.Asks)
    (hf : ∀ a, (f a).Atomic) : (c >>= f).Atomic := by
  intro t t' e h
  have hkept := hc t
  rw [on_bind] at h
  rcases hasked : c.on t with ⟨e' | a, u⟩ <;> rw [hasked] at h hkept
  · cases h
    exact hkept
  · obtain rfl : u = t := hkept
    exact hf a h

end Change

end Template

/-! ### Setting a bound -/

namespace ValueRange

variable {r : ValueRange} {b : Bound} {side : BoundSide}

/-- A bound stands in order with the bound on the other side of a range, if there is one. -/
def Fits (r : ValueRange) (side : BoundSide) (b : Bound) : Prop :=
  ∀ other ∈ r.bound side.opposite,
    ∃ o, b.value.order other.value = .ok o ∧ o ≠ side.misplaced

/-- A bound is refused if it lies beyond the bound on the other side, or has no order with it. -/
theorem checkOrder_eq_ok_iff : r.checkOrder side b = .ok () ↔ r.Fits side b := by
  unfold checkOrder Fits
  cases r.bound side.opposite with
  | none => simp
  | some other =>
    simp only [bind_eq_ok, Option.mem_def, Option.some.injEq, forall_eq']
    refine exists_congr fun o => and_congr_right fun _ => ?_
    split <;> simp_all

end ValueRange

namespace Template

open Change

variable {b : Bound} {side : BoundSide} {t t' : Template}

/-- A bound that is refused leaves the template, whatever it is, as it was. -/
theorem atomic_setBound (side : BoundSide) (b : Bound) : (setBound side b).Atomic := by
  refine (asks_liftExcept _).bind_atomic fun _ => asks_get.bind_atomic fun t => ?_
  split
  · exact (asks_liftExcept _).bind_atomic fun _ => atomic_set _
  · exact atomic_throw _

/-- A bound is accepted if it passes its own check, the template is a range and the bound fits the
range.  It takes its side then, and everything else stays. -/
theorem on_setBound_eq_ok_iff :
    (setBound side b).on t = (.ok (), t') ↔
      b.check side = .ok () ∧ ∃ r ifPresent length, t = .mk (.range r) ifPresent length ∧
        r.Fits side b ∧ t' = .mk (.range (r.withBound b side)) ifPresent length := by
  unfold setBound
  constructor
  · intro h
    obtain ⟨⟨⟩, hcheck, h⟩ := on_liftExcept_bind_eq_ok_iff.mp h
    rw [on_get_bind] at h
    split at h
    · obtain ⟨⟨⟩, horder, h⟩ := on_liftExcept_bind_eq_ok_iff.mp h
      cases h
      exact ⟨hcheck, _, _, _, rfl, ValueRange.checkOrder_eq_ok_iff.mp horder, rfl⟩
    · cases h
  · rintro ⟨hcheck, r, ifPresent, length, rfl, hfits, rfl⟩
    refine on_liftExcept_bind_eq_ok_iff.mpr ⟨(), hcheck, ?_⟩
    rw [on_get_bind]
    exact on_liftExcept_bind_eq_ok_iff.mpr ⟨(), ValueRange.checkOrder_eq_ok_iff.mpr hfits, rfl⟩

/-- A bound that is given is checked and takes its side of the range; without one the range stays. -/
theorem on_forM_setBound_eq_ok {r : ValueRange} {given : Option Bound}
    (h : (given.forM (setBound side)).on (ofSelector (.range r)) = (.ok (), t)) :
    (∀ b ∈ given, b.check side = .ok ()) ∧
      t = ofSelector (.range (given.elim r (r.withBound · side))) := by
  cases given with
  | none =>
    cases h
    simp
  | some b =>
    obtain ⟨hcheck, _, _, _, heq, -, rfl⟩ := on_setBound_eq_ok_iff.mp h
    cases heq
    exact ⟨by simpa using hcheck, rfl⟩

/-- A range that is built has the bounds it is given, and those pass their checks. -/
theorem range_eq_ok {lower upper : Option Bound} (h : Template.range lower upper = .ok t) :
    t = ofSelector (.range ⟨lower, upper⟩) ∧
      (∀ b ∈ lower, b.check .lower = .ok ()) ∧ ∀ b ∈ upper, b.check .upper = .ok () := by
  unfold Template.range at h
  dsimp only at h
  split at h
  · rename_i u hbuild
    cases h
    obtain ⟨⟨⟩, _, hsetLower, hsetUpper⟩ := on_bind_eq_ok_iff.mp hbuild
    obtain ⟨hlower, rfl⟩ := on_forM_setBound_eq_ok hsetLower
    obtain ⟨hupper, rfl⟩ := on_forM_setBound_eq_ok hsetUpper
    refine ⟨?_, hlower, hupper⟩
    cases lower <;> cases upper <;> rfl
  · cases h

end Template

end TestSpec
