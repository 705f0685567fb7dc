import TestSpec.Proofs.Matching.Depth

/-!
# A list of alternatives and its complement

A complemented list asks the same templates in the same order as the list of alternatives, stops
at the same one, and turns the answer round; an error is no answer, and stays as it is.  So the two
are dual in the sense of De Morgan, and this holds at any depth and with any templates in the list
(`Template.matchAt_noneOf`).

A list of one alternative only hands the value on, one level deeper.  Complementing twice therefore
comes to the list itself, asked two levels deeper, which is the same as long as the limit of depth
is not met (`TestSpec.Proofs.Matching.Depth`).
-/

namespace TestSpec.Template

variable {ctx : MatchContext} {depth : Nat} {items : List Template} {t : Template} {v : Value}
  {p q r : Bool}

/-- A list of alternatives without a length restriction. -/
def oneOf (ifPresent : Bool) (items : List Template) : Template :=
  .mk (.valueList items) ifPresent none

/-- A complemented list without a length restriction. -/
def noneOf (ifPresent : Bool) (items : List Template) : Template :=
  .mk (.complement items) ifPresent none

/-! ### Answers turned round -/

theorem map_not_eq_ok_iff {result : Except MatchError Bool} {b : Bool} :
    result.map not = .ok b ↔ result = .ok !b := by
  cases result with
  | error e => simp [Except.map]
  | ok answer => cases answer <;> cases b <;> simp [Except.map]

theorem map_not_eq_error_iff {result : Except MatchError Bool} {e : MatchError} :
    result.map not = .error e ↔ result = .error e := by
  cases result <;> simp [Except.map]

theorem map_not_map_not (result : Except MatchError Bool) : (result.map not).map not = result := by
  cases result with
  | error e => rfl
  | ok answer => exact congrArg Except.ok (Bool.not_not answer)

/-! ### The two lists -/

/-- A template that is initialized and has no length restriction leaves every bound value to its
selector, if it does not stand too deep. -/
theorem matchAt_unrestricted {selector : Selector}
    (hinit : isInitialized (.mk selector false none) = true) :
    matchAt ctx depth (.mk selector p none) v =
      if maxMatchDepth ≤ depth then .error .depthExceeded
      else if v.isBound then selectorMatch ctx depth selector v
      else .error (.unboundValue .matching) := by
  rw [matchAt_mk, hinit]
  cases v.isBound <;> rfl

/-- A complemented list has the answers of the list of alternatives turned round. -/
theorem matchAt_noneOf (p q : Bool) :
    matchAt ctx depth (noneOf q items) v = (matchAt ctx depth (oneOf p items) v).map not := by
  rw [noneOf, oneOf, matchAt_unrestricted rfl, matchAt_unrestricted rfl]
  split
  · rfl
  split <;> rfl

/-- A list of one alternative hands a bound value on to it. -/
theorem matchAt_oneOf_singleton (hdepth : depth < maxMatchDepth) (hv : v.isBound = true) :
    matchAt ctx depth (oneOf p [t]) v = matchAt ctx (depth + 1) t v := by
  have hany : matchesAny ctx (depth + 1) [t] v = matchAt ctx (depth + 1) t v := by
    rw [matchesAny, matchesAny]
    split
    · rename_i hmatch
      exact hmatch.symm
    · rfl
  rw [oneOf, matchAt_unrestricted rfl, if_neg (Nat.not_le.mpr hdepth), if_pos hv]
  exact hany

/-- Complementing twice comes to the list itself, if the limit of depth is not met. -/
theorem matchAt_noneOf_noneOf (h : IsUncut (matchAt ctx depth (noneOf r [noneOf q items]) v)) :
    matchAt ctx depth (noneOf r [noneOf q items]) v = matchAt ctx depth (oneOf p items) v := by
  by_cases hasked : depth < maxMatchDepth ∧ v.isBound = true
  · obtain ⟨hdepth, hv⟩ := hasked
    have hdeeper : matchAt ctx depth (noneOf r [noneOf q items]) v =
        matchAt ctx (depth + 1) (oneOf p items) v := by
      rw [matchAt_noneOf r r, matchAt_oneOf_singleton hdepth hv, matchAt_noneOf p q,
        map_not_map_not]
    rw [hdeeper] at h ⊢
    have hcompared := matchAt_cutOnlyIf_of_le ctx (oneOf p items) (Nat.le_succ depth) v
    rcases hcompared with ⟨hcut, -⟩ | ⟨-, hsame⟩
    · exact absurd hcut h
    · exact hsame.symm
  · -- neither template comes to ask its items anything, so what they are does not matter
    rw [noneOf, oneOf, matchAt_unrestricted rfl, matchAt_unrestricted rfl]
    split
    · rfl
    · have hv : ¬ v.isBound = true := fun hv => hasked ⟨by omega, hv⟩
      rw [if_neg hv, if_neg hv]

/-- **A list of alternatives and its complement are dual.**  Let a list of alternatives and a
complemented list have the same items and no length restriction.  At any depth, with any value and
in any context, the complement gives an answer exactly if the list gives the opposite one, and an
error exactly if the list gives the same one.  The complement of the complement comes to the same
as the list, if its levels fit below the limit of depth, or the limit is just not met.  An omitted
field is accepted, `ifpresent` aside, by exactly one of the two under the older rules and by
neither under the newer ones, whatever the length restrictions are. -/
theorem matchAt_duality (items : List Template) (ctx : MatchContext) (depth : Nat) (v : Value)
    (p q r : Bool) :
    (∀ b, matchAt ctx depth (noneOf q items) v = .ok b ↔
      matchAt ctx depth (oneOf p items) v = .ok !b) ∧
    (∀ e, matchAt ctx depth (noneOf q items) v = .error e ↔
      matchAt ctx depth (oneOf p items) v = .error e) ∧
    (depth + (noneOf r [noneOf q items]).height ≤ maxMatchDepth ∨
        matchAt ctx depth (noneOf r [noneOf q items]) v ≠ .error .depthExceeded →
      matchAt ctx depth (noneOf r [noneOf q items]) v = matchAt ctx depth (oneOf p items) v) ∧
    ∀ length length' : Option LengthRestriction,
      matchesOmit true (.mk (.complement items) false length) =
        !matchesOmit true (.mk (.valueList items) false length') ∧
      matchesOmit false (.mk (.complement items) false length) = false ∧
      matchesOmit false (.mk (.valueList items) false length') = false := by
  refine ⟨?_, ?_, ?_, ?_⟩
  · intro b
    rw [matchAt_noneOf p q]
    exact map_not_eq_ok_iff
  · intro e
    rw [matchAt_noneOf p q]
    exact map_not_eq_error_iff
  · intro hnesting
    apply matchAt_noneOf_noneOf
    rcases hnesting with hheight | huncut
    · have hself := matchAt_cutOnlyIf_of_le ctx (noneOf r [noneOf q items]) (Nat.le_refl depth) v
      rcases hself with ⟨-, hlimit⟩ | ⟨huncut, -⟩
      · omega
      · exact huncut
    · exact huncut
  · intro length length'
    simp [matchesOmit, selectorMatchesOmit]

/-- One, two, or nothing at all. -/
def oneTwoOrNothing : List Template :=
  [specific (.integer 1), specific (.integer 2), .ofSelector .omit]

/-- The number two is among the alternatives, and so it is if they are complemented twice; the
complement refuses it, and under the older rules it refuses an omitted field too. -/
theorem matchAt_duality_oneTwoOrNothing :
    matchAt {} 0 (oneOf false oneTwoOrNothing) (.integer 2) = .ok true ∧
      matchAt {} 0 (noneOf false oneTwoOrNothing) (.integer 2) = .ok false ∧
      matchAt {} 0 (noneOf false [noneOf false oneTwoOrNothing]) (.integer 2) = .ok true ∧
      matchesOmit true (noneOf false oneTwoOrNothing) = false := by
  have hmatch : matchAt {} 0 (oneOf false oneTwoOrNothing) (.integer 2) = .ok true := rfl
  obtain ⟨hanswers, -, hdouble, homit⟩ :=
    matchAt_duality oneTwoOrNothing {} 0 (.integer 2) false false false
  refine ⟨hmatch, (hanswers false).mpr hmatch, ?_, (homit none none).1⟩
  rw [← hmatch]
  exact hdouble (.inl (by decide))

/-- The two levels that complementing twice adds may meet the limit of depth where the list itself
does not. -/
example :
    matchAt {} 1022 (oneOf false [specific (.integer 1)]) (.integer 1) = .ok true ∧
      matchAt {} 1022 (noneOf false [noneOf false [specific (.integer 1)]]) (.integer 1) =
        .error .depthExceeded :=
  ⟨rfl, rfl⟩

end TestSpec.Template
