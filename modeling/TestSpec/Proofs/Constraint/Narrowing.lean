import TestSpec.Proofs.Constraint.Lengths
import TestSpec.Proofs.Constraint.WholeNumbers

/-!
# What a narrower constraint admits

`Constraint.isSubsetOf` decides whether one constraint narrows another from the two
constraints alone.  Constraints in different dimensions are not compared by it, and neither are
limits without a common order, so that its answer does not speak of every literal.
It **settles** a literal (`Constraint.settles`) if the parent says nothing about the
literal, or if both constraints are of one dimension and each limit of the
parent that the literal can be compared with faces a limit of the child that it can be
compared with.

Main statement: `Constraint.admits_of_isSubsetOf`, by which a literal that is settled and
admitted by a narrower constraint is admitted by its parent.
-/

namespace TestSpec

/-! ### Limits -/

namespace Limit

section Places

variable {c p : Limit} {i j : Int}

theorem lowerWithin_iff (h : c.value.compare? p.value = some (compare i j)) :
    Range.lowerWithin (some c) (some p) = true ↔
      j < i ∨ (i = j ∧ (c.isExclusive = true ∨ p.isExclusive = false)) := by
  simp only [Range.lowerWithin, h]
  rcases lt_trichotomy i j with hij | rfl | hij
  · simp [compare_lt_iff_lt.mpr hij, hij.not_gt, hij.ne]
  · simp
  · simp [compare_gt_iff_gt.mpr hij, hij]

theorem upperWithin_iff (h : c.value.compare? p.value = some (compare i j)) :
    Range.upperWithin (some c) (some p) = true ↔
      i < j ∨ (i = j ∧ (c.isExclusive = true ∨ p.isExclusive = false)) := by
  simp only [Range.upperWithin, h]
  rcases lt_trichotomy i j with hij | rfl | hij
  · simp [compare_lt_iff_lt.mpr hij, hij]
  · simp
  · simp [compare_gt_iff_gt.mpr hij, hij.not_gt, hij.ne']

end Places

/-- If a literal can be compared with the limit of a parent, it can be compared with that of the
child, if that has one. -/
def settles (child parent : Option Limit) (x : Literal) : Bool :=
  parent.all fun p => !p.concerns x || child.all fun c => c.concerns x

section Within

variable {child parent : Option Limit} {x : Literal}

/-- What stands above a lower limit stands above that of its parent. -/
theorem admitsAbove_of_lowerWithin (hwithin : Range.lowerWithin child parent = true)
    (hsettled : settles child parent x = true) (hx : ∀ s, x ≠ .string s)
    (hrounded : ∀ c ∈ child, ∀ p ∈ parent, Literal.unrounded [x, c.value, p.value] = true)
    (hchild : child.all (·.admitsAbove x) = true) : parent.all (·.admitsAbove x) = true := by
  cases parent with
  | none => rfl
  | some p =>
    cases child with
    | none => cases hwithin
    | some c =>
      simp only [Option.all_some] at hchild ⊢
      cases hp : p.concerns x with
      | false => exact admitsAbove_of_not_concerns hp
      | true =>
        have hc : c.concerns x = true := by simpa [settles, hp] using hsettled
        obtain ⟨i, j, k, hxc, hxp, hcp⟩ := Literal.exists_line hx (hrounded c rfl p rfl) hc hp
        rw [admitsAbove_iff hxp]
        rcases (admitsAbove_iff hxc).mp hchild with hij | ⟨rfl, hopen⟩
        · rcases (lowerWithin_iff hcp).mp hwithin with hjk | ⟨rfl, -⟩
          · exact .inl (hjk.trans hij)
          · exact .inl hij
        · rcases (lowerWithin_iff hcp).mp hwithin with hjk | ⟨rfl, hexclusive⟩
          · exact .inl hjk
          · exact .inr ⟨rfl, hexclusive.resolve_left (by simp [hopen])⟩

/-- What stands below an upper limit stands below that of its parent. -/
theorem admitsBelow_of_upperWithin (hwithin : Range.upperWithin child parent = true)
    (hsettled : settles child parent x = true) (hx : ∀ s, x ≠ .string s)
    (hrounded : ∀ c ∈ child, ∀ p ∈ parent, Literal.unrounded [x, c.value, p.value] = true)
    (hchild : child.all (·.admitsBelow x) = true) : parent.all (·.admitsBelow x) = true := by
  cases parent with
  | none => rfl
  | some p =>
    cases child with
    | none => cases hwithin
    | some c =>
      simp only [Option.all_some] at hchild ⊢
      cases hp : p.concerns x with
      | false => exact admitsBelow_of_not_concerns hp
      | true =>
        have hc : c.concerns x = true := by simpa [settles, hp] using hsettled
        obtain ⟨i, j, k, hxc, hxp, hcp⟩ := Literal.exists_line hx (hrounded c rfl p rfl) hc hp
        rw [admitsBelow_iff hxp]
        rcases (admitsBelow_iff hxc).mp hchild with hij | ⟨rfl, hopen⟩
        · rcases (upperWithin_iff hcp).mp hwithin with hjk | ⟨rfl, -⟩
          · exact .inl (hij.trans hjk)
          · exact .inl hij
        · rcases (upperWithin_iff hcp).mp hwithin with hjk | ⟨rfl, hexclusive⟩
          · exact .inl hjk
          · exact .inr ⟨rfl, hexclusive.resolve_left (by simp [hopen])⟩

end Within

end Limit

/-! ### Ranges -/

namespace Range

/-- Comparing the limits of two ranges decides about a literal: both are alphabets or neither is,
no real is held against ranges of whole numbers, and each limit of the parent that can
be compared with a part of the literal faces a limit of the child that can be. -/
def settles (child parent : Range) (x : Literal) : Bool :=
  child.isAlphabet == parent.isAlphabet && !(child.isInteger && parent.isInteger && x.isReal) &&
    (parent.parts x).all fun y =>
      Limit.settles child.lower parent.lower y && Limit.settles child.upper parent.upper y

variable {child parent : Range} {x : Literal}

/-- What belongs to a range and is settled belongs to a range that it lies within. -/
theorem contains_of_within (hwithin : child.within parent = true)
    (hsettled : child.settles parent x = true)
    (hrounded : Literal.unrounded (child.literals ++ parent.literals ++ [x]) = true)
    (hchild : child.contains x = true) : parent.contains x = true := by
  simp only [settles, Bool.and_eq_true, beq_iff_eq, List.all_eq_true] at hsettled
  obtain ⟨⟨halphabet, hwhole⟩, hparts⟩ := hsettled
  rw [contains_iff] at hchild ⊢
  rw [parts_congr halphabet] at hchild
  intro y hy
  have hy' := hchild y hy
  cases hinteger : child.isInteger && parent.isInteger with
  | true =>
    obtain ⟨hc, hp⟩ := Bool.and_eq_true_iff.mp hinteger
    rcases mem_parts hy with ⟨c, rfl⟩ | ⟨rfl, -⟩
    · exact containsScalar_of_isInteger hp rfl rfl
    · have hreal : y.isReal = false := by simpa [hinteger] using hwhole
      cases y with
      | integer n => exact (within_iff hc hp).mp hwithin n hy'
      | _ => exact containsScalar_of_isInteger hp rfl hreal
  | false =>
    simp only [within, hinteger, Bool.false_eq_true, if_false, Bool.and_eq_true] at hwithin
    obtain ⟨hlower, hupper⟩ := hparts y hy
    have hliterals {c p : Limit} (hc : c ∈ child.limits) (hp : p ∈ parent.limits) :
        [c.value, p.value] ⊆ child.literals ++ parent.literals ++ [x] := by
      simp [value_mem_literals hc, value_mem_literals hp]
    have hline {c p : Limit} (hc : c ∈ child.limits) (hp : p ∈ parent.limits) :
        Literal.unrounded [y, c.value, p.value] = true := by
      rcases mem_parts hy with ⟨ch, rfl⟩ | ⟨rfl, -⟩
      · exact Literal.unrounded_cons_char (Literal.unrounded_of_subset hrounded (hliterals hc hp))
      · exact Literal.unrounded_of_subset hrounded
          (List.cons_subset.mpr ⟨by simp, hliterals hc hp⟩)
    cases y with
    | string s =>
      rcases mem_parts hy with ⟨c, hc⟩ | ⟨rfl, hparent⟩
      · cases hc
      · exact containsScalar_of_not_concerns fun limit h => concerns_text (hparent s rfl) h rfl
    | _ =>
      rw [containsScalar, Bool.and_eq_true] at hy' ⊢
      exact ⟨Limit.admitsAbove_of_lowerWithin hwithin.1 hlower (by simp)
          (fun c hc p hp => hline (mem_limits_of_lower hc) (mem_limits_of_lower hp)) hy'.1,
        Limit.admitsBelow_of_upperWithin hwithin.2 hupper (by simp)
          (fun c hc p hp => hline (mem_limits_of_upper hc) (mem_limits_of_upper hp)) hy'.2⟩

end Range

/-! ### Constraints -/

namespace Constraint

/-- Comparing two constraints decides about a literal: the parent says nothing about it, or both are
of one dimension there and no integer is rounded. -/
def settles (child parent : Constraint) (x : Literal) : Bool :=
  !parent.concerns x ||
    match child, parent with
    | .values _, parent => Literal.unrounded (child.literals ++ parent.literals ++ [x])
    | .range c, .range p =>
      c.settles p x && Literal.unrounded (child.literals ++ parent.literals ++ [x])
    | .range _, .values _ => x.isInteger
    | .lengths _, .lengths _ => true
    | .lengths _, .values _ | .lengths _, .range _ | .range _, .lengths _ => false

variable {child parent : Constraint} {x : Literal}

/-- **What a narrower constraint admits.**  A literal that comparing the two constraints decides
about is admitted by the parent if it is admitted by the child and the child narrows the parent. -/
theorem admits_of_isSubsetOf (hsub : child.isSubsetOf parent = true)
    (hsettled : child.settles parent x = true) (hx : child.admits x = true) :
    parent.admits x = true := by
  cases hconcerns : parent.concerns x with
  | false => exact admits_of_not_concerns hconcerns
  | true =>
    simp only [settles, hconcerns, Bool.not_true, Bool.false_or] at hsettled
    cases child with
    | values ls =>
      obtain ⟨l, hl, hsame⟩ := List.any_eq_true.mp hx
      have hparent : parent.admits l = true := List.all_eq_true.mp hsub l hl
      refine admits_of_sameValue hsame (Literal.unrounded_of_subset hsettled ?_) hparent
      simp [literals, hl]
    | range c =>
      cases parent with
      | values literals =>
        obtain ⟨n, rfl⟩ : ∃ n, x = .integer n := by
          cases x with
          | integer n => exact ⟨n, rfl⟩
          | _ => cases hsettled
        simp only [isSubsetOf] at hsub
        split at hsub
        · rename_i members hmembers
          exact List.all_eq_true.mp hsub n (Range.mem_members hmembers hx)
        · cases hsub
      | range p =>
        obtain ⟨hranges, hrounded⟩ := Bool.and_eq_true_iff.mp hsettled
        have halphabet : c.isAlphabet = p.isAlphabet := by
          simp only [Range.settles, Bool.and_eq_true, beq_iff_eq] at hranges
          exact hranges.1.1
        have hwithin : c.within p = true := by simpa [isSubsetOf, halphabet] using hsub
        exact Range.contains_of_within hwithin hranges hrounded hx
      | lengths ranges => cases hsettled
    | lengths ranges =>
      cases parent with
      | values literals => cases hsettled
      | range p => cases hsettled
      | lengths inherited =>
        obtain ⟨n, hn⟩ := Option.isSome_iff_exists.mp hconcerns
        simp only [admits, hn, Option.all_some, List.any_eq_true] at hx ⊢
        exact exists_contains_of_isSubsetOf hsub hx

end Constraint

end TestSpec
