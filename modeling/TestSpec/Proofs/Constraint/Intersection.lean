import TestSpec.Constraint.Clash
import TestSpec.Proofs.Constraint.Lengths
import TestSpec.Proofs.Constraint.WholeNumbers

/-!
# Common values

Two constraints are compatible if they admit a common value.  The answer is found without one, by
comparing the constraints.  It is exact where neither has a real among its literals and
either one is a set of literals, or both are ranges of whole numbers, or both are sets of
lengths (`Constraint.isCompatible_iff_sharesValue`), and then it does not depend on the
order of the two.

What two sets of literals share is a literal of one of them.  A literal that neither of them
is written with need not count: a real stands for each of the integers that are rounded to
it, so that it is admitted by sets of different integers
(`Constraint.not_isCompatible_roundedInteger`).
-/

namespace TestSpec

namespace Constraint

/-- No literal of the constraint is a real. -/
def IsDiscrete (c : Constraint) : Prop := ∀ l ∈ c.literals, l.isReal = false

/-- The shapes of two constraints are such that their common values are decided exactly: either is a
set of literals, or both are ranges of whole numbers, or both are sets of lengths. -/
def IsDecidedWith : Constraint → Constraint → Prop
  | .range a, .range b => a.isInteger = true ∧ b.isInteger = true
  | .range _, .lengths _ | .lengths _, .range _ => False
  | _, _ => True

/-- Two constraints have a value in common: two ranges an integer, two sets of lengths a length, and
otherwise a literal that is compared with theirs without rounding an integer. -/
def SharesValue : Constraint → Constraint → Prop
  | .range a, .range b =>
    ∃ n : Int64, a.contains (.integer n) = true ∧ b.contains (.integer n) = true
  | .lengths a, .lengths b =>
    ∃ n, (∃ r ∈ a, r.contains n = true) ∧ ∃ q ∈ b, q.contains n = true
  | a, b => ∃ x, Literal.unrounded (a.literals ++ b.literals ++ [x]) = true ∧
      a.admits x = true ∧ b.admits x = true

variable {literals : List Literal} {a b c : Constraint}

/-! ### Sets of literals -/

/-- A set of literals and a constraint share a literal exactly if the constraint admits one that the
set is written with. -/
theorem any_admits_iff (hl : (values literals).IsDiscrete) (hc : c.IsDiscrete) :
    literals.any c.admits = true ↔
      ∃ x, Literal.unrounded (literals ++ c.literals ++ [x]) = true ∧
        (values literals).admits x = true ∧ c.admits x = true := by
  rw [List.any_eq_true]
  constructor
  · rintro ⟨l, hmem, hadmits⟩
    have hunrounded : Literal.unrounded (literals ++ c.literals ++ [l]) = true := by
      refine Bool.or_eq_true_iff.mpr (.inl (List.all_eq_true.mpr fun m hm => ?_))
      rw [List.mem_append, List.mem_append, List.mem_singleton] at hm
      rw [Bool.not_eq_true']
      rcases hm with (hm | hm) | rfl
      · exact hl m hm
      · exact hc m hm
      · exact hl m hmem
    exact ⟨l, hunrounded,
      List.any_eq_true.mpr ⟨l, hmem, Literal.sameValue_self (hl l hmem)⟩, hadmits⟩
  · rintro ⟨x, hunrounded, hx, hadmits⟩
    obtain ⟨l, hmem, hsame⟩ := List.any_eq_true.mp hx
    rw [Literal.sameValue_comm] at hsame
    refine ⟨l, hmem, admits_of_sameValue hsame (Literal.unrounded_of_subset hunrounded ?_) hadmits⟩
    simp [hmem]

/-- The same with the set second. -/
theorem any_admits_swap_iff (hl : (values literals).IsDiscrete) (hc : c.IsDiscrete) :
    literals.any c.admits = true ↔
      ∃ x, Literal.unrounded (c.literals ++ literals ++ [x]) = true ∧
        c.admits x = true ∧ (values literals).admits x = true := by
  rw [any_admits_iff hl hc]
  have hswap {ls ms ns : List Literal} (h : Literal.unrounded (ls ++ ms ++ ns) = true) :
      Literal.unrounded (ms ++ ls ++ ns) = true :=
    Literal.unrounded_of_subset h (List.append_subset.mpr ⟨by simp, by simp⟩)
  exact exists_congr fun x => and_congr ⟨hswap, hswap⟩ and_comm

theorem isCompatible_values_left (literals : List Literal) (c : Constraint) :
    (values literals).isCompatible c = literals.any c.admits := by
  cases c with
  | values others =>
    have hswap (x : Literal) : (others.any fun y => x.sameValue y) = (values others).admits x :=
      congrArg others.any (funext fun y => Literal.sameValue_comm x y)
    exact congrArg literals.any (funext hswap)
  | range r => rfl
  | lengths ranges => rfl

theorem isCompatible_values_right (literals : List Literal) (c : Constraint) :
    c.isCompatible (values literals) = literals.any c.admits := by
  cases c with
  | values others =>
    rw [Bool.eq_iff_iff]
    simp only [isCompatible, admits, List.any_eq_true]
    constructor
    · rintro ⟨x, hx, y, hy, hsame⟩
      exact ⟨y, hy, x, hx, hsame⟩
    · rintro ⟨y, hy, x, hx, hsame⟩
      exact ⟨x, hx, y, hy, hsame⟩
  | range r => rfl
  | lengths ranges => rfl

/-! ### The three pairs of shapes -/

theorem isCompatible_range_iff {r p : Range} (hr : r.isInteger = true) (hp : p.isInteger = true) :
    (range r).isCompatible (range p) = true ↔
      ∃ n : Int64, r.contains (.integer n) = true ∧ p.contains (.integer n) = true := by
  simp [isCompatible, Range.isAlphabet_eq_false hr, Range.isAlphabet_eq_false hp,
    Range.overlaps_iff hr hp]

theorem isCompatible_lengths_iff {rs qs : List LengthRange} :
    (lengths rs).isCompatible (lengths qs) = true ↔
      ∃ n, (∃ r ∈ rs, r.contains n = true) ∧ ∃ q ∈ qs, q.contains n = true := by
  simp only [isCompatible, List.any_eq_true, LengthRange.overlaps_iff]
  constructor
  · rintro ⟨r, hr, q, hq, n, hn, hn'⟩
    exact ⟨n, ⟨r, hr, hn⟩, q, hq, hn'⟩
  · rintro ⟨n, ⟨r, hr, hn⟩, q, hq, hn'⟩
    exact ⟨r, hr, q, hq, n, hn, hn'⟩

/-- Two constraints of such shapes are compatible exactly if they share a value. -/
theorem isCompatible_iff (ha : a.IsDiscrete) (hb : b.IsDiscrete) (hab : a.IsDecidedWith b) :
    a.isCompatible b = true ↔ a.SharesValue b := by
  cases a with
  | values ls => exact (isCompatible_values_left ls b).symm ▸ any_admits_iff ha hb
  | range r =>
    cases b with
    | values ls => exact (isCompatible_values_right ls _).symm ▸ any_admits_swap_iff hb ha
    | range p => exact isCompatible_range_iff hab.1 hab.2
    | lengths qs => exact hab.elim
  | lengths rs =>
    cases b with
    | values ls => exact (isCompatible_values_right ls _).symm ▸ any_admits_swap_iff hb ha
    | range p => exact hab.elim
    | lengths qs => exact isCompatible_lengths_iff

/-- Compatibility of two constraints of such shapes goes both ways. -/
theorem isCompatible_comm (hab : a.IsDecidedWith b) : a.isCompatible b = b.isCompatible a := by
  cases a with
  | values ls => rw [isCompatible_values_left, isCompatible_values_right]
  | range r =>
    cases b with
    | values ls => rw [isCompatible_values_left, isCompatible_values_right]
    | range p =>
      rw [Bool.eq_iff_iff, isCompatible_range_iff hab.1 hab.2, isCompatible_range_iff hab.2 hab.1]
      exact exists_congr fun _ => and_comm
    | lengths qs => exact hab.elim
  | lengths rs =>
    cases b with
    | values ls => rw [isCompatible_values_left, isCompatible_values_right]
    | range p => exact hab.elim
    | lengths qs =>
      rw [Bool.eq_iff_iff, isCompatible_lengths_iff, isCompatible_lengths_iff]
      exact exists_congr fun _ => and_comm

/-- Two whole constraints clash exactly if they are not compatible. -/
theorem clash?_isSome_iff (a b : Constraint) :
    (a.clash? b false false).isSome = true ↔ a.isCompatible b ≠ true := by
  rw [clash?]
  split <;> simp_all

end Constraint

/-- **Compatibility is exact and goes both ways** where no literal is a real, and either constraint
is a set of literals, or both are ranges of whole numbers, or both sets of lengths: the two are
compatible exactly if they share a value, and otherwise they clash. -/
theorem Constraint.isCompatible_iff_sharesValue {a b : Constraint} (ha : a.IsDiscrete)
    (hb : b.IsDiscrete) (hab : a.IsDecidedWith b) :
    (a.isCompatible b = true ↔ a.SharesValue b) ∧ a.isCompatible b = b.isCompatible a ∧
      ((a.clash? b false false).isSome = true ↔ ¬ a.SharesValue b) := by
  have hshares := Constraint.isCompatible_iff ha hb hab
  exact ⟨hshares, Constraint.isCompatible_comm hab,
    (Constraint.clash?_isSome_iff a b).trans (not_congr hshares)⟩

/-- The set of one letter, written as a string, and the alphabet up to that letter share it.  So do
the numbers above 4 and those below 6, but not above 4 and below 5; and the lengths from 7 down
to 2 are none that could be shared. -/
theorem Constraint.isCompatible_iff_sharesValue_ends :
    (Constraint.values [.string "k"]).isCompatible
        (.range ⟨some ⟨.char 'a', true⟩, some ⟨.char 'k', false⟩⟩) = true ∧
      Constraint.SharesValue (.range ⟨some ⟨.integer 4, true⟩, none⟩)
        (.range ⟨none, some ⟨.integer 6, true⟩⟩) ∧
      ¬ Constraint.SharesValue (.range ⟨some ⟨.integer 4, true⟩, none⟩)
        (.range ⟨none, some ⟨.integer 5, true⟩⟩) ∧
      ¬ Constraint.SharesValue (.lengths [⟨7, some 2⟩]) (.lengths [⟨0, none⟩]) := by
  have hdiscrete {c : Constraint} (h : c.literals.all (fun l => !l.isReal) = true) :
      c.IsDiscrete := fun l hl => by simpa using List.all_eq_true.mp h l hl
  have hletter := Constraint.isCompatible_iff_sharesValue (a := .values [.string "k"])
    (b := .range ⟨some ⟨.char 'a', true⟩, some ⟨.char 'k', false⟩⟩)
    (hdiscrete rfl) (hdiscrete rfl) trivial
  have hnumbers (n : Int64) := Constraint.isCompatible_iff_sharesValue
    (a := .range ⟨some ⟨.integer 4, true⟩, none⟩) (b := .range ⟨none, some ⟨.integer n, true⟩⟩)
    (hdiscrete rfl) (hdiscrete rfl) ⟨rfl, rfl⟩
  have hlengths := Constraint.isCompatible_iff_sharesValue (a := .lengths [⟨7, some 2⟩])
    (b := .lengths [⟨0, none⟩]) (hdiscrete rfl) (hdiscrete rfl) trivial
  refine ⟨hletter.2.1.trans (by decide), (hnumbers 6).1.mp (by decide),
    (hnumbers 5).2.2.mp (by decide), hlengths.2.2.mp (by decide)⟩

/-- The sets of two neighbouring integers that one binary number stands for are not compatible,
though both admit that number. -/
theorem Constraint.not_isCompatible_roundedInteger :
    let even : Constraint := .values [.integer 9007199254740992]
    let odd : Constraint := .values [.integer 9007199254740993]
    even.IsDiscrete ∧ odd.IsDiscrete ∧ even.isCompatible odd = false ∧
      ∃ x, even.admits x = true ∧ odd.admits x = true := by
  intro even odd
  refine ⟨by simp [even, IsDiscrete, literals, Literal.isReal],
    by simp [odd, IsDiscrete, literals, Literal.isReal], by decide,
    .real (.ofInt64 9007199254740992), ?_, ?_⟩
  all_goals decide +kernel

end TestSpec
