import Mathlib.Data.Set.Card
import TestSpec.Proofs.Constraint.Membership

/-!
# Ranges of whole numbers

A range whose limits are integers has the whole numbers from a least to a greatest one: an absent
limit is the end of the 64-bit domain, an exclusive one is passed by one unit, which
may leave the domain.  Where it does, nothing is in the range, and the arithmetic stays
within words (`Range.FitsWords`).

So the questions about such ranges are answered exactly: whether a range has no number
(`Range.isEmpty_iff`), whether two share one (`Range.overlaps_iff`), whether one lies within
another (`Range.within_iff`), and, where the numbers of a range can be listed, whether
they all belong to a set.  `Range.narrowing_of_isInteger` gathers them.
-/

namespace TestSpec

/-- A whole number between the ends of the 64-bit domain is one of 64 bits. -/
theorem exists_int64 {i : Int} (hmin : int64Min ≤ i) (hmax : i ≤ int64Max) :
    ∃ n : Int64, n.toInt = i := by
  unfold int64Min at hmin
  unfold int64Max at hmax
  exact ⟨Int64.ofInt i, Int64.toInt_ofInt_of_le (by omega) (by omega)⟩

theorem int64Min_le (n : Int64) : int64Min ≤ n.toInt := n.le_toInt

theorem le_int64Max (n : Int64) : n.toInt ≤ int64Max := Int.le_of_lt_add_one n.toInt_lt

namespace Range

/-! ### The least and the greatest number -/

/-- The least number of a range has 64 bits, or an exclusive limit has been passed beyond the
domain. -/
theorem leastInteger_cases (r : Range) :
    (∃ n : Int64, r.leastInteger = n.toInt) ∨ r.leastInteger = int64Max + 1 := by
  unfold leastInteger
  split
  · rename_i i isExclusive _
    cases isExclusive with
    | false => exact .inl ⟨i, rfl⟩
    | true =>
      rcases (le_int64Max i).lt_or_eq with hlt | heq
      · obtain ⟨n, hn⟩ := exists_int64 ((int64Min_le i).trans (Int.le_add_one (le_refl _))) hlt
        exact .inl ⟨n, hn.symm⟩
      · exact .inr (congrArg (· + 1) heq)
  · exact .inl ⟨Int64.minValue, rfl⟩

/-- The greatest number of a range has 64 bits, or an exclusive limit has been passed beyond the
domain. -/
theorem greatestInteger_cases (r : Range) :
    (∃ n : Int64, r.greatestInteger = n.toInt) ∨ r.greatestInteger = int64Min - 1 := by
  unfold greatestInteger
  split
  · rename_i i isExclusive _
    cases isExclusive with
    | false => exact .inl ⟨i, rfl⟩
    | true =>
      rcases (int64Min_le i).lt_or_eq with hlt | heq
      · obtain ⟨n, hn⟩ := exists_int64 (Int.le_sub_one_of_lt hlt)
          ((Int.sub_le_self _ (by decide)).trans (le_int64Max i))
        exact .inl ⟨n, hn.symm⟩
      · exact .inr (congrArg (· - 1) heq.symm)
  · exact .inl ⟨Int64.maxValue, rfl⟩

theorem int64Min_le_leastInteger (r : Range) : int64Min ≤ r.leastInteger := by
  rcases r.leastInteger_cases with ⟨n, hn⟩ | h
  · rw [hn]
    exact int64Min_le n
  · rw [h]
    decide

theorem greatestInteger_le_int64Max (r : Range) : r.greatestInteger ≤ int64Max := by
  rcases r.greatestInteger_cases with ⟨n, hn⟩ | h
  · rw [hn]
    exact le_int64Max n
  · rw [h]
    decide

variable {r p : Range}

theorem contains_integer_iff (hr : r.isInteger = true) (n : Int64) :
    r.contains (.integer n) = true ↔ r.leastInteger ≤ n.toInt ∧ n.toInt ≤ r.greatestInteger :=
  containsScalar_integer_iff hr n

/-- Between the least and the greatest number of a range, all numbers belong to it. -/
theorem exists_contains {i : Int} (hr : r.isInteger = true) (hleast : r.leastInteger ≤ i)
    (hgreatest : i ≤ r.greatestInteger) :
    ∃ n : Int64, n.toInt = i ∧ r.contains (.integer n) = true := by
  obtain ⟨n, hn⟩ := exists_int64 (r.int64Min_le_leastInteger.trans hleast)
    (hgreatest.trans r.greatestInteger_le_int64Max)
  exact ⟨n, hn, (contains_integer_iff hr n).mpr (hn ▸ ⟨hleast, hgreatest⟩)⟩

/-! ### Common numbers -/

/-- Two ranges overlap exactly if a number belongs to both. -/
theorem overlaps_iff (hr : r.isInteger = true) (hp : p.isInteger = true) :
    r.overlaps p = true ↔
      ∃ n : Int64, r.contains (.integer n) = true ∧ p.contains (.integer n) = true := by
  have hends : r.overlaps p = true ↔
      max r.leastInteger p.leastInteger ≤ min r.greatestInteger p.greatestInteger := by
    simp [overlaps, hr, hp]
  rw [hends]
  constructor
  · intro h
    obtain ⟨hboth, hboth'⟩ := le_min_iff.mp h
    obtain ⟨n, hn, hcontains⟩ := exists_contains hr (le_max_left _ _) hboth
    exact ⟨n, hcontains, (contains_integer_iff hp n).mpr (hn ▸ ⟨le_max_right _ _, hboth'⟩)⟩
  · rintro ⟨n, hn, hn'⟩
    obtain ⟨hleast, hgreatest⟩ := (contains_integer_iff hr n).mp hn
    obtain ⟨hleast', hgreatest'⟩ := (contains_integer_iff hp n).mp hn'
    exact (max_le hleast hleast').trans (le_min hgreatest hgreatest')

/-- A range is empty exactly if no number belongs to it. -/
theorem isEmpty_iff (hr : r.isInteger = true) :
    r.isEmpty = true ↔ ∀ n : Int64, r.contains (.integer n) = false := by
  have hoverlaps := overlaps_iff (p := {}) hr rfl
  have hall (n : Int64) : ({} : Range).contains (.integer n) = true := rfl
  rw [isEmpty, Bool.not_eq_true', ← Bool.not_eq_true, hoverlaps]
  simp [hall]

theorem isEmpty_iff_lt (hr : r.isInteger = true) :
    r.isEmpty = true ↔ r.greatestInteger < r.leastInteger := by
  rw [isEmpty_iff hr]
  constructor
  · intro h
    by_contra hle
    obtain ⟨n, -, hn⟩ := exists_contains hr (le_refl _) (not_lt.mp hle)
    rw [h n] at hn
    cases hn
  · intro hlt n
    rw [← Bool.not_eq_true, contains_integer_iff hr]
    omega

/-- A range lies within another exactly if all its numbers belong to the other. -/
theorem within_iff (hr : r.isInteger = true) (hp : p.isInteger = true) :
    r.within p = true ↔
      ∀ n : Int64, r.contains (.integer n) = true → p.contains (.integer n) = true := by
  have hends : r.within p = true ↔ r.greatestInteger < r.leastInteger ∨
      (p.leastInteger ≤ r.leastInteger ∧ r.greatestInteger ≤ p.greatestInteger) := by
    simp [within, hr, hp]
  rw [hends]
  constructor
  · intro h n hn
    rw [contains_integer_iff hr] at hn
    rw [contains_integer_iff hp]
    omega
  · intro h
    rw [or_iff_not_imp_left, not_lt]
    intro hle
    obtain ⟨n, hn, hleast⟩ := exists_contains hr (le_refl _) hle
    obtain ⟨m, hm, hgreatest⟩ := exists_contains hr hle (le_refl _)
    have hn' := (contains_integer_iff hp n).mp (h n hleast)
    have hm' := (contains_integer_iff hp m).mp (h m hgreatest)
    exact ⟨hn ▸ hn'.1, hm ▸ hm'.2⟩

/-! ### Listing a range -/

/-- The numbers from the least to the greatest in ascending order. -/
def listed (r : Range) : List Int64 :=
  (List.range (r.greatestInteger - r.leastInteger + 1).toNat).map fun k : Nat =>
    Int64.ofInt (r.leastInteger + k)

theorem length_listed (r : Range) :
    r.listed.length = (r.greatestInteger - r.leastInteger + 1).toNat := by
  rw [listed, List.length_map, List.length_range]

/-- No number that is listed leaves the words. -/
theorem map_toInt_listed (r : Range) : r.listed.map Int64.toInt =
    (List.range r.listed.length).map fun k : Nat => r.leastInteger + k := by
  rw [length_listed, listed, List.map_map]
  refine List.map_congr_left fun k hk => ?_
  rw [List.mem_range] at hk
  have hmin : int64Min ≤ r.leastInteger + k := by
    have := r.int64Min_le_leastInteger
    omega
  have hmax : r.leastInteger + k ≤ int64Max := by
    have := r.greatestInteger_le_int64Max
    omega
  unfold int64Min at hmin
  unfold int64Max at hmax
  exact Int64.toInt_ofInt_of_le (by omega) (by omega)

theorem nodup_listed (r : Range) : r.listed.Nodup := by
  refine List.Nodup.of_map Int64.toInt ?_
  rw [map_toInt_listed]
  exact List.nodup_range.map fun i j h => by simpa using h

theorem mem_listed_iff (hr : r.isInteger = true) (n : Int64) :
    n ∈ r.listed ↔ r.contains (.integer n) = true := by
  have htoInt : n ∈ r.listed ↔ n.toInt ∈ r.listed.map Int64.toInt := by
    simp [List.mem_map, Int64.toInt_inj]
  rw [htoInt, map_toInt_listed, length_listed, contains_integer_iff hr, List.mem_map]
  constructor
  · rintro ⟨k, hk, hn⟩
    rw [List.mem_range] at hk
    omega
  · rintro ⟨hleast, hgreatest⟩
    exact ⟨(n.toInt - r.leastInteger).toNat, List.mem_range.mpr (by omega), by omega⟩

/-- As many numbers are listed as belong to the range. -/
theorem encard_eq_length_listed (hr : r.isInteger = true) :
    {n : Int64 | r.contains (.integer n) = true}.encard = r.listed.length := by
  have hset : {n : Int64 | r.contains (.integer n) = true} = (r.listed.toFinset : Set Int64) := by
    ext n
    simp [mem_listed_iff hr]
  rw [hset, Set.encard_coe_eq_coe_finsetCard, List.toFinset_card_of_nodup r.nodup_listed]

/-- The members of a range with both ends are what is listed, if that is not too much. -/
theorem members?_eq (hr : r.isInteger = true) (limit : Nat) : r.members? limit =
    if r.lower.isSome ∧ r.upper.isSome ∧ r.listed.length ≤ limit then some r.listed else none := by
  rw [length_listed]
  cases hlower : r.lower.isSome <;> cases hupper : r.upper.isSome <;>
    simp [members?, hr, hlower, hupper, listed]

/-- The members of a range that is listed are all integers that belong to it. -/
theorem mem_members {members : List Int64} {limit : Nat} (h : r.members? limit = some members)
    {n : Int64} (hn : r.contains (.integer n) = true) : n ∈ members := by
  have hr : r.isInteger = true := by
    by_contra hr
    simp [members?, hr] at h
  rw [members?_eq hr] at h
  split at h
  · obtain rfl := Option.some.inj h
    exact (mem_listed_iff hr n).mpr hn
  · cases h

/-! ### Narrowing -/

theorem isAlphabet_eq_false (hr : r.isInteger = true) : r.isAlphabet = false := by
  refine List.any_eq_false.mpr fun l hl => ?_
  have hinteger : l.isInteger = true := List.all_eq_true.mp hr l hl
  cases l <;> simp_all [Literal.isInteger, Literal.isText]

/-- One range of whole numbers narrows another exactly if it lies within it. -/
theorem isSubsetOf_range_iff (hr : r.isInteger = true) (hp : p.isInteger = true) :
    (Constraint.range r).isSubsetOf (.range p) = true ↔ r.within p = true := by
  simp [Constraint.isSubsetOf, isAlphabet_eq_false hr, isAlphabet_eq_false hp]

/-- A range narrows a set of integers exactly if it has both ends, is small enough to be listed, and
has no number that is not in the set. -/
theorem isSubsetOf_values_iff (hr : r.isInteger = true) (s : List Int64) :
    (Constraint.range r).isSubsetOf (.values (s.map .integer)) = true ↔
      (r.lower.isSome = true ∧ r.upper.isSome = true ∧ r.listed.length ≤ Constraint.maxListed) ∧
        ∀ n : Int64, r.contains (.integer n) = true → n ∈ s := by
  have hany (n : Int64) :
      (s.map Literal.integer).any (fun l => l.sameValue (.integer n)) = true ↔ n ∈ s := by
    simp [Literal.sameValue, Literal.compare?, Int64.toInt_inj]
  rw [Constraint.isSubsetOf, members?_eq hr]
  split_ifs with hends
  · simp only [List.all_eq_true, hany, mem_listed_iff hr]
    exact (and_iff_right hends).symm
  · simp [hends]

/-! ### Staying within words -/

/-- What is computed from the limits of a range fits the words it is kept in. -/
structure FitsWords (r : Range) : Prop where
  /-- One unit above an exclusive limit is a number of 64 bits, or nothing is in the range. -/
  least : (∃ n : Int64, r.leastInteger = n.toInt) ∨
    r.isEmpty = true ∧ r.leastInteger = int64Max + 1
  /-- One unit below an exclusive limit is a number of 64 bits, or nothing is in the range. -/
  greatest : (∃ n : Int64, r.greatestInteger = n.toInt) ∨
    r.isEmpty = true ∧ r.greatestInteger = int64Min - 1
  /-- The count of the numbers in a range is positive and has 65 bits, hence also 128. -/
  count : r.isEmpty = false → 0 < r.greatestInteger - r.leastInteger + 1 ∧
    r.greatestInteger - r.leastInteger + 1 ≤ wordLimit
  /-- The numbers that are listed are those that are computed. -/
  listed : r.listed.map Int64.toInt =
    (List.range r.listed.length).map fun k : Nat => r.leastInteger + k

theorem fitsWords (hr : r.isInteger = true) : r.FitsWords where
  least := r.leastInteger_cases.imp_right fun h => by
    have hmax := r.greatestInteger_le_int64Max
    exact ⟨(isEmpty_iff_lt hr).mpr (by omega), h⟩
  greatest := r.greatestInteger_cases.imp_right fun h => by
    have hmin := r.int64Min_le_leastInteger
    exact ⟨(isEmpty_iff_lt hr).mpr (by omega), h⟩
  count hnonempty := by
    have hle : ¬ r.greatestInteger < r.leastInteger := fun hlt => by
      rw [(isEmpty_iff_lt hr).mpr hlt] at hnonempty
      cases hnonempty
    have hmin := r.int64Min_le_leastInteger
    have hmax := r.greatestInteger_le_int64Max
    unfold int64Min at hmin
    unfold int64Max at hmax
    unfold wordLimit
    omega
  listed := r.map_toInt_listed

end Range

/-- **Ranges of whole numbers are judged exactly.**  Let the limits of a range be integers.  It is
empty exactly if no integer belongs to it.  It narrows another range of that kind exactly if all its
integers belong to that.  If it narrows a set of integers, all its integers are in the set,
and conversely where it has both ends and no more integers than are listed.  What is computed
on the way fits the words it is kept in. -/
theorem Range.narrowing_of_isInteger {r : Range} (hr : r.isInteger = true) :
    (r.isEmpty = true ↔ ∀ n : Int64, r.contains (.integer n) = false) ∧
    (∀ p : Range, p.isInteger = true →
      ((Constraint.range r).isSubsetOf (.range p) = true ↔
        ∀ n : Int64, r.contains (.integer n) = true → p.contains (.integer n) = true)) ∧
    (∀ s : List Int64,
      ((Constraint.range r).isSubsetOf (.values (s.map .integer)) = true →
        ∀ n : Int64, r.contains (.integer n) = true → n ∈ s) ∧
      (r.lower.isSome = true → r.upper.isSome = true →
        {n : Int64 | r.contains (.integer n) = true}.encard ≤ Constraint.maxListed →
          ((Constraint.range r).isSubsetOf (.values (s.map .integer)) = true ↔
            ∀ n : Int64, r.contains (.integer n) = true → n ∈ s))) ∧
    r.FitsWords := by
  refine ⟨Range.isEmpty_iff hr, fun p hp => ?_, fun s => ⟨fun hsub => ?_, ?_⟩, Range.fitsWords hr⟩
  · rw [Range.isSubsetOf_range_iff hr hp, Range.within_iff hr hp]
  · exact ((Range.isSubsetOf_values_iff hr s).mp hsub).2
  · intro hlower hupper hcount
    rw [Range.encard_eq_length_listed hr] at hcount
    have hlength : r.listed.length ≤ Constraint.maxListed := by exact_mod_cast hcount
    rw [Range.isSubsetOf_values_iff hr s, and_iff_right ⟨hlower, hupper, hlength⟩]

/-- The range above the least number of 64 bits and below the third one after it: it has two
numbers, and lies within all up to the greater of them and within the set of the two.  Above the
greatest number there is none. -/
theorem Range.narrowing_of_isInteger_lowest :
    let lowest : Range :=
      ⟨some ⟨.integer Int64.minValue, true⟩, some ⟨.integer (Int64.minValue + 3), true⟩⟩
    let upTo : Range := ⟨none, some ⟨.integer (Int64.minValue + 2), false⟩⟩
    let beyond : Range := ⟨some ⟨.integer Int64.maxValue, true⟩, none⟩
    lowest.isInteger = true ∧ upTo.isInteger = true ∧ beyond.isInteger = true ∧
      (Constraint.range lowest).isSubsetOf (.range upTo) = true ∧
      (Constraint.range lowest).isSubsetOf
        (.values ([Int64.minValue + 2, Int64.minValue + 1].map .integer)) = true ∧
      ∀ n : Int64, beyond.contains (.integer n) = false := by
  intro lowest upTo beyond
  have hlisted : lowest.listed = [Int64.minValue + 1, Int64.minValue + 2] := by decide
  have hmem (n : Int64) (hn : lowest.contains (.integer n) = true) :
      n = Int64.minValue + 1 ∨ n = Int64.minValue + 2 := by
    simpa [hlisted] using (Range.mem_listed_iff (r := lowest) rfl n).mpr hn
  have hcount :
      {n : Int64 | lowest.contains (.integer n) = true}.encard ≤ Constraint.maxListed := by
    rw [Range.encard_eq_length_listed rfl, hlisted]
    exact_mod_cast (by decide : 2 ≤ Constraint.maxListed)
  obtain ⟨-, hrange, hvalues, -⟩ := Range.narrowing_of_isInteger (r := lowest) rfl
  refine ⟨rfl, rfl, rfl, (hrange upTo rfl).mpr fun n hn => ?_,
    ((hvalues _).2 rfl rfl hcount).mpr fun n hn => ?_,
    (Range.narrowing_of_isInteger (r := beyond) rfl).1.mp (by decide)⟩
  · rcases hmem n hn with rfl | rfl <;> decide
  · rcases hmem n hn with rfl | rfl <;> simp

end TestSpec
