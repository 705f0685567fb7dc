import Mathlib.Data.List.Pairwise
import Mathlib.Order.MinMax
import TestSpec.Constraint.Basic

/-!
# Merged lengths

Merging a set of length ranges sorts those that permit any length by their least length, and
coalesces each with those behind it that overlap or adjoin it.  What is left is in ascending
order, with a gap between any two (`LengthRange.IsBefore`), and permits the same lengths
(`LengthRange.exists_mem_merge_iff`).

The gaps are what makes narrowing exact.  A range whose lengths all lie in the set cannot
reach from one merged range into another, because the length behind the end of the first
lies in none of them.  So it lies within one merged range, which is what
`Constraint.isSubsetOf` asks (`Constraint.isSubsetOf_lengths_iff`).
-/

namespace TestSpec

namespace LengthRange

variable {a b q r current next : LengthRange} {rest ranges merged : List LengthRange} {m n : Nat}

theorem contains_iff : r.contains n = true ↔ r.least ≤ n ∧ ∀ m ∈ r.greatest, n ≤ m := by
  rw [contains, Bool.and_eq_true, decide_eq_true_eq]
  cases r.greatest <;> simp

theorem isWellFormed_of_contains (h : r.contains n = true) : r.isWellFormed = true := by
  obtain ⟨hleast, hgreatest⟩ := contains_iff.mp h
  unfold isWellFormed
  cases hr : r.greatest with
  | none => rfl
  | some m => simpa using hleast.trans (hgreatest m hr)

/-- A range that permits any length permits its least. -/
theorem contains_least (h : r.isWellFormed = true) : r.contains r.least = true := by
  refine contains_iff.mpr ⟨le_refl _, fun m hm => ?_⟩
  simpa [isWellFormed, Option.mem_def.mp hm] using h

theorem isWellFormed_iff : r.isWellFormed = true ↔ ∃ n, r.contains n = true :=
  ⟨fun h => ⟨r.least, contains_least h⟩, fun ⟨_, hn⟩ => isWellFormed_of_contains hn⟩

theorem contains_of_within (h : r.within q = true) (hr : r.contains n = true) :
    q.contains n = true := by
  obtain ⟨hleast, hgreatest⟩ := contains_iff.mp hr
  simp only [within, Bool.and_eq_true, decide_eq_true_eq] at h
  refine contains_iff.mpr ⟨h.1.trans hleast, fun m hm => ?_⟩
  cases hend : r.greatest with
  | none => simp [Option.mem_def.mp hm, hend] at h
  | some k =>
    have hkm : k ≤ m := by simpa [Option.mem_def.mp hm, hend] using h.2
    exact (hgreatest k hend).trans hkm

/-! ### Common lengths -/

theorem le_smallerEnd_iff {i j : Option Nat} :
    (∀ m ∈ smallerEnd i j, n ≤ m) ↔ (∀ m ∈ i, n ≤ m) ∧ ∀ m ∈ j, n ≤ m := by
  cases i <;> cases j <;> simp [smallerEnd]

theorem contains_inter_iff :
    (a.inter b).contains n = true ↔ a.contains n = true ∧ b.contains n = true := by
  rw [contains_iff, contains_iff, contains_iff, inter, max_le_iff, le_smallerEnd_iff]
  exact and_and_and_comm

/-- Two ranges overlap exactly if both permit some length. -/
theorem overlaps_iff : a.overlaps b = true ↔ ∃ n, a.contains n = true ∧ b.contains n = true := by
  simp only [overlaps, isWellFormed_iff, contains_inter_iff]

/-! ### Coalescing -/

/-- A range ends before another begins, and at least one length between them belongs to neither. -/
def IsBefore (a b : LengthRange) : Prop := ∃ n ∈ a.greatest, n + 1 < b.least

/-- The ranges stand in the order of their least lengths. -/
def Ascending (ranges : List LengthRange) : Prop := ranges.Pairwise fun a b => a.least ≤ b.least

/-- Lengths of two ranges with a gap between them are no neighbours. -/
theorem IsBefore.lt_of_contains (h : a.IsBefore b) (ha : a.contains m = true)
    (hb : b.contains n = true) : m + 1 < n := by
  obtain ⟨k, hk, hgap⟩ := h
  have hm : m ≤ k := (contains_iff.mp ha).2 k hk
  have hn : b.least ≤ n := (contains_iff.mp hb).1
  omega

/-- Two ranges coalesced into one permit the same lengths, if the second begins neither before the
first nor beyond the place behind its end. -/
theorem contains_coalesced_iff (hle : current.least ≤ next.least)
    (hnext : current.greatest.all (fun m => next.least ≤ m + 1) = true) :
    contains ⟨current.least, greaterEnd current.greatest next.greatest⟩ n = true ↔
      current.contains n = true ∨ next.contains n = true := by
  rw [contains_iff, contains_iff, contains_iff]
  cases hcurrent : current.greatest with
  | none =>
    simp only [greaterEnd, Option.not_mem_none, false_implies, implies_true, and_true]
    exact ⟨.inl, fun h => h.elim id fun h => hle.trans h.1⟩
  | some i =>
    have hi : next.least ≤ i + 1 := by simpa [hcurrent] using hnext
    cases next.greatest with
    | none =>
      simp only [greaterEnd, Option.mem_some_iff, forall_eq', Option.not_mem_none, false_implies,
        implies_true, and_true]
      omega
    | some j =>
      simp only [greaterEnd, Option.mem_some_iff, forall_eq', le_max_iff]
      omega

/-- Coalescing the first two of ranges in ascending order keeps the order. -/
theorem Ascending.coalesced (h : Ascending (current :: next :: rest)) (end? : Option Nat) :
    Ascending (⟨current.least, end?⟩ :: rest) := by
  obtain ⟨hcurrent, hnext⟩ := List.pairwise_cons.mp h
  exact List.pairwise_cons.mpr
    ⟨fun r hr => hcurrent r (List.mem_cons_of_mem _ hr), (List.pairwise_cons.mp hnext).2⟩

theorem Ascending.head_le (h : Ascending (current :: next :: rest)) :
    current.least ≤ next.least :=
  List.rel_of_pairwise_cons h (List.mem_cons_self ..)

/-- No coalesced range begins before the first that went into them. -/
theorem least_le_of_mem_coalesce (hsorted : Ascending (current :: rest))
    (hq : q ∈ coalesce current rest) : current.least ≤ q.least := by
  fun_induction coalesce current rest with
  | case1 current => exact (congrArg least (List.mem_singleton.mp hq)).ge
  | case2 current next rest hnext ih => exact ih (hsorted.coalesced _) hq
  | case3 current next rest hnext ih =>
    rcases List.mem_cons.mp hq with rfl | hq
    · exact le_refl _
    · exact hsorted.head_le.trans (ih (List.pairwise_cons.mp hsorted).2 hq)

/-- Coalescing leaves a gap between any two ranges. -/
theorem coalesce_isBefore (hsorted : Ascending (current :: rest)) :
    (coalesce current rest).Pairwise IsBefore := by
  fun_induction coalesce current rest with
  | case1 current => exact List.pairwise_singleton _ _
  | case2 current next rest hnext ih => exact ih (hsorted.coalesced _)
  | case3 current next rest hnext ih =>
    have hrest : Ascending (next :: rest) := (List.pairwise_cons.mp hsorted).2
    refine List.pairwise_cons.mpr ⟨fun q hq => ?_, ih hrest⟩
    -- the range stands still because the next begins behind the place after its end
    cases hend : current.greatest with
    | none => simp [hend] at hnext
    | some k =>
      have hgap : k + 1 < next.least := by simpa [hend] using hnext
      exact ⟨k, hend, hgap.trans_le (least_le_of_mem_coalesce hrest hq)⟩

/-- Coalesced ranges permit the same lengths. -/
theorem exists_mem_coalesce_iff (hsorted : Ascending (current :: rest)) :
    (∃ q ∈ coalesce current rest, q.contains n = true) ↔
      ∃ r ∈ current :: rest, r.contains n = true := by
  fun_induction coalesce current rest with
  | case1 current => exact Iff.rfl
  | case2 current next rest hnext ih =>
    rw [ih (hsorted.coalesced _)]
    simp only [List.mem_cons, exists_eq_or_imp, contains_coalesced_iff hsorted.head_le hnext,
      or_assoc]
  | case3 current next rest hnext ih =>
    have hrest : Ascending (next :: rest) := (List.pairwise_cons.mp hsorted).2
    simp only [List.mem_cons, exists_eq_or_imp] at ih ⊢
    exact or_congr_right (ih hrest)

/-- Ranges coalesced from ranges that permit any length permit some themselves. -/
theorem isWellFormed_of_mem_coalesce (hsorted : Ascending (current :: rest))
    (hall : ∀ r ∈ current :: rest, r.isWellFormed = true) (hq : q ∈ coalesce current rest) :
    q.isWellFormed = true := by
  fun_induction coalesce current rest with
  | case1 current => exact hall q hq
  | case2 current next rest hnext ih =>
    have hcurrent : current.contains current.least = true :=
      contains_least (hall current (List.mem_cons_self ..))
    refine ih (hsorted.coalesced _) (List.forall_mem_cons.mpr ⟨?_, fun r hr => ?_⟩) hq
    · exact isWellFormed_of_contains
        ((contains_coalesced_iff hsorted.head_le hnext).mpr (.inl hcurrent))
    · exact hall r (List.mem_cons_of_mem _ (List.mem_cons_of_mem _ hr))
  | case3 current next rest hnext ih =>
    obtain ⟨hcurrent, hrest⟩ := List.forall_mem_cons.mp hall
    rcases List.mem_cons.mp hq with rfl | hq
    · exact hcurrent
    · exact ih (List.pairwise_cons.mp hsorted).2 hrest hq

/-! ### Merging -/

/-- What merging coalesces: the ranges that permit any length, in ascending order. -/
theorem exists_sorted (ranges : List LengthRange) : ∃ sorted : List LengthRange,
    Ascending sorted ∧ (∀ r, r ∈ sorted ↔ r ∈ ranges ∧ r.isWellFormed = true) ∧
      merge ranges = match sorted with
        | [] => []
        | first :: rest => coalesce first rest := by
  refine ⟨(ranges.filter isWellFormed).mergeSort fun a b => a.least ≤ b.least, ?_, ?_, rfl⟩
  · have hpairwise : ((ranges.filter isWellFormed).mergeSort fun a b => a.least ≤ b.least).Pairwise
        fun a b => decide (a.least ≤ b.least) = true :=
      List.pairwise_mergeSort
        (fun a b c hab hbc =>
          decide_eq_true ((of_decide_eq_true hab).trans (of_decide_eq_true hbc)))
        (fun a b => by simpa using le_total a.least b.least) _
    exact hpairwise.imp fun h => of_decide_eq_true h
  · exact fun r => by rw [List.mem_mergeSort, List.mem_filter]

/-- Merged ranges have a gap between any two. -/
theorem merge_isBefore (ranges : List LengthRange) : (merge ranges).Pairwise IsBefore := by
  obtain ⟨sorted, hsorted, -, hmerge⟩ := exists_sorted ranges
  rw [hmerge]
  cases sorted with
  | nil => exact List.Pairwise.nil
  | cons first rest => exact coalesce_isBefore hsorted

/-- Every merged range permits some length. -/
theorem merge_isWellFormed (ranges : List LengthRange) :
    (merge ranges).all isWellFormed = true := by
  obtain ⟨sorted, hsorted, hmem, hmerge⟩ := exists_sorted ranges
  rw [hmerge, List.all_eq_true]
  cases sorted with
  | nil => exact fun q hq => absurd hq List.not_mem_nil
  | cons first rest =>
    exact fun q hq => isWellFormed_of_mem_coalesce hsorted (fun r hr => ((hmem r).mp hr).2) hq

/-- Merged ranges permit the same lengths. -/
theorem exists_mem_merge_iff : (∃ q ∈ merge ranges, q.contains n = true) ↔
    ∃ r ∈ ranges, r.contains n = true := by
  obtain ⟨sorted, hsorted, hmem, hmerge⟩ := exists_sorted ranges
  have hkept : (∃ r ∈ sorted, r.contains n = true) ↔ ∃ r ∈ ranges, r.contains n = true := by
    refine exists_congr fun r => ?_
    rw [hmem, and_assoc]
    exact and_congr_right fun _ => and_iff_right_of_imp isWellFormed_of_contains
  rw [← hkept, hmerge]
  cases sorted with
  | nil => exact Iff.rfl
  | cons first rest => exact exists_mem_coalesce_iff hsorted

/-- With a gap between any two ranges, neighbouring lengths that both lie in them lie in one. -/
theorem eq_of_contains_succ (hmerged : merged.Pairwise IsBefore) (ha : a ∈ merged)
    (hb : b ∈ merged) (hn : a.contains n = true) (hnext : b.contains (n + 1) = true) : a = b := by
  by_contra hne
  have happart : merged.Pairwise fun a b => a.IsBefore b ∨ b.IsBefore a :=
    hmerged.imp .inl
  have hsymm : Std.Symm fun a b : LengthRange => a.IsBefore b ∨ b.IsBefore a :=
    ⟨fun _ _ => Or.symm⟩
  rcases happart.forall ha hb hne with h | h
  · exact absurd (h.lt_of_contains hn hnext) (lt_irrefl _)
  · have hlt := h.lt_of_contains hnext hn
    omega

/-- A range whose lengths all lie in ranges with gaps between them lies within one of those. -/
theorem exists_within (hmerged : merged.Pairwise IsBefore) (hr : r.isWellFormed = true)
    (h : ∀ n, r.contains n = true → ∃ q ∈ merged, q.contains n = true) :
    ∃ q ∈ merged, r.within q = true := by
  obtain ⟨q, hq, hleast⟩ := h r.least (contains_least hr)
  -- no length of the range stands behind the end of `q`, as the first to do so would lie in `q`
  have hinside (k : Nat) (hk : r.contains (r.least + k) = true) :
      q.contains (r.least + k) = true := by
    induction k with
    | zero => exact hleast
    | succ k ih =>
      have hbefore : r.contains (r.least + k) = true := contains_iff.mpr
        ⟨Nat.le_add_right _ _, fun m hm => (Nat.le_succ _).trans ((contains_iff.mp hk).2 m hm)⟩
      obtain ⟨q', hq', hnext⟩ := h _ hk
      rwa [eq_of_contains_succ hmerged hq hq' (ih hbefore) hnext]
  refine ⟨q, hq, ?_⟩
  rw [within, Bool.and_eq_true, decide_eq_true_eq]
  refine ⟨(contains_iff.mp hleast).1, ?_⟩
  cases hend : q.greatest with
  | none => rfl
  | some m =>
    simp only [Option.all_some]
    cases hlast : r.greatest with
    | none =>
      have hbeyond : q.contains (r.least + (m + 1)) = true :=
        hinside (m + 1) (contains_iff.mpr ⟨Nat.le_add_right _ _, by simp [hlast]⟩)
      have hle := (contains_iff.mp hbeyond).2 m hend
      omega
    | some k =>
      have hle : r.least ≤ k := by simpa [isWellFormed, hlast] using hr
      have hk : q.contains (r.least + (k - r.least)) = true :=
        hinside (k - r.least) (contains_iff.mpr ⟨Nat.le_add_right _ _, by simp [hlast, hle]⟩)
      rw [Nat.add_sub_cancel' hle] at hk
      simpa using (contains_iff.mp hk).2 m hend

/-- Merged ranges stand in ascending order. -/
theorem merge_ascending (ranges : List LengthRange) :
    (merge ranges).Pairwise fun a b => a.least < b.least ∧ a.IsBefore b := by
  have hwellFormed := List.all_eq_true.mp (merge_isWellFormed ranges)
  refine (merge_isBefore ranges).imp_of_mem fun ha hb h => ⟨?_, h⟩
  have hlt :=
    h.lt_of_contains (contains_least (hwellFormed _ ha)) (contains_least (hwellFormed _ hb))
  omega

end LengthRange

/-- Lengths that narrow others are permitted by them. -/
theorem Constraint.exists_contains_of_isSubsetOf {child parent : List LengthRange}
    (hsub : (Constraint.lengths child).isSubsetOf (.lengths parent) = true) {n : Nat}
    (hchild : ∃ r ∈ child, r.contains n = true) : ∃ q ∈ parent, q.contains n = true := by
  obtain ⟨r, hr, hn⟩ := hchild
  have hmem : r ∈ child.filter LengthRange.isWellFormed :=
    List.mem_filter.mpr ⟨hr, LengthRange.isWellFormed_of_contains hn⟩
  obtain ⟨q, hq, hwithin⟩ := List.any_eq_true.mp (List.all_eq_true.mp hsub r hmem)
  exact LengthRange.exists_mem_merge_iff.mp ⟨q, hq, LengthRange.contains_of_within hwithin hn⟩

/-- **Narrowing of permitted lengths is exact.**  One set of lengths narrows another exactly if
every length that it permits is permitted by the other.  The ranges that it is compared with permit
the same lengths as the other set; each of them permits some, and they stand in ascending order
with a gap of at least one length between any two. -/
theorem Constraint.isSubsetOf_lengths_iff (child parent : List LengthRange) :
    ((Constraint.lengths child).isSubsetOf (.lengths parent) = true ↔
      ∀ n, (∃ r ∈ child, r.contains n = true) → ∃ q ∈ parent, q.contains n = true) ∧
    (∀ n, (∃ q ∈ LengthRange.merge parent, q.contains n = true) ↔
      ∃ q ∈ parent, q.contains n = true) ∧
    (LengthRange.merge parent).all LengthRange.isWellFormed = true ∧
    (LengthRange.merge parent).Pairwise fun a b => a.least < b.least ∧ a.IsBefore b := by
  refine ⟨⟨fun hsub _ => Constraint.exists_contains_of_isSubsetOf hsub, fun h => ?_⟩,
    fun _ => LengthRange.exists_mem_merge_iff, LengthRange.merge_isWellFormed parent,
    LengthRange.merge_ascending parent⟩
  refine List.all_eq_true.mpr fun r hr => List.any_eq_true.mpr ?_
  obtain ⟨hmem, hwellFormed⟩ := List.mem_filter.mp hr
  refine LengthRange.exists_within (LengthRange.merge_isBefore parent) hwellFormed fun n hn => ?_
  exact LengthRange.exists_mem_merge_iff.mpr (h n ⟨r, hmem, hn⟩)

/-- The lengths from 2 to 5 lie in those from 4 to 6 and from 1 to 3, which adjoin; the lengths
from 2 on do not. -/
theorem Constraint.isSubsetOf_lengths_iff_adjoining :
    (Constraint.lengths [⟨2, some 5⟩]).isSubsetOf
        (.lengths [⟨4, some 6⟩, ⟨9, some 8⟩, ⟨1, some 3⟩]) = true ∧
      (Constraint.lengths [⟨2, none⟩]).isSubsetOf
        (.lengths [⟨4, some 6⟩, ⟨9, some 8⟩, ⟨1, some 3⟩]) = false := by
  refine ⟨(Constraint.isSubsetOf_lengths_iff _ _).1.mpr fun n hn => ?_, ?_⟩
  · simp only [List.mem_cons, List.not_mem_nil, or_false, exists_eq_left, exists_eq_or_imp,
      LengthRange.contains_iff, Option.mem_some_iff, forall_eq'] at hn ⊢
    omega
  · rw [Bool.eq_false_iff]
    intro hsub
    have hseven :=
      (Constraint.isSubsetOf_lengths_iff _ _).1.mp hsub 7 ⟨_, List.mem_singleton_self _, rfl⟩
    revert hseven
    decide

end TestSpec
