import TestSpec.Proofs.Constraint.Place

/-!
# What a constraint admits

A constraint **concerns** a literal if it says something about it: a set of literals about
all, a range about what can be compared with its limits, a set of lengths about texts.  What it
does not concern it admits.  A limit that concerns a literal admits it by its place,
and so does a range, to which a string belongs if all its parts do.

Literals of the same value are admitted alike (`Constraint.admits_of_sameValue`), where comparing
them with the literals of the constraint rounds no integer.
-/

namespace TestSpec

/-! ### Limits -/

namespace Limit

/-- A literal can be compared with the limit. -/
def concerns (limit : Limit) (x : Literal) : Bool := (x.compare? limit.value).isSome

theorem admitsAbove_of_not_concerns {limit : Limit} {x : Literal}
    (h : limit.concerns x = false) : limit.admitsAbove x = true := by
  rw [concerns, Option.isSome_eq_false_iff, Option.isNone_iff_eq_none] at h
  rw [admitsAbove, h]

theorem admitsBelow_of_not_concerns {limit : Limit} {x : Literal}
    (h : limit.concerns x = false) : limit.admitsBelow x = true := by
  rw [concerns, Option.isSome_eq_false_iff, Option.isNone_iff_eq_none] at h
  rw [admitsBelow, h]

section Places

variable {limit : Limit} {x : Literal} {i j : Int}

theorem admitsAbove_iff (h : x.compare? limit.value = some (compare i j)) :
    limit.admitsAbove x = true ↔ j < i ∨ (i = j ∧ limit.isExclusive = false) := by
  rw [admitsAbove, h]
  rcases lt_trichotomy i j with hij | rfl | hij
  · simp [compare_lt_iff_lt.mpr hij, hij.not_gt, hij.ne]
  · simp
  · simp [compare_gt_iff_gt.mpr hij, hij]

theorem admitsBelow_iff (h : x.compare? limit.value = some (compare i j)) :
    limit.admitsBelow x = true ↔ i < j ∨ (i = j ∧ limit.isExclusive = false) := by
  rw [admitsBelow, h]
  rcases lt_trichotomy i j with hij | rfl | hij
  · simp [compare_lt_iff_lt.mpr hij, hij]
  · simp
  · simp [compare_gt_iff_gt.mpr hij, hij.not_gt, hij.ne']

end Places

section Characters

variable {limit : Limit} {c : Char}

theorem admitsAbove_char_iff (hc : limit.value.codePoint? = some (c.toNat : Int)) (x : Char) :
    limit.admitsAbove (.char x) = true ↔ c < x ∨ x = c ∧ limit.isExclusive = false := by
  rw [admitsAbove_iff (Literal.compare?_of_codePoint (a := .char x) rfl hc), Int.ofNat_lt,
    Int.ofNat_inj, Char.toNat_inj, Char.lt_def, UInt32.lt_iff_toNat_lt]
  rfl

theorem admitsBelow_char_iff (hc : limit.value.codePoint? = some (c.toNat : Int)) (x : Char) :
    limit.admitsBelow (.char x) = true ↔ x < c ∨ x = c ∧ limit.isExclusive = false := by
  rw [admitsBelow_iff (Literal.compare?_of_codePoint (a := .char x) rfl hc), Int.ofNat_lt,
    Int.ofNat_inj, Char.toNat_inj, Char.lt_def, UInt32.lt_iff_toNat_lt]
  rfl

end Characters

end Limit

/-! ### Ranges -/

namespace Range

/-- The literals that a range is asked about for a literal: for a string the characters, where the
range is an alphabet, and the literal itself otherwise. -/
def parts (r : Range) : Literal → List Literal
  | .string s => if r.isAlphabet then s.toList.map .char else [.string s]
  | x => [x]

/-- The limits of a range. -/
def limits (r : Range) : List Limit := r.lower.toList ++ r.upper.toList

/-- A literal, or a character of it, can be compared with a limit of the range. -/
def concerns (r : Range) (x : Literal) : Bool :=
  (r.parts x).any fun y => r.limits.any (·.concerns y)

variable {r child parent : Range} {x : Literal}

theorem contains_iff : r.contains x = true ↔ ∀ y ∈ r.parts x, r.containsScalar y = true := by
  cases x with
  | string s =>
    unfold contains parts
    cases r.isAlphabet <;> simp
  | _ => simp [contains, parts]

theorem mem_parts {y : Literal} (h : y ∈ r.parts x) :
    (∃ c, y = .char c) ∨ (y = x ∧ ∀ s, x = .string s → r.isAlphabet = false) := by
  cases x with
  | string s =>
    cases hr : r.isAlphabet with
    | true =>
      simp only [parts, hr, if_true] at h
      obtain ⟨c, -, rfl⟩ := List.mem_map.mp h
      exact .inl ⟨c, rfl⟩
    | false =>
      simp only [parts, hr, Bool.false_eq_true, if_false] at h
      exact .inr ⟨List.mem_singleton.mp h, fun _ _ => rfl⟩
  | _ => exact .inr ⟨List.mem_singleton.mp h, nofun⟩

theorem parts_congr (h : child.isAlphabet = parent.isAlphabet) :
    child.parts x = parent.parts x := by
  cases x <;> simp [parts, h]

theorem mem_limits_of_lower {limit : Limit} (h : r.lower = some limit) : limit ∈ r.limits := by
  simp [limits, h]

theorem mem_limits_of_upper {limit : Limit} (h : r.upper = some limit) : limit ∈ r.limits := by
  simp [limits, h]

theorem value_mem_literals {limit : Limit} (h : limit ∈ r.limits) : limit.value ∈ r.literals :=
  List.mem_map_of_mem h

theorem containsScalar_of_not_concerns (h : ∀ limit ∈ r.limits, limit.concerns x = false) :
    r.containsScalar x = true := by
  rw [containsScalar, Bool.and_eq_true]
  constructor
  · cases hlow : r.lower with
    | none => rfl
    | some low => exact Limit.admitsAbove_of_not_concerns (h low (mem_limits_of_lower hlow))
  · cases hhigh : r.upper with
    | none => rfl
    | some high => exact Limit.admitsBelow_of_not_concerns (h high (mem_limits_of_upper hhigh))

theorem contains_of_not_concerns (h : r.concerns x = false) : r.contains x = true := by
  rw [contains_iff]
  intro y hy
  have hy' := List.any_eq_false.mp h y hy
  exact containsScalar_of_not_concerns (by simpa using hy')

/-- What is no text is not taken apart. -/
theorem contains_eq (hx : x.text? = none) : r.contains x = r.containsScalar x := by
  cases x with
  | string s => cases hx
  | _ => rfl

/-- Literals that are compared alike with the limits of a range belong to it alike. -/
theorem containsScalar_congr {l : Literal}
    (h : ∀ limit ∈ r.limits, l.compare? limit.value = x.compare? limit.value) :
    r.containsScalar l = r.containsScalar x := by
  unfold containsScalar
  congr 1
  · cases hlow : r.lower with
    | none => rfl
    | some low => simp only [Option.all_some, Limit.admitsAbove, h low (mem_limits_of_lower hlow)]
  · cases hhigh : r.upper with
    | none => rfl
    | some high =>
      simp only [Option.all_some, Limit.admitsBelow, h high (mem_limits_of_upper hhigh)]

/-- The limits of a range that is no alphabet cannot be compared with texts. -/
theorem concerns_text (hr : r.isAlphabet = false) {limit : Limit} (h : limit ∈ r.limits)
    {t : String} (hx : x.text? = some t) : limit.concerns x = false := by
  have htext := List.any_eq_false.mp hr _ (value_mem_literals h)
  unfold Limit.concerns
  cases hvalue : limit.value with
  | char c => simp [hvalue, Literal.isText] at htext
  | string t => simp [hvalue, Literal.isText] at htext
  | _ =>
    cases x with
    | char c => rfl
    | string s => rfl
    | _ => cases hx

/-- A text belongs to a range unless that is an alphabet without one of its characters. -/
theorem contains_text_iff {t : String} (hx : x.text? = some t) : r.contains x = true ↔
    (r.isAlphabet = true → ∀ c ∈ t.toList, r.containsScalar (.char c) = true) := by
  cases hr : r.isAlphabet with
  | true =>
    cases x with
    | char c =>
      obtain rfl := Option.some.inj hx
      simp [contains]
    | string s =>
      obtain rfl := Option.some.inj hx
      simp [contains, hr]
    | _ => cases hx
  | false =>
    have hscalar : r.containsScalar x = true :=
      containsScalar_of_not_concerns fun limit h => concerns_text hr h hx
    cases x with
    | char c => simp [contains, hscalar]
    | string s => simp [contains, hr, hscalar]
    | _ => cases hx

theorem exists_integer {limit : Limit} (hr : r.isInteger = true) (h : limit ∈ r.limits) :
    ∃ n isExclusive, limit = ⟨.integer n, isExclusive⟩ := by
  have hinteger := List.all_eq_true.mp hr _ (value_mem_literals h)
  obtain ⟨value, isExclusive⟩ := limit
  cases value with
  | integer n => exact ⟨n, isExclusive, rfl⟩
  | _ => cases hinteger

/-- An integer belongs to a range of whole numbers if it lies between the least and the greatest. -/
theorem containsScalar_integer_iff (hr : r.isInteger = true) (n : Int64) :
    r.containsScalar (.integer n) = true ↔
      r.leastInteger ≤ n.toInt ∧ n.toInt ≤ r.greatestInteger := by
  have hcompare (m : Int64) : (Literal.integer n).compare? (.integer m) =
      some (compare n.toInt m.toInt) := rfl
  rw [containsScalar, Bool.and_eq_true]
  refine and_congr ?_ ?_
  · rw [leastInteger]
    cases hlow : r.lower with
    | none =>
      have hmin := n.le_toInt
      simpa [int64Min] using hmin
    | some low =>
      obtain ⟨m, isExclusive, rfl⟩ := exists_integer hr (mem_limits_of_lower hlow)
      simp only [Option.all_some]
      rw [Limit.admitsAbove_iff (hcompare m)]
      cases isExclusive
      · simp only [and_true, Bool.false_eq_true, if_false]
        omega
      · simp only [Bool.true_eq_false, and_false, or_false, if_true]
        omega
  · rw [greatestInteger]
    cases hhigh : r.upper with
    | none =>
      have hmax := n.toInt_lt
      simp [int64Max]
      omega
    | some high =>
      obtain ⟨m, isExclusive, rfl⟩ := exists_integer hr (mem_limits_of_upper hhigh)
      simp only [Option.all_some]
      rw [Limit.admitsBelow_iff (hcompare m)]
      cases isExclusive
      · simp only [and_true, Bool.false_eq_true, if_false]
        omega
      · simp only [Bool.true_eq_false, and_false, or_false, if_true]
        omega

/-- Ranges of whole numbers say nothing about what is no number. -/
theorem containsScalar_of_isInteger (hr : r.isInteger = true) (hinteger : x.isInteger = false)
    (hreal : x.isReal = false) : r.containsScalar x = true := by
  refine containsScalar_of_not_concerns fun limit h => ?_
  obtain ⟨n, isExclusive, rfl⟩ := exists_integer hr h
  cases x with
  | integer m => cases hinteger
  | real y => cases hreal
  | _ => rfl

end Range

/-! ### Constraints -/

namespace Constraint

/-- The literals that a constraint is written with. -/
def literals : Constraint → List Literal
  | .values literals => literals
  | .range r => r.literals
  | .lengths _ => []

/-- The constraint says something about a literal: a set of literals about all, a range about what
can be compared with its limits, a set of lengths about texts. -/
def concerns (c : Constraint) (x : Literal) : Bool :=
  match c with
  | .values _ => true
  | .range r => r.concerns x
  | .lengths _ => x.stringLength?.isSome

variable {c : Constraint} {x l : Literal}

theorem admits_of_not_concerns (h : c.concerns x = false) : c.admits x = true := by
  cases c with
  | values literals => cases h
  | range r => exact Range.contains_of_not_concerns h
  | lengths ranges =>
    have hnone : x.stringLength? = none := by simpa [concerns] using h
    rw [admits, hnone]
    rfl

/-- A constraint cannot tell literals of the same value apart. -/
theorem admits_of_sameValue (hsame : l.sameValue x = true)
    (hrounded : Literal.unrounded (c.literals ++ [l, x]) = true) (hl : c.admits l = true) :
    c.admits x = true := by
  cases htext : x.text? with
  | some t =>
    have hltext := (Literal.sameValue_iff_text htext).mp hsame
    cases c with
    | values ls =>
      obtain ⟨m, hm, hml⟩ := List.any_eq_true.mp hl
      have hmtext := (Literal.sameValue_iff_text hltext).mp hml
      exact List.any_eq_true.mpr ⟨m, hm, (Literal.sameValue_iff_text htext).mpr hmtext⟩
    | range r =>
      exact (Range.contains_text_iff htext).mpr ((Range.contains_text_iff hltext).mp hl)
    | lengths ranges =>
      simpa only [admits, Literal.stringLength?_eq, htext, hltext] using hl
  | none =>
    cases hplace : x.place? with
    | none => exact Literal.eq_of_sameValue htext hplace hsame ▸ hl
    | some i =>
      have hpair {ls : List Literal} (hls : ls ⊆ c.literals ++ [l, x]) :
          Literal.unrounded ls = true := Literal.unrounded_of_subset hrounded hls
      have hlplace := (Literal.sameValue_iff_place (hpair (by simp)) hplace).mp hsame
      cases c with
      | values ls =>
        obtain ⟨m, hm, hml⟩ := List.any_eq_true.mp hl
        have hmplace :=
          (Literal.sameValue_iff_place (hpair (by simp [literals, hm])) hlplace).mp hml
        exact List.any_eq_true.mpr ⟨m, hm,
          (Literal.sameValue_iff_place (hpair (by simp [literals, hm])) hplace).mpr hmplace⟩
      | range r =>
        have hlimit : ∀ limit ∈ r.limits, l.compare? limit.value = x.compare? limit.value :=
          fun limit h => Literal.compare?_congr hlplace hplace
            (hpair (by simp [literals, Range.value_mem_literals h]))
        have hltext : l.text? = none := Literal.text?_of_place hlplace
        rw [admits, Range.contains_eq hltext, Range.containsScalar_congr hlimit,
          ← Range.contains_eq htext] at hl
        exact hl
      | lengths ranges =>
        refine admits_of_not_concerns ?_
        simp [concerns, Literal.stringLength?_eq, htext]

end Constraint

end TestSpec
