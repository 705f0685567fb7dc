import TestSpec.Constraint.Clash
import TestSpec.Proofs.Constraint.Membership

/-!
# Elements of strings

A constraint on strings is asked whether it admits a string of one element, which stands for the
element itself where only one side of a comparison is an element.  The answer is exact for
sets of strings and sets of lengths (`Constraint.admitsElement_iff_admitsChar`).

For an alphabet it looks at the limits alone, and takes the characters between them for a
line without gaps and without ends: only whole numbers have neighbours.  So it is exact
unless exclusive limits leave no character although the line goes on between them
(`Range.LeavesNoChar`).
-/

namespace TestSpec

/-! ### Neighbouring characters -/

section Neighbours

variable {c d x : Char}

theorem succ?_eq_some_iff : c.succ? = some d ↔ (c.ordinal : Nat) + 1 = d.ordinal := by
  rw [Char.succ?_eq, Fin.addNat?_eq_dif]
  split
  · rw [Option.map_some, Option.some.injEq, ← Char.ordinal_inj, Char.ordinal_ofOrdinal, Fin.ext_iff]
  · have hd := d.ordinal.isLt
    simp only [Option.map_none, reduceCtorEq, false_iff]
    omega

theorem succ?_eq_none_iff : c.succ? = none ↔ (c.ordinal : Nat) + 1 = Char.numCodePoints := by
  have hc := c.ordinal.isLt
  rw [Char.succ?_eq, Option.map_eq_none_iff, Fin.addNat?_eq_none_iff]
  omega

/-- Between a character and the next there is none. -/
theorem not_lt_of_succ? (h : c.succ? = some d) (hx : c < x) : ¬ x < d := by
  rw [succ?_eq_some_iff] at h
  rw [Char.lt_iff_ordinal_lt, Fin.lt_def] at hx ⊢
  omega

theorem lt_of_succ? (h : c.succ? = some d) : c < d := by
  rw [succ?_eq_some_iff] at h
  rw [Char.lt_iff_ordinal_lt, Fin.lt_def]
  omega

/-- A character without a next is the greatest. -/
theorem not_lt_of_succ?_none (h : c.succ? = none) : ¬ c < x := by
  rw [succ?_eq_none_iff] at h
  have hx := x.ordinal.isLt
  rw [Char.lt_iff_ordinal_lt, Fin.lt_def]
  omega

/-- Characters that are not neighbours have one between them. -/
theorem exists_char_between (h : c < d) (hd : c.succ? ≠ some d) : ∃ x, c < x ∧ x < d := by
  cases hx : c.succ? with
  | none => exact absurd h (not_lt_of_succ?_none hx)
  | some x =>
    refine ⟨x, lt_of_succ? hx, ?_⟩
    rw [hx, ne_eq, Option.some.injEq] at hd
    exact lt_of_le_of_ne (not_lt.mp (not_lt_of_succ? hx h)) hd

end Neighbours

/-- The character that a literal is, as such or as a string of one character. -/
def Literal.char? : Literal → Option Char
  | .char c => some c
  | .string s => onlyChar? s
  | _ => none

theorem Literal.codePoint?_of_char? {l : Literal} {c : Char} (h : l.char? = some c) :
    l.codePoint? = some (c.toNat : Int) := by
  cases l with
  | char d =>
    obtain rfl := Option.some.inj h
    rfl
  | string s => exact Option.map_eq_some_iff.mpr ⟨c, h, rfl⟩
  | _ => cases h

theorem Literal.isText_of_char? {l : Literal} {c : Char} (h : l.char? = some c) :
    l.isText = true := by
  cases l with
  | char d => rfl
  | string s => rfl
  | _ => cases h

/-! ### Alphabets -/

namespace Range

/-- Exclusive limits leave no character, though one stands before the other or faces none: they are
neighbouring characters, or the one limit is the last character from below or the first
from above. -/
def LeavesNoChar (r : Range) : Prop :=
  match r.lower, r.upper with
  | some low, some high => low.isExclusive = true ∧ high.isExclusive = true ∧
      ∃ c d, low.value.char? = some c ∧ high.value.char? = some d ∧ c.succ? = some d
  | some low, none => low.isExclusive = true ∧ ∃ c, low.value.char? = some c ∧ c.succ? = none
  | none, some high => high.isExclusive = true ∧ ∃ c, high.value.char? = some c ∧ c.toNat = 0
  | none, none => False

/-- An alphabet between two limits is empty unless the lower one stands before the upper one, or
both are the same character and belong to the alphabet. -/
theorem isEmpty_between_iff {low high : Limit} {c d : Char} (hc : low.value.char? = some c)
    (hd : high.value.char? = some d) : isEmpty ⟨some low, some high⟩ = false ↔
      c < d ∨ c = d ∧ low.isExclusive = false ∧ high.isExclusive = false := by
  have hcompare : low.value.compare? high.value = some (compare c.toNat d.toNat) := by
    rw [Literal.compare?_of_codePoint (Literal.codePoint?_of_char? hc)
      (Literal.codePoint?_of_char? hd), Literal.compare_natCast]
  have hinteger : isInteger ⟨some low, some high⟩ = false := by
    have htext := Literal.isText_of_char? hc
    cases hvalue : low.value <;> simp_all [isInteger, literals, Literal.isText, Literal.isInteger]
  rw [isEmpty, Bool.not_eq_false', overlaps, hinteger, Bool.false_and]
  simp only [Bool.false_eq_true, if_false, Limit.tighterOf, hcompare]
  rcases lt_trichotomy c.toNat d.toNat with h | h | h
  · have hlt : c < d := h
    simp [compare_lt_iff_lt.mpr h, hlt]
  · obtain rfl := Char.toNat_inj.mp h
    simp
  · have hgt : d < c := h
    simp [compare_gt_iff_gt.mpr h, hgt.not_gt, hgt.ne']

/-- An alphabet with at most one limit is never empty. -/
theorem isEmpty_eq_false {r : Range} (h : r.lower = none ∨ r.upper = none)
    (hr : r.isInteger = false) : r.isEmpty = false := by
  obtain ⟨low, high⟩ := r
  rw [isEmpty, Bool.not_eq_false', overlaps, hr, Bool.false_and]
  rcases h with rfl | rfl
  · rfl
  · cases low <;> rfl

/-- An alphabet between two limits has a character, or they exclude it as neighbours, unless the
alphabet is empty. -/
theorem isEmpty_eq_false_iff_of_both {low high : Limit} {c d : Char}
    (hc : low.value.char? = some c) (hd : high.value.char? = some d) :
    isEmpty ⟨some low, some high⟩ = false ↔
      (∃ x : Char, containsScalar ⟨some low, some high⟩ (.char x) = true) ∨
        LeavesNoChar ⟨some low, some high⟩ := by
  rw [isEmpty_between_iff hc hd]
  simp only [containsScalar, Option.all_some, Bool.and_eq_true,
    Limit.admitsAbove_char_iff (Literal.codePoint?_of_char? hc),
    Limit.admitsBelow_char_iff (Literal.codePoint?_of_char? hd)]
  constructor
  · rintro (hlt | ⟨rfl, hlow, hhigh⟩)
    · cases hlow : low.isExclusive with
      | false => exact .inl ⟨c, .inr ⟨rfl, rfl⟩, .inl hlt⟩
      | true =>
        cases hhigh : high.isExclusive with
        | false => exact .inl ⟨d, .inl hlt, .inr ⟨rfl, rfl⟩⟩
        | true =>
          by_cases hnext : c.succ? = some d
          · exact .inr ⟨hlow, hhigh, c, d, hc, hd, hnext⟩
          · obtain ⟨x, hcx, hxd⟩ := exists_char_between hlt hnext
            exact .inl ⟨x, .inl hcx, .inl hxd⟩
    · exact .inl ⟨c, .inr ⟨rfl, hlow⟩, .inr ⟨rfl, hhigh⟩⟩
  · rintro (⟨x, hcx | ⟨rfl, hlow⟩, hxd | ⟨rfl, hhigh⟩⟩ | ⟨-, -, c', d', hc', hd', hnext⟩)
    · exact .inl (hcx.trans hxd)
    · exact .inl hcx
    · exact .inl hxd
    · exact .inr ⟨rfl, hlow, hhigh⟩
    · rw [hc, Option.some.injEq] at hc'
      rw [hd, Option.some.injEq] at hd'
      exact .inl (hc' ▸ hd' ▸ lt_of_succ? hnext)

/-- Above a limit there is a character, or it excludes the last one. -/
theorem exists_char_or_leavesNoChar_of_lower {low : Limit} {c : Char}
    (hc : low.value.char? = some c) :
    (∃ x : Char, containsScalar ⟨some low, none⟩ (.char x) = true) ∨
      LeavesNoChar ⟨some low, none⟩ := by
  simp only [containsScalar, Option.all_some, Option.all_none, Bool.and_true,
    Limit.admitsAbove_char_iff (Literal.codePoint?_of_char? hc)]
  cases hlow : low.isExclusive with
  | false => exact .inl ⟨c, .inr ⟨rfl, rfl⟩⟩
  | true =>
    cases hnext : c.succ? with
    | none => exact .inr ⟨hlow, c, hc, hnext⟩
    | some x => exact .inl ⟨x, .inl (lt_of_succ? hnext)⟩

/-- Below a limit there is a character, or it excludes the first one. -/
theorem exists_char_or_leavesNoChar_of_upper {high : Limit} {c : Char}
    (hc : high.value.char? = some c) :
    (∃ x : Char, containsScalar ⟨none, some high⟩ (.char x) = true) ∨
      LeavesNoChar ⟨none, some high⟩ := by
  simp only [containsScalar, Option.all_some, Option.all_none, Bool.true_and,
    Limit.admitsBelow_char_iff (Literal.codePoint?_of_char? hc)]
  by_cases hfirst : c.toNat = 0
  · cases hhigh : high.isExclusive with
    | false => exact .inl ⟨c, .inr ⟨rfl, rfl⟩⟩
    | true => exact .inr ⟨hhigh, c, hc, hfirst⟩
  · have hlt : Char.ofNat 0 < c := Nat.pos_of_ne_zero hfirst
    exact .inl ⟨Char.ofNat 0, .inl hlt⟩

/-- Exclusive limits that leave no character leave none. -/
theorem not_containsScalar_of_leavesNoChar {r : Range} (h : r.LeavesNoChar) (x : Char) :
    r.containsScalar (.char x) = false := by
  rw [← Bool.not_eq_true]
  obtain ⟨low, high⟩ := r
  cases low with
  | some low =>
    cases high with
    | some high =>
      obtain ⟨hlow, hhigh, c, d, hc, hd, hnext⟩ := h
      simp only [containsScalar, Option.all_some, Bool.and_eq_true,
        Limit.admitsAbove_char_iff (Literal.codePoint?_of_char? hc),
        Limit.admitsBelow_char_iff (Literal.codePoint?_of_char? hd),
        hlow, hhigh, Bool.true_eq_false, and_false, or_false]
      exact fun hx => not_lt_of_succ? hnext hx.1 hx.2
    | none =>
      obtain ⟨hlow, c, hc, hlast⟩ := h
      simp only [containsScalar, Option.all_some, Option.all_none, Bool.and_true,
        Limit.admitsAbove_char_iff (Literal.codePoint?_of_char? hc),
        hlow, Bool.true_eq_false, and_false, or_false]
      exact not_lt_of_succ?_none hlast
  | none =>
    cases high with
    | some high =>
      obtain ⟨hhigh, c, hc, hfirst⟩ := h
      simp only [containsScalar, Option.all_some, Option.all_none, Bool.true_and,
        Limit.admitsBelow_char_iff (Literal.codePoint?_of_char? hc),
        hhigh, Bool.true_eq_false, and_false, or_false]
      exact fun hx => Nat.not_lt_zero x.toNat (hfirst ▸ hx)
    | none => exact h.elim

theorem isAlphabet_of_chars {r : Range} (hlimits : r.literals ≠ [])
    (hchars : ∀ l ∈ r.literals, l.char?.isSome = true) : r.isAlphabet = true := by
  obtain ⟨l, hl⟩ := List.exists_mem_of_ne_nil _ hlimits
  obtain ⟨c, hc⟩ := Option.isSome_iff_exists.mp (hchars l hl)
  exact List.any_eq_true.mpr ⟨l, hl, Literal.isText_of_char? hc⟩

/-- An alphabet whose limits are characters is not empty exactly if it has a character, or its
limits exclude one another's neighbours. -/
theorem isEmpty_eq_false_iff {r : Range} (hlimits : r.literals ≠ [])
    (hchars : ∀ l ∈ r.literals, l.char?.isSome = true) :
    r.isEmpty = false ↔
      (∃ x : Char, r.containsScalar (.char x) = true) ∨ r.LeavesNoChar := by
  have hchar (limit : Limit) (h : limit ∈ r.limits) : ∃ c, limit.value.char? = some c :=
    Option.isSome_iff_exists.mp (hchars limit.value (value_mem_literals h))
  have hinteger : r.isInteger = false := by
    obtain ⟨l, hl⟩ := List.exists_mem_of_ne_nil _ hlimits
    refine Bool.eq_false_iff.mpr fun hall => ?_
    obtain ⟨c, hc⟩ := Option.isSome_iff_exists.mp (hchars l hl)
    have hl' := List.all_eq_true.mp hall l hl
    cases l <;> simp_all [Literal.isInteger, Literal.char?]
  obtain ⟨low, high⟩ := r
  cases low with
  | some low =>
    obtain ⟨c, hc⟩ := hchar low (mem_limits_of_lower rfl)
    cases high with
    | some high =>
      obtain ⟨d, hd⟩ := hchar high (mem_limits_of_upper rfl)
      exact isEmpty_eq_false_iff_of_both hc hd
    | none =>
      exact iff_of_true (isEmpty_eq_false (.inr rfl) hinteger)
        (exists_char_or_leavesNoChar_of_lower hc)
  | none =>
    cases high with
    | some high =>
      obtain ⟨d, hd⟩ := hchar high (mem_limits_of_upper rfl)
      exact iff_of_true (isEmpty_eq_false (.inl rfl) hinteger)
        (exists_char_or_leavesNoChar_of_upper hd)
    | none => exact absurd rfl hlimits

end Range

/-! ### Strings of one element -/

namespace Constraint

/-- The constraint is one on strings: a set of strings and characters with at least one member, an
alphabet whose limits are characters, at least one of them present, or a set of lengths. -/
def IsOverStrings : Constraint → Prop
  | .values literals => literals ≠ [] ∧ ∀ l ∈ literals, l.isText = true
  | .range r => r.literals ≠ [] ∧ ∀ l ∈ r.literals, l.char?.isSome = true
  | .lengths _ => True

/-- The constraint admits a string of one character. -/
def AdmitsChar (c : Constraint) : Prop :=
  ∃ x : Char, c.admits (.string (.singleton x)) = true

/-- The constraint is an alphabet whose exclusive limits leave no character. -/
def LeavesNoChar : Constraint → Prop
  | .range r => r.LeavesNoChar
  | .values _ | .lengths _ => False

variable {c : Constraint} {literals : List Literal} {ranges : List LengthRange} {r : Range}

theorem admitsChar_values_iff : (values literals).AdmitsChar ↔
    literals.any (fun l => l.stringLength? == some 1) = true := by
  have hlength (t : String) : t.length = 1 ↔ ∃ x, t = String.singleton x := by
    rw [← String.length_toList, List.length_eq_one_iff]
    exact exists_congr fun x => by rw [String.ext_iff, String.toList_singleton]
  simp only [AdmitsChar, admits, List.any_eq_true, beq_iff_eq, Literal.stringLength?_eq,
    Option.map_eq_some_iff, hlength]
  constructor
  · rintro ⟨x, l, hl, hsame⟩
    exact ⟨l, hl, _, (Literal.sameValue_iff_text rfl).mp hsame, x, rfl⟩
  · rintro ⟨l, hl, t, ht, x, rfl⟩
    exact ⟨x, l, hl, (Literal.sameValue_iff_text rfl).mpr ht⟩

theorem admitsChar_range_iff (hr : r.isAlphabet = true) :
    (range r).AdmitsChar ↔ ∃ x : Char, r.containsScalar (.char x) = true := by
  refine exists_congr fun x => ?_
  simp [admits, Range.contains, hr]

theorem admitsChar_lengths_iff : (lengths ranges).AdmitsChar ↔
    ranges.any (fun r => r.contains 1) = true := by
  have hadmits (x : Char) : (lengths ranges).admits (.string (.singleton x)) =
      ranges.any fun r => r.contains 1 := by
    simp [admits, Literal.stringLength?]
  simp only [AdmitsChar, hadmits]
  exact exists_const Char

/-- A constraint on strings is taken to admit an element exactly if it admits a character, or is an
alphabet whose exclusive limits leave none. -/
theorem admitsElement_iff (hc : c.IsOverStrings) :
    c.admitsElement = true ↔ c.AdmitsChar ∨ c.LeavesNoChar := by
  cases c with
  | values literals =>
    obtain ⟨hmember, htexts⟩ := hc
    obtain ⟨l, hl⟩ := List.exists_mem_of_ne_nil _ hmember
    have hall : literals.all (fun l => l.stringLength?.isNone) = false := by
      refine List.all_eq_false.mpr ⟨l, hl, ?_⟩
      have htext := htexts l hl
      cases l <;> simp_all [Literal.isText, Literal.stringLength?]
    rw [admitsElement, hall, Bool.or_false, admitsChar_values_iff]
    exact (or_iff_left id).symm
  | range r =>
    rw [admitsElement, Bool.not_eq_true', Range.isEmpty_eq_false_iff hc.1 hc.2,
      admitsChar_range_iff (Range.isAlphabet_of_chars hc.1 hc.2)]
    rfl
  | lengths ranges =>
    rw [admitsChar_lengths_iff]
    exact (or_iff_left id).symm

/-- Limits that leave no character leave none to be admitted. -/
theorem not_admitsChar_of_leavesNoChar (hc : c.IsOverStrings) (h : c.LeavesNoChar) :
    ¬ c.AdmitsChar := by
  cases c with
  | values literals => exact h.elim
  | lengths ranges => exact h.elim
  | range r =>
    rw [admitsChar_range_iff (Range.isAlphabet_of_chars hc.1 hc.2)]
    rintro ⟨x, hx⟩
    rw [Range.not_containsScalar_of_leavesNoChar h x] at hx
    cases hx

/-- An element clashes with a whole exactly if the whole is not taken to admit an element. -/
theorem clash?_element_isSome_iff (c other : Constraint) :
    ((other.clash? c true false).isSome = true ↔ c.admitsElement ≠ true) ∧
      ((c.clash? other false true).isSome = true ↔ c.admitsElement ≠ true) := by
  rw [clash?, clash?]
  split <;> simp_all

end Constraint

/-- **Elements of strings.**  A constraint on strings is taken to admit an element exactly if it
admits a string of one character, except for alphabets whose exclusive limits leave no character:
these are taken to admit one though they admit none.  An element of a string, on either side,
clashes with the constraint in the other cases. -/
theorem Constraint.admitsElement_iff_admitsChar {c : Constraint} (hc : c.IsOverStrings) :
    (c.admitsElement = true ↔ c.AdmitsChar ∨ c.LeavesNoChar) ∧
    (c.LeavesNoChar → ¬ c.AdmitsChar) ∧
    ∀ other : Constraint,
      ((other.clash? c true false).isSome = true ↔ ¬ c.AdmitsChar ∧ ¬ c.LeavesNoChar) ∧
      ((c.clash? other false true).isSome = true ↔ ¬ c.AdmitsChar ∧ ¬ c.LeavesNoChar) := by
  have helement := Constraint.admitsElement_iff hc
  have hrefused : c.admitsElement ≠ true ↔ ¬ c.AdmitsChar ∧ ¬ c.LeavesNoChar := by
    rw [ne_eq, helement, not_or]
  refine ⟨helement, Constraint.not_admitsChar_of_leavesNoChar hc, fun other => ?_⟩
  obtain ⟨hleft, hright⟩ := Constraint.clash?_element_isSome_iff c other
  exact ⟨hleft.trans hrefused, hright.trans hrefused⟩

/-- The letters after `a` and before `c` have one between them.  The last character before the
surrogates and the first one behind them have none, and yet an element does not clash with
what lies between them; it does with the strings of two letters. -/
theorem Constraint.admitsElement_iff_admitsChar_aroundSurrogates :
    let letters : Constraint := .range ⟨some ⟨.char 'a', true⟩, some ⟨.string "c", true⟩⟩
    let surrogates : Constraint :=
      .range ⟨some ⟨.char (Char.ofNat 0xD7FF), true⟩, some ⟨.char (Char.ofNat 0xE000), true⟩⟩
    let pairs : Constraint := .values [.string "ab", .string "bc"]
    (letters.admitsElement = true ∧ letters.AdmitsChar) ∧
      (¬ surrogates.AdmitsChar ∧ (pairs.clash? surrogates true false).isSome = false) ∧
      (surrogates.clash? pairs true false).isSome = true ∧ ¬ pairs.AdmitsChar := by
  intro letters surrogates pairs
  obtain ⟨hletters, -, -⟩ := Constraint.admitsElement_iff_admitsChar (c := letters)
    ⟨by decide, by decide⟩
  obtain ⟨-, hnone, hsurrogates⟩ := Constraint.admitsElement_iff_admitsChar (c := surrogates)
    ⟨by decide, by decide⟩
  obtain ⟨-, -, hpairs⟩ := Constraint.admitsElement_iff_admitsChar (c := pairs)
    ⟨by decide, by decide⟩
  have hchar : letters.AdmitsChar := ⟨'b', by decide⟩
  have hleaves : surrogates.LeavesNoChar := ⟨rfl, rfl, _, _, rfl, rfl, by decide⟩
  have hclash : (surrogates.clash? pairs true false).isSome = true := by decide
  refine ⟨⟨hletters.mpr (.inl hchar), hchar⟩, ⟨hnone hleaves, ?_⟩, hclash,
    ((hpairs surrogates).1.mp hclash).1⟩
  exact Bool.eq_false_iff.mpr fun h => ((hsurrogates pairs).1.mp h).2 hleaves

/-- Neither the letters after `a` and before `b` nor the empty set of literals admit a character,
and both are taken to admit an element. -/
theorem Constraint.admitsElement_without_char :
    let between : Constraint := .range ⟨some ⟨.char 'a', true⟩, some ⟨.char 'b', true⟩⟩
    (between.admitsElement = true ∧ ∀ x : Char, between.admits (.string (.singleton x)) = false) ∧
      (Constraint.values []).admitsElement = true ∧
      ∀ x : Char, (Constraint.values []).admits (.string (.singleton x)) = false := by
  intro between
  have hnone : ¬ between.AdmitsChar :=
    Constraint.not_admitsChar_of_leavesNoChar ⟨by decide, by decide⟩
      ⟨rfl, rfl, 'a', 'b', rfl, rfl, by decide⟩
  exact ⟨⟨by decide, fun x => Bool.eq_false_iff.mpr fun hx => hnone ⟨x, hx⟩⟩, rfl, fun _ => rfl⟩

end TestSpec
