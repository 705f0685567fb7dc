import TestSpec.Matching
import TestSpec.Proofs.Constraint.Membership
import TestSpec.Proofs.Document.Template

/-!
# Ranges of constraints and of templates

A range is written twice: as a constraint, over the literals of its limits, and as a
template, over the values of its bounds.  A constraint never refutes what it cannot
compare, and takes strings apart only if one of its limits is a text; a template asks the
kind of the value, and fails on what it cannot compare.

Where the limits and the bounds are the same integers, or the same characters, the two
agree on every integer, and on every character string of any kind
(`Template.isMatch_range_eq_admits`).  A length restriction of a template agrees with the length
range of a constraint that has the same ends.
-/

namespace TestSpec

/-- A literal and a value denote the same integer or the same character.  A character is written
as such or as a string of one character. -/
inductive Literal.Denotes : Literal → Value → Prop where
  | integer (kind : Kind) (i : Int64) : Denotes (.integer i) (.scalar kind (.integer i))
  | char (kind : Kind) (c : Char) : Denotes (.char c) (.text kind (.singleton c))
  | string (kind : Kind) (c : Char) :
    Denotes (.string (.singleton c)) (.text kind (.singleton c))

/-- A limit of a constraint and a bound of a template are the same end of a range. -/
structure Limit.IsBound (l : Limit) (b : Bound) : Prop where
  denotes : l.value.Denotes b.value
  isExclusive : l.isExclusive = b.isExclusive

/-- A range of literals has the ends of a range of values: each end is absent from both, or the
same in both. -/
structure Range.HasEnds (r : Range) (v : ValueRange) : Prop where
  lower : Option.Rel Limit.IsBound r.lower v.lower
  upper : Option.Rel Limit.IsBound r.upper v.upper

/-! ### Integers -/

namespace Limit.IsBound

variable {l : Limit} {b : Bound}

/-- An integer is put in its place by a limit and by a bound that are one. -/
theorem exists_integer (h : l.IsBound b) (hl : l.value.isInteger = true) (i : Int64) :
    ∃ n : Int64, (Literal.integer i).compare? l.value = some (compare i.toInt n.toInt) ∧
      b.value.order (.integer i) = .ok (compare n.toInt i.toInt) := by
  obtain ⟨value, isExclusive⟩ := l
  obtain ⟨value', isExclusive'⟩ := b
  cases h.denotes with
  | integer kind n => exact ⟨n, rfl, rfl⟩
  | char | string => cases hl

theorem admitsAbove_integer (h : l.IsBound b) (hl : l.value.isInteger = true) (i : Int64) :
    b.admitsAbove (.integer i) = .ok (l.admitsAbove (.integer i)) := by
  obtain ⟨n, hcompare, horder⟩ := h.exists_integer hl i
  rw [Bound.admitsAbove, horder, Except.map, Except.ok.injEq, Bool.eq_iff_iff,
    Limit.admitsAbove_iff hcompare, h.isExclusive]
  rcases lt_trichotomy n.toInt i.toInt with hlt | heq | hgt
  · simp [compare_lt_iff_lt.mpr hlt, hlt]
  · simp [heq]
  · simp [compare_gt_iff_gt.mpr hgt, hgt.not_gt, hgt.ne]

theorem admitsBelow_integer (h : l.IsBound b) (hl : l.value.isInteger = true) (i : Int64) :
    b.admitsBelow (.integer i) = .ok (l.admitsBelow (.integer i)) := by
  obtain ⟨n, hcompare, horder⟩ := h.exists_integer hl i
  rw [Bound.admitsBelow, horder, Except.map, Except.ok.injEq, Bool.eq_iff_iff,
    Limit.admitsBelow_iff hcompare, h.isExclusive]
  rcases lt_trichotomy n.toInt i.toInt with hlt | heq | hgt
  · simp [compare_lt_iff_lt.mpr hlt, hlt.not_gt, hlt.ne']
  · simp [heq]
  · simp [compare_gt_iff_gt.mpr hgt, hgt]

end Limit.IsBound

/-- A range of integers has the same integers as constraint and as template. -/
theorem Range.HasEnds.isMatch_integer {r : Range} {v : ValueRange} (h : r.HasEnds v)
    (hr : r.isInteger = true) (i : Int64) :
    v.isMatch (.integer i) = .ok ((Constraint.range r).admits (.integer i)) := by
  obtain ⟨low, high⟩ := r
  obtain ⟨low', high'⟩ := v
  simp only [Range.isInteger, Range.literals, List.all_map, List.all_append,
    Bool.and_eq_true] at hr
  have habove : low'.elim (.ok true) (·.admitsAbove (.integer i)) =
      .ok (low.all (·.admitsAbove (.integer i))) := by
    cases h.lower with
    | none => rfl
    | some hend => exact hend.admitsAbove_integer (by simpa using hr.1) i
  have hbelow : high'.elim (.ok true) (·.admitsBelow (.integer i)) =
      .ok (high.all (·.admitsBelow (.integer i))) := by
    cases h.upper with
    | none => rfl
    | some hend => exact hend.admitsBelow_integer (by simpa using hr.2) i
  have hordered : ValueRange.isMatch ⟨low', high'⟩ (.integer i) =
      ValueRange.matchesOrdered ⟨low', high'⟩ (.integer i) := rfl
  rw [hordered, ValueRange.matchesOrdered, habove, hbelow]
  rfl

/-! ### Characters -/

/-- A limit that is a text, and its bound, are one character. -/
theorem Limit.IsBound.exists_char {l : Limit} {b : Bound} (h : l.IsBound b)
    (hl : l.value.isText = true) : ∃ c : Char, l.value.codePoint? = some (c.toNat : Int) ∧
      b.charLimit = .ok ⟨c, l.isExclusive⟩ := by
  obtain ⟨value, isExclusive⟩ := l
  obtain ⟨value', isExclusive'⟩ := b
  obtain rfl : isExclusive = isExclusive' := h.isExclusive
  have honly (c : Char) : onlyChar? (.singleton c) = some c :=
    Literal.onlyChar?_eq_some_iff.mpr rfl
  cases h.denotes with
  | integer => cases hl
  | char kind c => exact ⟨c, rfl, by simp [Bound.charLimit, Value.string, honly]⟩
  | string kind c =>
    exact ⟨c, by simp [Literal.codePoint?, honly],
      by simp [Bound.charLimit, Value.string, honly]⟩

namespace CharLimit

variable {l : Limit} {c : Char}

theorem admitsAbove_eq (hc : l.value.codePoint? = some (c.toNat : Int)) (d : Char) :
    (CharLimit.mk c l.isExclusive).admitsAbove d = l.admitsAbove (.char d) := by
  rw [Bool.eq_iff_iff, Limit.admitsAbove_char_iff hc, admitsAbove]
  cases l.isExclusive with
  | true => simp
  | false => simp [le_iff_lt_or_eq, @eq_comm _ c]

theorem admitsBelow_eq (hc : l.value.codePoint? = some (c.toNat : Int)) (d : Char) :
    (CharLimit.mk c l.isExclusive).admitsBelow d = l.admitsBelow (.char d) := by
  rw [Bool.eq_iff_iff, Limit.admitsBelow_char_iff hc, admitsBelow]
  cases l.isExclusive with
  | true => simp
  | false => simp [le_iff_lt_or_eq]

end CharLimit

/-- Characters are on the same side of an end as literals and as values. -/
theorem Bound.exists_charLimit?_of_rel {limit : Option Limit} {bound : Option Bound}
    (h : Option.Rel Limit.IsBound limit bound) (htext : ∀ l ∈ limit, l.value.isText = true) :
    ∃ chars, Bound.charLimit? bound = .ok chars ∧
      (∀ d, chars.all (·.admitsAbove d) = limit.all (·.admitsAbove (.char d))) ∧
      ∀ d, chars.all (·.admitsBelow d) = limit.all (·.admitsBelow (.char d)) := by
  cases h with
  | none => exact ⟨none, rfl, fun _ => rfl, fun _ => rfl⟩
  | @some l b hend =>
    obtain ⟨c, hc, hlimit⟩ := hend.exists_char (htext l rfl)
    refine ⟨some ⟨c, l.isExclusive⟩, ?_, CharLimit.admitsAbove_eq hc, CharLimit.admitsBelow_eq hc⟩
    rw [Bound.charLimit?, hlimit]
    rfl

/-- A range whose limits are texts is applied to a string character by character, also where it has
no limits. -/
theorem Range.contains_string {r : Range} (hr : r.literals.all Literal.isText = true) (s : String) :
    r.contains (.string s) = s.toList.all fun c => r.containsScalar (.char c) := by
  rw [Range.contains]
  cases halphabet : r.isAlphabet with
  | true => rfl
  | false =>
    have hnone : r.literals = [] := by
      rw [List.eq_nil_iff_forall_not_mem]
      intro l hl
      rw [Range.isAlphabet, List.any_eq_false] at halphabet
      exact halphabet l hl (List.all_eq_true.mp hr l hl)
    obtain ⟨low, high⟩ := r
    simp only [Range.literals, List.map_eq_nil_iff, List.append_eq_nil_iff,
      Option.toList_eq_nil_iff] at hnone
    obtain ⟨rfl, rfl⟩ := hnone
    simp [Range.containsScalar]

/-- A range of characters has the same strings as constraint and as template. -/
theorem Range.HasEnds.isMatch_text {r : Range} {v : ValueRange} (h : r.HasEnds v)
    (hr : r.literals.all Literal.isText = true) {kind : Kind}
    (hkind : kind.isCharacterString = true) (s : String) :
    v.isMatch (.text kind s) = .ok ((Constraint.range r).admits (.string s)) := by
  have htext (l : Literal) (hl : l ∈ r.literals) : l.isText = true := List.all_eq_true.mp hr l hl
  obtain ⟨low, hlow, habove, -⟩ := Bound.exists_charLimit?_of_rel h.lower fun l hl =>
    htext l.value (by simp [Range.literals, Option.mem_def.mp hl])
  obtain ⟨high, hhigh, -, hbelow⟩ := Bound.exists_charLimit?_of_rel h.upper fun l hl =>
    htext l.value (by simp [Range.literals, Option.mem_def.mp hl])
  have hcharacters : v.isMatch (.text kind s) = v.matchesText (.text kind s) := if_pos hkind
  rw [hcharacters, ValueRange.matchesText, hlow, hhigh, Constraint.admits,
    Range.contains_string hr]
  simp only [Range.containsScalar, ← habove, ← hbelow]
  rfl

/-! ### Lengths -/

/-- The length range with the ends of a length restriction. -/
def LengthRestriction.lengthRange : LengthRestriction → LengthRange
  | .single n => ⟨n, some n⟩
  | .range least greatest => ⟨least, greatest⟩

theorem LengthRestriction.contains_eq (l : LengthRestriction) (n : Nat) :
    l.contains n = l.lengthRange.contains n := by
  cases l with
  | single m =>
    have hends : (lengthRange (.single m)).contains n = (decide (m ≤ n) && decide (n ≤ m)) := rfl
    rw [hends, contains, Bool.eq_iff_iff, beq_iff_eq, Bool.and_eq_true, decide_eq_true_eq,
      decide_eq_true_eq]
    omega
  | range least greatest => rfl

/-! ### The two readings of a range -/

/-- A range means the same as constraint and as template: of integers for every integer, of
characters for every character string of any kind.  So does a length restriction. -/
theorem Template.isMatch_range_eq_admits :
    (∀ (r : Range) (lower upper : Option Bound) (t : Template) (ctx : MatchContext),
      r.HasEnds ⟨lower, upper⟩ → Template.range lower upper = .ok t →
        (r.isInteger = true → ∀ i : Int64,
          t.isMatch ctx (.integer i) = .ok ((Constraint.range r).admits (.integer i))) ∧
        (r.literals.all Literal.isText = true → ∀ kind : Kind, kind.isCharacterString = true →
          ∀ s : String,
            t.isMatch ctx (.text kind s) = .ok ((Constraint.range r).admits (.string s)))) ∧
    ∀ (l : LengthRestriction) (n : Nat), l.contains n = l.lengthRange.contains n := by
  refine ⟨fun r lower upper t ctx hends ht => ?_, LengthRestriction.contains_eq⟩
  obtain ⟨rfl, -⟩ := Template.range_eq_ok ht
  exact ⟨fun hr i => hends.isMatch_integer hr i,
    fun hr kind hkind s => hends.isMatch_text hr hkind s⟩

/-- The integers from 1 up to but not including 5, and the strings over the letters from `a` to
`c`. -/
theorem Template.isMatch_range_eq_admits_digits :
    let digits : Range := ⟨some ⟨.integer 1, false⟩, some ⟨.integer 5, true⟩⟩
    let letters : Range := ⟨some ⟨.char 'a', false⟩, some ⟨.string "c", false⟩⟩
    (∃ t, Template.range (some ⟨.integer 1, false⟩) (some ⟨.integer 5, true⟩) = .ok t ∧
      t.isMatch {} (.integer 4) = .ok true ∧ t.isMatch {} (.integer 5) = .ok false ∧
      (Constraint.range digits).admits (.integer 5) = false) ∧
    (∃ t, Template.range (some ⟨.text .charstring "a", false⟩)
        (some ⟨.text .charstring "c", false⟩) = .ok t ∧
      t.isMatch {} (.text .ia5String "abc") = .ok true ∧
      t.isMatch {} (.text .ia5String "abd") = .ok false ∧
      (Constraint.range letters).admits (.string "abd") = false) := by
  intro digits letters
  have hdigits : digits.HasEnds ⟨some ⟨.integer 1, false⟩, some ⟨.integer 5, true⟩⟩ :=
    ⟨.some ⟨.integer .integer 1, rfl⟩, .some ⟨.integer .integer 5, rfl⟩⟩
  have hletters : letters.HasEnds
      ⟨some ⟨.text .charstring "a", false⟩, some ⟨.text .charstring "c", false⟩⟩ :=
    ⟨.some ⟨.char .charstring 'a', rfl⟩, .some ⟨.string .charstring 'c', rfl⟩⟩
  have hrange := (Template.isMatch_range_eq_admits).1
  have hinteger := (hrange digits _ _ _ {} hdigits rfl).1 (by decide)
  have htext := (hrange letters _ _ _ {} hletters rfl).2 (by decide) .ia5String (by decide)
  refine ⟨⟨_, rfl, (hinteger 4).trans ?_, (hinteger 5).trans ?_, ?_⟩,
    ⟨_, rfl, (htext "abc").trans ?_, (htext "abd").trans ?_, ?_⟩⟩
  all_goals decide

end TestSpec
