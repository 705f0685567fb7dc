import Mathlib.Data.String.Basic
import TestSpec.Constraint.Basic

/-!
# Places of literals

Numbers stand on one line: a literal that is a number has a **place** on it
(`Literal.place?`), in the units of the binary format.  An integer is compared with a
real as the nearest binary number, though, so that comparison is comparison of places
only where no integer is rounded for it (`Literal.unrounded`).  Characters, and strings
of one character, stand on a line of their own (`Literal.codePoint?`).

Literals that denote the same value have the same place, or the same text, or are equal;
so comparisons and constraints cannot tell them apart.
-/

namespace TestSpec

namespace Binary64

theorem unitsPerOne_pos : 0 < unitsPerOne := by
  unfold unitsPerOne
  generalize 1074 = n
  exact Nat.pow_pos (by decide)

theorem compare?_of_place {x y : Binary64} {i j : Int} (hi : x.place? = some i)
    (hj : y.place? = some j) : x.compare? y = some (compare i j) := by
  simp only [compare?, hi, hj]

/-- Equality of binary numbers goes both ways. -/
theorem compare?_eq_comm (x y : Binary64) :
    (x.compare? y == some .eq) = (y.compare? x == some .eq) := by
  unfold compare?
  cases x.place? with
  | none => cases y.place? <;> rfl
  | some i =>
    cases y.place? with
    | none => rfl
    | some j =>
      rw [Bool.eq_iff_iff]
      simp only [beq_iff_eq, Option.some.injEq, compare_eq_iff_eq]
      exact eq_comm

end Binary64

namespace Literal

/-- The place of a number, in units of the binary format. -/
def place? : Literal → Option Int
  | .integer i => some (i.toInt * Binary64.unitsPerOne)
  | .real x => x.place?
  | _ => none

/-- The number of a character, or of the only character of a string. -/
def codePoint? : Literal → Option Int
  | .char c => some c.toNat
  | .string s => (onlyChar? s).map fun c => (c.toNat : Int)
  | _ => none

/-- The text of a literal that is a character or a string. -/
def text? : Literal → Option String
  | .char c => some (String.singleton c)
  | .string s => some s
  | _ => none

/-- The literal is a real. -/
def isReal : Literal → Bool
  | .real _ => true
  | _ => false

/-- The literal is no integer, or one that the binary format has. -/
def isExact : Literal → Bool
  | .integer i => (Binary64.ofInt64 i).place? == some (i.toInt * Binary64.unitsPerOne)
  | _ => true

/-- Comparing the literals with each other rounds no integer: none is a real, or the binary format
has all integers among them. -/
def unrounded (literals : List Literal) : Bool :=
  literals.all (fun l => !l.isReal) || literals.all isExact

theorem unrounded_of_subset {ls ms : List Literal} (h : unrounded ls = true) (hsub : ms ⊆ ls) :
    unrounded ms = true := by
  simp only [unrounded, Bool.or_eq_true, List.all_eq_true] at h ⊢
  exact h.imp (fun h l hl => h l (hsub hl)) fun h l hl => h l (hsub hl)

/-- Next to a real, nothing is rounded. -/
theorem isExact_of_unrounded {ls : List Literal} (h : unrounded ls = true)
    (hreal : ∃ l ∈ ls, l.isReal = true) {l : Literal} (hl : l ∈ ls) : l.isExact = true := by
  simp only [unrounded, Bool.or_eq_true, List.all_eq_true, Bool.not_eq_true'] at h
  obtain ⟨r, hr, hisReal⟩ := hreal
  rcases h with h | h
  · rw [h r hr] at hisReal
    cases hisReal
  · exact h l hl

theorem unrounded_cons_char {ls : List Literal} {c : Char} (h : unrounded ls = true) :
    unrounded (.char c :: ls) = true := h

/-! ### Comparing numbers -/

section Numbers

variable {a b : Literal} {i j : Int}

theorem compare_scaled (i j : Int) {k : Int} (hk : 0 < k) :
    compare (i * k) (j * k) = compare i j := by
  rcases lt_trichotomy i j with h | h | h
  · rw [compare_lt_iff_lt.mpr h, compare_lt_iff_lt.mpr (Int.mul_lt_mul_of_pos_right h hk)]
  · rw [h, compare_eq_iff_eq.mpr rfl, compare_eq_iff_eq.mpr rfl]
  · rw [compare_gt_iff_gt.mpr h, compare_gt_iff_gt.mpr (Int.mul_lt_mul_of_pos_right h hk)]

theorem compare?_integer (m n : Int64) : compare? (.integer m) (.integer n) =
    some (compare (m.toInt * Binary64.unitsPerOne) (n.toInt * Binary64.unitsPerOne)) := by
  rw [compare?, compare_scaled _ _ (Int.natCast_pos.mpr Binary64.unitsPerOne_pos)]

/-- Next to a real, an integer stands at its own place. -/
theorem place?_ofInt64 {n : Int64} (hn : isExact (.integer n) = true) :
    (Binary64.ofInt64 n).place? = (Literal.integer n).place? :=
  eq_of_beq hn

/-- Where no integer is rounded, numbers are compared by their places. -/
theorem compare?_of_place (h : unrounded [a, b] = true) (hi : a.place? = some i)
    (hj : b.place? = some j) : a.compare? b = some (compare i j) := by
  cases a with
  | integer m =>
    cases b with
    | integer n => rw [compare?_integer, Option.some.inj hi, Option.some.inj hj]
    | real y =>
      have hm : (Binary64.ofInt64 m).place? = (Literal.integer m).place? :=
        place?_ofInt64 (isExact_of_unrounded h ⟨.real y, by simp, rfl⟩ (by simp))
      rw [compare?]
      exact Binary64.compare?_of_place (hm.trans hi) hj
    | _ => cases hj
  | real x =>
    cases b with
    | integer n =>
      have hn : (Binary64.ofInt64 n).place? = (Literal.integer n).place? :=
        place?_ofInt64 (isExact_of_unrounded h ⟨.real x, by simp, rfl⟩ (by simp))
      rw [compare?]
      exact Binary64.compare?_of_place hi (hn.trans hj)
    | real y =>
      rw [compare?]
      exact Binary64.compare?_of_place hi hj
    | _ => cases hj
  | _ => cases hi

theorem text?_of_place (hi : a.place? = some i) : a.text? = none := by
  cases a <;> first | rfl | cases hi

/-- Literals that can be compared and are not both texts are numbers. -/
theorem exists_place (htext : a.text? = none ∨ b.text? = none)
    (hab : (a.compare? b).isSome = true) : ∃ i j, a.place? = some i ∧ b.place? = some j := by
  have hreal {x y : Binary64} (hxy : (x.compare? y).isSome = true) :
      ∃ i j, x.place? = some i ∧ y.place? = some j := by
    unfold Binary64.compare? at hxy
    split at hxy
    · exact ⟨_, _, ‹_›, ‹_›⟩
    · cases hxy
  cases b with
  | integer n =>
    cases a with
    | integer m => exact ⟨_, _, rfl, rfl⟩
    | real x =>
      obtain ⟨i, -, hi, -⟩ := hreal hab
      exact ⟨i, _, hi, rfl⟩
    | _ => cases hab
  | real y =>
    cases a with
    | integer m =>
      obtain ⟨-, j, -, hj⟩ := hreal hab
      exact ⟨_, j, rfl, hj⟩
    | real x => exact hreal hab
    | _ => cases hab
  | boolean _ => cases a <;> cases hab
  | enumerated _ => cases a <;> cases hab
  | _ =>
    cases a with
    | char _ => simp [text?] at htext
    | string _ => simp [text?] at htext
    | _ => cases hab

/-- Numbers at one place are compared alike with every literal. -/
theorem compare?_congr {c : Literal} (ha : a.place? = some i) (hb : b.place? = some i)
    (hrounded : unrounded [a, b, c] = true) : a.compare? c = b.compare? c := by
  cases hc : c.place? with
  | some j =>
    rw [compare?_of_place (unrounded_of_subset hrounded (by simp)) ha hc,
      compare?_of_place (unrounded_of_subset hrounded (by simp)) hb hc]
  | none =>
    -- neither of the two can be compared with what is no number
    have hnone {l : Literal} (hl : l.place? = some i) : l.compare? c = none := by
      refine Option.not_isSome_iff_eq_none.mp fun hsome => ?_
      obtain ⟨-, j, -, hj⟩ := exists_place (.inl (text?_of_place hl)) hsome
      rw [hc] at hj
      cases hj
    rw [hnone ha, hnone hb]

end Numbers

/-! ### Comparing characters -/

theorem onlyChar?_eq_some_iff {s : String} {c : Char} :
    onlyChar? s = some c ↔ s = String.singleton c := by
  rw [String.ext_iff, String.toList_singleton]
  unfold onlyChar?
  split
  · rename_i d hd
    simp [hd]
  · rename_i hd
    exact ⟨nofun, fun h => absurd h (hd c)⟩

theorem compareText_singleton (c d : Char) :
    compareText (.singleton c) (.singleton d) = compare c.toNat d.toNat := by
  have hlt : String.singleton c < String.singleton d ↔ c.toNat < d.toNat := by
    rw [String.lt_iff_toList_lt, String.toList_singleton, String.toList_singleton,
      List.cons_lt_cons_iff]
    simp [Char.lt_def, UInt32.lt_iff_toNat_lt]
  have heq : String.singleton c = String.singleton d ↔ c.toNat = d.toNat := by
    simp [Char.toNat_inj]
  simp only [compareText, compareOfLessAndEq, hlt, heq]
  rfl

theorem compare_natCast (m n : Nat) : compare (m : Int) n = compare m n := by
  rcases lt_trichotomy m n with h | h | h
  · rw [compare_lt_iff_lt.mpr h, compare_lt_iff_lt.mpr (Int.ofNat_lt.mpr h)]
  · rw [h, compare_eq_iff_eq.mpr rfl, compare_eq_iff_eq.mpr rfl]
  · rw [compare_gt_iff_gt.mpr h, compare_gt_iff_gt.mpr (Int.ofNat_lt.mpr h)]

section Characters

variable {a b : Literal} {i j : Int}

/-- Characters are compared by their numbers. -/
theorem compare?_of_codePoint (hi : a.codePoint? = some i) (hj : b.codePoint? = some j) :
    a.compare? b = some (compare i j) := by
  cases a with
  | char c =>
    obtain rfl := Option.some.inj hi
    cases b with
    | char d =>
      obtain rfl := Option.some.inj hj
      rw [compare?, compare_natCast]
    | string t =>
      obtain ⟨d, hd, rfl⟩ := Option.map_eq_some_iff.mp hj
      simp only [compare?, hd, Option.map_some, compare_natCast]
    | _ => cases hj
  | string s =>
    obtain ⟨c, hc, rfl⟩ := Option.map_eq_some_iff.mp hi
    cases b with
    | char d =>
      obtain rfl := Option.some.inj hj
      simp only [compare?, hc, Option.map_some, compare_natCast]
    | string t =>
      obtain ⟨d, hd, rfl⟩ := Option.map_eq_some_iff.mp hj
      rw [onlyChar?_eq_some_iff.mp hc, onlyChar?_eq_some_iff.mp hd, compare?,
        compareText_singleton, compare_natCast]
    | _ => cases hj
  | _ => cases hi

/-- What a character can be compared with is a character. -/
theorem exists_codePoint {c : Char} (hab : ((Literal.char c).compare? b).isSome = true) :
    ∃ j, b.codePoint? = some j := by
  cases b with
  | char d => exact ⟨_, rfl⟩
  | string t =>
    obtain ⟨o, ho⟩ := Option.isSome_iff_exists.mp hab
    obtain ⟨d, hd, -⟩ := Option.map_eq_some_iff.mp ho
    exact ⟨d.toNat, by simp [codePoint?, hd]⟩
  | _ => cases hab

end Characters

/-- A literal that is no string and can be compared with two others stands with them on one line,
where comparing is comparing places. -/
theorem exists_line {x a b : Literal} (hx : ∀ s, x ≠ .string s)
    (hrounded : unrounded [x, a, b] = true) (ha : (x.compare? a).isSome = true)
    (hb : (x.compare? b).isSome = true) :
    ∃ i j k : Int, x.compare? a = some (compare i j) ∧ x.compare? b = some (compare i k) ∧
      a.compare? b = some (compare j k) := by
  have hpair {l m : Literal} (hl : l ∈ [x, a, b]) (hm : m ∈ [x, a, b]) :
      unrounded [l, m] = true :=
    unrounded_of_subset hrounded (List.cons_subset.mpr ⟨hl, by simpa using hm⟩)
  cases x with
  | char c =>
    obtain ⟨j, hj⟩ := exists_codePoint ha
    obtain ⟨k, hk⟩ := exists_codePoint hb
    exact ⟨c.toNat, j, k, compare?_of_codePoint rfl hj, compare?_of_codePoint rfl hk,
      compare?_of_codePoint hj hk⟩
  | string s => exact absurd rfl (hx s)
  | boolean _ => cases a <;> cases ha
  | enumerated _ => cases a <;> cases ha
  | _ =>
    obtain ⟨i, j, hi, hj⟩ := exists_place (.inl rfl) ha
    obtain ⟨-, k, -, hk⟩ := exists_place (.inl rfl) hb
    refine ⟨i, j, k, compare?_of_place (hpair ?_ ?_) hi hj, compare?_of_place (hpair ?_ ?_) hi hk,
      compare?_of_place (hpair ?_ ?_) hj hk⟩
    all_goals simp

/-! ### Literals of the same value -/

theorem stringLength?_eq (x : Literal) : x.stringLength? = x.text?.map String.length := by
  cases x <;> simp [stringLength?, text?]

/-- To have the value of a text is to be that text. -/
theorem sameValue_iff_text {a x : Literal} {t : String} (hx : x.text? = some t) :
    a.sameValue x = true ↔ a.text? = some t := by
  have hcompare (s t : String) : compareText s t = .eq ↔ s = t := by
    unfold compareText compareOfLessAndEq
    split
    · rename_i hlt
      exact ⟨nofun, fun h => absurd (h ▸ hlt) (lt_irrefl _)⟩
    · split <;> simp_all
  have hcode (c d : Char) : compare c.toNat d.toNat = .eq ↔ c = d := by
    rw [compare_eq_iff_eq, Char.toNat_inj]
  cases x with
  | char d =>
    obtain rfl := Option.some.inj hx
    cases a with
    | char c => simp [sameValue, compare?, text?, hcode]
    | string s =>
      simp only [sameValue, compare?, text?, beq_iff_eq, Option.map_eq_some_iff, hcode,
        exists_eq_right, onlyChar?_eq_some_iff, Option.some.injEq]
    | _ => simp [sameValue, compare?, text?]
  | string t' =>
    obtain rfl := Option.some.inj hx
    cases a with
    | char c =>
      simp only [sameValue, compare?, text?, beq_iff_eq, Option.map_eq_some_iff, hcode,
        Option.some.injEq]
      constructor
      · rintro ⟨d, hd, rfl⟩
        exact (onlyChar?_eq_some_iff.mp hd).symm
      · exact fun h => ⟨c, onlyChar?_eq_some_iff.mpr h.symm, rfl⟩
    | string s => simp [sameValue, compare?, text?, hcompare]
    | _ => simp [sameValue, compare?, text?]
  | _ => cases hx

/-- To have the value of a number is to have its place, where no integer is rounded. -/
theorem sameValue_iff_place {a x : Literal} {i : Int} (h : unrounded [a, x] = true)
    (hx : x.place? = some i) : a.sameValue x = true ↔ a.place? = some i := by
  have hsame : a.sameValue x = (a.compare? x == some .eq) := by
    cases x with
    | integer j => cases a <;> rfl
    | real y => cases a <;> rfl
    | _ => cases hx
  rw [hsame, beq_iff_eq]
  constructor
  · intro heq
    obtain ⟨j, -, hj, -⟩ := exists_place (.inr (text?_of_place hx)) (by rw [heq]; rfl)
    rw [compare?_of_place h hj hx, Option.some.injEq, compare_eq_iff_eq] at heq
    rw [hj, heq]
  · intro ha
    rw [compare?_of_place h ha hx, compare_eq_iff_eq.mpr rfl]

/-- A literal that is neither a text nor a number has only its own value. -/
theorem eq_of_sameValue {a x : Literal} (htext : x.text? = none) (hplace : x.place? = none)
    (h : a.sameValue x = true) : a = x := by
  cases x with
  | boolean b =>
    cases a with
    | boolean c => simpa [sameValue] using h
    | _ => cases h
  | enumerated n =>
    cases a with
    | enumerated m => simpa [sameValue] using h
    | _ => cases h
  | real y =>
    have hnone (y' : Binary64) : y'.compare? y = none := by
      simp only [place?] at hplace
      unfold Binary64.compare?
      split
      · simp_all
      · rfl
    cases a <;> simp [sameValue, compare?, hnone] at h
  | integer i => cases hplace
  | char c => cases htext
  | string s => cases htext

theorem sameValue_self {x : Literal} (hx : x.isReal = false) : x.sameValue x = true := by
  cases x with
  | real y => cases hx
  | char c => exact (sameValue_iff_text rfl).mpr rfl
  | string s => exact (sameValue_iff_text rfl).mpr rfl
  | integer i => simp [sameValue, compare?]
  | boolean b => simp [sameValue]
  | enumerated name => simp [sameValue]

/-- To have the value of a text goes both ways. -/
theorem sameValue_text_comm {a b : Literal} {s : String} (ha : a.text? = some s) :
    a.sameValue b = b.sameValue a := by
  rw [Bool.eq_iff_iff, sameValue_iff_text ha]
  cases hb : b.text? with
  | some t => rw [sameValue_iff_text hb, ha, eq_comm]
  | none =>
    cases a <;> cases b <;> simp_all [text?, sameValue, compare?]

/-- To denote the same value goes both ways. -/
theorem sameValue_comm (a b : Literal) : a.sameValue b = b.sameValue a := by
  cases a with
  | char c => exact sameValue_text_comm rfl
  | string s => exact sameValue_text_comm rfl
  | boolean x =>
    cases b with
    | boolean y => exact Bool.beq_comm
    | _ => rfl
  | enumerated m =>
    cases b with
    | enumerated n => exact BEq.comm
    | _ => rfl
  | integer i =>
    cases b with
    | integer j =>
      rw [Bool.eq_iff_iff]
      simp only [sameValue, compare?, beq_iff_eq, Option.some.injEq, compare_eq_iff_eq]
      exact eq_comm
    | real y => exact Binary64.compare?_eq_comm _ y
    | _ => rfl
  | real x =>
    cases b with
    | integer j => exact Binary64.compare?_eq_comm x _
    | real y => exact Binary64.compare?_eq_comm x y
    | _ => rfl

end Literal

end TestSpec
