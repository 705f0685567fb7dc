import TestSpec.Proofs.Constraint.Place
import TestSpec.Proofs.Matching.Operations
import TestSpec.Proofs.Template.Change

/-!
# Setting the bounds of a range

The bounds of a range template are set in any order and may be replaced, and a bound that
is refused leaves the template as it was (`Template.atomic_setBound`).  Integers and
character strings are two **domains**; within each, a bound has a place on a line of whole
numbers (`Value.At`), which a string has if it is a single character.

A range is **in order** if its bounds have places, and the places of two bounds lie in one
domain with the lower one not above the upper one.  A bound is accepted exactly if the
range with it is in order (`Template.on_setBound_ofRange`).  That is the step from which
every sequence of assignments keeps the range in order, and matching needs nothing else
of it.

Main statement: `Template.inOrder_assignAll`.
-/

namespace TestSpec

/-- The two sorts of values that bounds are taken from. -/
inductive BoundDomain where
  | integers
  | characters
  deriving DecidableEq

/-- An integer, or a character string of any length, of any kind made for it. -/
inductive Value.OfDomain : BoundDomain → Value → Prop
  | integer {kind : Kind} (hkind : kind = .integer ∨ kind = .integerAsn) (i : Int64) :
    OfDomain .integers (.scalar kind (.integer i))
  | text {kind : Kind} (hkind : kind.isCharacterString = true) (s : String) :
    OfDomain .characters (.text kind s)

/-- The place of an integer, or of a single character, in its domain. -/
inductive Value.At : BoundDomain → Int → Value → Prop
  | integer {kind : Kind} (hkind : kind = .integer ∨ kind = .integerAsn) (i : Int64) :
    At .integers i.toInt (.scalar kind (.integer i))
  | character {kind : Kind} {s : String} (hkind : kind.isCharacterString = true) {c : Char}
      (hc : s = .singleton c) : At .characters (c.toNat : Int) (.scalar kind (.text s))

namespace Value

variable {d d' : BoundDomain} {i j : Int} {v w : Value}

/-! ### Places -/

/-- A string that has a place is a single character. -/
theorem At.length_eq_one {s : String} (h : v.At d i) (hs : v.string = .ok s) : s.length = 1 := by
  cases h with
  | integer => cases hs
  | character _ hc =>
    cases hs
    rw [hc, String.length_singleton]

/-- A character string has a text. -/
theorem OfDomain.exists_string (h : v.OfDomain .characters) : ∃ s, v.string = .ok s := by
  cases h with
  | text _ s => exact ⟨s, rfl⟩

/-- A value with a place among the characters is one of them, also as a limit. -/
theorem At.exists_char (h : v.At .characters i) (isExclusive : Bool) :
    ∃ c : Char, i = c.toNat ∧ v.string = .ok (.singleton c) ∧
      Bound.charLimit ⟨v, isExclusive⟩ = .ok ⟨c, isExclusive⟩ := by
  cases h with
  | character _ hc =>
    rename_i c
    subst hc
    exact ⟨c, rfl, rfl, by simp [Bound.charLimit, string, Literal.onlyChar?_eq_some_iff.mpr]⟩

/-- Integers are matched by their order, characters as texts. -/
theorem At.isMatch_eq (h : v.At d i) (r : ValueRange) :
    r.isMatch v = if d = .integers then r.matchesOrdered v else r.matchesText v := by
  cases h with
  | integer hkind => rcases hkind with rfl | rfl <;> rfl
  | character hkind => exact if_pos hkind

theorem At.ofDomain (h : v.At d i) : v.OfDomain d := by
  cases h with
  | integer hkind i => exact .integer hkind i
  | character hkind _ => exact .text hkind _

/-- A value that has a place has it in its own domain. -/
theorem OfDomain.eq_of_at (h : v.OfDomain d) (hat : v.At d' i) : d = d' := by
  cases h <;> cases hat <;> rfl

/-- Values are ordered as their places are. -/
theorem At.order (h : v.At d i) (h' : w.At d j) : v.order w = .ok (compare i j) := by
  cases h with
  | integer =>
    cases h'
    rfl
  | character _ hc =>
    cases h' with
    | character _ hc' =>
      rw [hc, hc', Literal.compare_natCast, ← Literal.compareText_singleton]
      rfl

/-- Only values of one domain have an order. -/
theorem At.order_eq_ok {o : Ordering} (h : v.At d i) (h' : w.At d' j) (ho : v.order w = .ok o) :
    d = d' ∧ o = compare i j := by
  obtain rfl : d = d' := by
    cases h <;> cases h' <;> first | rfl | cases ho
  rw [h.order h', Except.ok.injEq] at ho
  exact ⟨rfl, ho.symm⟩

end Value

/-- A bound passes its own check exactly if it has a place. -/
theorem Bound.check_iff {d : BoundDomain} {b : Bound} (h : b.value.OfDomain d) (side : BoundSide) :
    b.check side = .ok () ↔ ∃ i, b.value.At d i := by
  obtain ⟨v, isExclusive⟩ := b
  cases h with
  | integer hkind i => exact iff_of_true rfl ⟨_, .integer hkind i⟩
  | @text kind hkind s =>
    constructor
    · intro hcheck
      have hlength := Bound.isLimit_of_check hcheck s rfl
      rw [← String.length_toList, List.length_eq_one_iff] at hlength
      obtain ⟨c, hc⟩ := hlength
      exact ⟨_, .character hkind (by rw [String.ext_iff, hc, String.toList_singleton])⟩
    · rintro ⟨i, hat⟩
      cases hat with
      | character _ hc =>
        simp only [check, Value.string, hc, String.length_singleton]
        rfl

/-! ### Ranges in order -/

/-- The bounds of a range have places, and those of two bounds lie in one domain, the lower one not
above the upper one. -/
structure ValueRange.InOrder (r : ValueRange) : Prop where
  lower : ∀ b ∈ r.lower, ∃ d i, b.value.At d i
  upper : ∀ b ∈ r.upper, ∃ d i, b.value.At d i
  sorted : ∀ low ∈ r.lower, ∀ high ∈ r.upper, ∃ d i j,
    low.value.At d i ∧ high.value.At d j ∧ i ≤ j

namespace ValueRange

variable {r : ValueRange} {b : Bound}

theorem inOrder_empty : InOrder {} where
  lower _ hb := by cases hb
  upper _ hb := by cases hb
  sorted _ hlow := by cases hlow

/-- A bound that is set in a range in order has a place. -/
theorem InOrder.exists_at {side : BoundSide} (h : (r.withBound b side).InOrder) :
    ∃ d i, b.value.At d i := by
  cases side with
  | lower => exact h.lower b rfl
  | upper => exact h.upper b rfl

/-- A bound that has a place fits a range in order exactly if the range with it is in order. -/
theorem InOrder.fits_iff (hr : r.InOrder) {d : BoundDomain} {i : Int} (hb : b.value.At d i)
    (side : BoundSide) : r.Fits side b ↔ (r.withBound b side).InOrder := by
  cases side with
  | lower =>
    constructor
    · refine fun hfits => ⟨?_, hr.upper, ?_⟩
      · rintro _ ⟨⟩
        exact ⟨d, i, hb⟩
      · rintro _ ⟨⟩ high hhigh
        obtain ⟨d', j, hj⟩ := hr.upper high hhigh
        obtain ⟨o, ho, hgt⟩ := hfits high hhigh
        obtain ⟨rfl, rfl⟩ := hb.order_eq_ok hj ho
        exact ⟨d, i, j, hb, hj, Int.compare_ne_gt.mp hgt⟩
    · intro horder high hhigh
      obtain ⟨d', i', j, hi, hj, hle⟩ := horder.sorted b rfl high hhigh
      exact ⟨_, hi.order hj, Int.compare_ne_gt.mpr hle⟩
  | upper =>
    constructor
    · refine fun hfits => ⟨hr.lower, ?_, ?_⟩
      · rintro _ ⟨⟩
        exact ⟨d, i, hb⟩
      · rintro low hlow _ ⟨⟩
        obtain ⟨d', j, hj⟩ := hr.lower low hlow
        obtain ⟨o, ho, hlt⟩ := hfits low hlow
        obtain ⟨rfl, rfl⟩ := hb.order_eq_ok hj ho
        exact ⟨d, j, i, hj, hb, Int.compare_ne_lt.mp hlt⟩
    · intro horder low hlow
      obtain ⟨d', j, i', hj, hi, hle⟩ := horder.sorted low hlow b rfl
      exact ⟨_, hi.order hj, Int.compare_ne_lt.mpr hle⟩

end ValueRange

namespace Template

variable {r : ValueRange} {b : Bound} {side : BoundSide} {t : Template}

/-- The template of a range. -/
def ofRange (r : ValueRange) : Template := ofSelector (.range r)

/-- The template after bounds were set one after another, whether each was accepted or not. -/
def assignAll (t : Template) (assignments : List (BoundSide × Bound)) : Template :=
  assignments.foldl (fun t a => ((setBound a.1 a.2).on t).2) t

/-- A bound is set in a range if it passes its check and fits the range. -/
theorem on_setBound_ofRange_eq_ok (hcheck : b.check side = .ok ()) (hfits : r.Fits side b) :
    (setBound side b).on (ofRange r) = (.ok (), ofRange (r.withBound b side)) :=
  on_setBound_eq_ok_iff.mpr ⟨hcheck, r, false, none, rfl, hfits, rfl⟩

/-- One bound is set in a range in order: it is accepted, and takes its side, exactly if the range
with it is in order; it is refused, and the range stays, otherwise. -/
theorem on_setBound_ofRange (hr : r.InOrder) {d : BoundDomain} (hb : b.value.OfDomain d)
    (side : BoundSide) :
    ((r.withBound b side).InOrder ∧
        (setBound side b).on (ofRange r) = (.ok (), ofRange (r.withBound b side))) ∨
      ¬ (r.withBound b side).InOrder ∧
        ∃ e, (setBound side b).on (ofRange r) = (.error e, ofRange r) := by
  rcases hset : (setBound side b).on (ofRange r) with ⟨e | ⟨⟩, t⟩
  · obtain rfl := atomic_setBound side b hset
    refine .inr ⟨fun horder => ?_, e, rfl⟩
    obtain ⟨i, hi⟩ : ∃ i, b.value.At d i := by
      obtain ⟨d', i, hi⟩ := horder.exists_at
      obtain rfl := hb.eq_of_at hi
      exact ⟨i, hi⟩
    rw [on_setBound_ofRange_eq_ok ((Bound.check_iff hb side).mpr ⟨i, hi⟩)
      ((hr.fits_iff hi side).mpr horder)] at hset
    cases hset
  · obtain ⟨hcheck, _, _, _, heq, hfits, rfl⟩ := on_setBound_eq_ok_iff.mp hset
    cases heq
    obtain ⟨i, hi⟩ := (Bound.check_iff hb side).mp hcheck
    exact .inl ⟨(hr.fits_iff hi side).mp hfits, rfl⟩

/-- Every sequence of assignments leads from a range in order to a range in order. -/
theorem assignAll_ofRange (hr : r.InOrder) {assignments : List (BoundSide × Bound)}
    (h : ∀ a ∈ assignments, ∃ d, a.2.value.OfDomain d) :
    ∃ r', (ofRange r).assignAll assignments = ofRange r' ∧ r'.InOrder := by
  induction assignments generalizing r with
  | nil => exact ⟨r, rfl, hr⟩
  | cons a rest ih =>
    obtain ⟨⟨d, hd⟩, hrest⟩ := List.forall_mem_cons.mp h
    have hcons : (ofRange r).assignAll (a :: rest) =
        ((setBound a.1 a.2).on (ofRange r)).2.assignAll rest := rfl
    rw [hcons]
    rcases on_setBound_ofRange hr hd a.1 with ⟨horder, hset⟩ | ⟨-, e, hset⟩
    · rw [hset]
      exact ih horder hrest
    · rw [hset]
      exact ih hr hrest

end Template

/-! ### Matching ranges in order -/

namespace ValueRange.InOrder

variable {r : ValueRange} {v : Value}

/-- Bounds that are strings are single characters. -/
theorem isLimit (hr : r.InOrder) : ∀ b ∈ r.bounds, b.IsLimit := by
  intro b hb
  obtain ⟨d, i, hat⟩ : ∃ d i, b.value.At d i := by
    rcases List.mem_append.mp hb with hb | hb
    · exact hr.lower b (Option.mem_toList.mp hb)
    · exact hr.upper b (Option.mem_toList.mp hb)
  exact fun text htext => hat.length_eq_one htext

/-- A string is matched against characters without a complaint about the range. -/
theorem matchesText_ne (hr : r.InOrder) (hbounds : ∀ b ∈ r.bounds, b.value.OfDomain .characters)
    (v : Value) (fault : RangeFault) : r.matchesText v ≠ .error (.invalidRange fault) := by
  have hlimit {b : Bound} (hb : b ∈ r.bounds) :
      (∃ text, b.value.string = .ok text) ∧ b.IsLimit :=
    ⟨(hbounds b hb).exists_string, hr.isLimit b hb⟩
  obtain ⟨lower, hlower⟩ := Bound.exists_charLimit? fun b hb => hlimit (r.lower_mem hb)
  obtain ⟨upper, hupper⟩ := Bound.exists_charLimit? fun b hb => hlimit (r.upper_mem hb)
  intro h
  simp only [matchesText, hlower, hupper] at h
  cases v with
  | scalar kind content => cases content <;> cases h
  | _ => cases h

/-- A range whose ends are not exclusive has its lower end. -/
theorem isMatch_lower (hr : r.InOrder) {low high : Bound} (hlow : low ∈ r.lower)
    (hhigh : high ∈ r.upper) (hlowIn : low.isExclusive = false)
    (hhighIn : high.isExclusive = false) : r.isMatch low.value = .ok true := by
  obtain ⟨d, i, j, hi, hj, hle⟩ := hr.sorted low hlow high hhigh
  obtain ⟨lower, upper⟩ := r
  obtain ⟨v, isExclusive⟩ := low
  obtain ⟨w, isExclusive'⟩ := high
  cases hlow
  cases hhigh
  cases hlowIn
  cases hhighIn
  cases d with
  | integers =>
    have habove : Bound.admitsAbove ⟨v, false⟩ v = .ok true := by
      rw [Bound.admitsAbove, hi.order hi, Int.compare_eq_eq.mpr rfl]
      rfl
    have hbelow : Bound.admitsBelow ⟨w, false⟩ v = .ok true := by
      rw [Bound.admitsBelow, hj.order hi, Except.map, Except.ok.injEq]
      simpa using Int.compare_ne_lt.mpr hle
    rw [hi.isMatch_eq, if_pos rfl, matchesOrdered, Option.elim_some, Option.elim_some, habove,
      hbelow]
    rfl
  | characters =>
    obtain ⟨c, rfl, hv, hc⟩ := hi.exists_char false
    obtain ⟨c', rfl, -, hc'⟩ := hj.exists_char false
    have hchar : c ≤ c' := by
      rw [Char.le_def, UInt32.le_iff_toNat_le]
      exact Int.ofNat_le.mp hle
    have hall : (String.singleton c).toList.all (fun x =>
        CharLimit.admitsAbove ⟨c, false⟩ x && CharLimit.admitsBelow ⟨c', false⟩ x) = true := by
      simp [CharLimit.admitsAbove, CharLimit.admitsBelow, hchar]
    rw [hi.isMatch_eq, if_neg (by decide), matchesText, Bound.charLimit?, Bound.charLimit?, hc, hc',
      hv]
    exact congrArg Except.ok hall

end ValueRange.InOrder

namespace Template

/-- A template of a range asks the range about every value that is bound. -/
theorem isMatch_ofRange (r : ValueRange) (ctx : MatchContext) (v : Value) :
    (ofRange r).isMatch ctx v =
      if v.isBound then r.isMatch v else .error (.unboundValue .matching) := by
  cases v <;> rfl

/-- **Ranges are built in order.**  A call that refuses a bound, of whatever kind, leaves the
template on which it is made as it was, whether that is a range or not.  Let integers and
character strings be set as bounds, one after another, in the range template without bounds.  Then
a further bound is accepted exactly if the range is in order with it.  Bounds that are strings are
single characters; of two bounds, which are of one domain, the lower one is not above the upper
one.  If the bounds are characters, no string meets a fault of the range, and a range with two ends
that are not exclusive has its lower end. -/
theorem inOrder_assignAll {assignments : List (BoundSide × Bound)}
    (h : ∀ a ∈ assignments, ∃ d, a.2.value.OfDomain d) :
    (∀ (side : BoundSide) (b : Bound) (t t' : Template) (e : MatchError),
      (setBound side b).on t = (.error e, t') → t' = t) ∧
    Template.range none none = .ok (ofRange {}) ∧ ∃ r : ValueRange,
      (ofRange {}).assignAll assignments = ofRange r ∧
      (∀ side b d, b.value.OfDomain d →
        ((r.withBound b side).InOrder ∧
            (setBound side b).on (ofRange r) = (.ok (), ofRange (r.withBound b side))) ∨
          ¬ (r.withBound b side).InOrder ∧
            ∃ e, (setBound side b).on (ofRange r) = (.error e, ofRange r)) ∧
      (∀ b ∈ r.bounds, ∀ text, b.value.string = .ok text → text.length = 1) ∧
      (∀ low ∈ r.lower, ∀ high ∈ r.upper,
        (∃ d, low.value.OfDomain d ∧ high.value.OfDomain d) ∧
          ∃ o, low.value.order high.value = .ok o ∧ (o = .lt ∨ o = .eq)) ∧
      ((∀ b ∈ r.bounds, b.value.OfDomain .characters) → ∀ ctx v,
        v.kind.isCharacterString = true → ∀ fault,
          (ofRange r).isMatch ctx v ≠ .error (.invalidRange fault)) ∧
      ∀ low ∈ r.lower, ∀ high ∈ r.upper, low.isExclusive = false → high.isExclusive = false →
        ∀ ctx, (ofRange r).isMatch ctx low.value = .ok true := by
  obtain ⟨r, hreached, hr⟩ := assignAll_ofRange ValueRange.inOrder_empty h
  refine ⟨fun side b t t' e hset => atomic_setBound side b hset, rfl, r, hreached,
    fun side b d hb => on_setBound_ofRange hr hb side, hr.isLimit, ?_, ?_, ?_⟩
  · intro low hlow high hhigh
    obtain ⟨d, i, j, hi, hj, hle⟩ := hr.sorted low hlow high hhigh
    refine ⟨⟨d, hi.ofDomain, hj.ofDomain⟩, _, hi.order hj, ?_⟩
    rcases Int.lt_or_eq_of_le hle with hlt | heq
    · exact .inl (Int.compare_eq_lt.mpr hlt)
    · exact .inr (Int.compare_eq_eq.mpr heq)
  · intro hbounds ctx v hkind fault
    rw [isMatch_ofRange]
    split
    · have htext : r.isMatch v = r.matchesText v := if_pos hkind
      rw [htext]
      exact hr.matchesText_ne hbounds v fault
    · nofun
  · intro low hlow high hhigh hlowIn hhighIn ctx
    have hbound : low.value.isBound = true := by
      obtain ⟨d, i, hi⟩ := hr.lower low hlow
      cases hvalue : low.value with
      | unbound =>
        rw [hvalue] at hi
        cases hi
      | _ => rfl
    rw [isMatch_ofRange, if_pos hbound]
    exact hr.isMatch_lower hlow hhigh hlowIn hhighIn

/-- Bounds for a range of letters, two of which are refused: a word, and an integer. -/
def letterBounds : List (BoundSide × Bound) :=
  [(.upper, ⟨.text .charstring "z", false⟩), (.lower, ⟨.text .charstring "ab", false⟩),
    (.lower, ⟨.integer 7, false⟩), (.lower, ⟨.text .charstring "m", true⟩),
    (.lower, ⟨.text .charstring "a", false⟩)]

/-- The letters from `a` to `z` are what is reached, and the letter `a` is among them.  A lower bound
behind `z` is refused then, and the letters stay; so is a bound for the template `?`. -/
theorem inOrder_assignAll_letters :
    let letters := ofRange ⟨some ⟨.text .charstring "a", false⟩,
      some ⟨.text .charstring "z", false⟩⟩
    (∀ a ∈ letterBounds, ∃ d, a.2.value.OfDomain d) ∧
      (ofRange {}).assignAll letterBounds = letters ∧
      letters.isMatch {} (.text .charstring "a") = .ok true ∧
      (setBound .lower ⟨.text .charstring "~", false⟩).on letters =
        (.error (.invalidRange (.inverted .lower)), letters) ∧
      (setBound .upper ⟨.integer 7, false⟩).on (ofSelector .any) =
        (.error (.invalidRange (.notARange .upper)), ofSelector .any) := by
  intro letters
  have hdomain : ∀ a ∈ letterBounds, ∃ d, a.2.value.OfDomain d := by
    simp only [letterBounds, List.forall_mem_cons]
    exact ⟨⟨_, .text rfl _⟩, ⟨_, .text rfl _⟩, ⟨_, .integer (.inl rfl) _⟩, ⟨_, .text rfl _⟩,
      ⟨_, .text rfl _⟩, by simp⟩
  have hletters : (ofRange {}).assignAll letterBounds = letters := rfl
  obtain ⟨hkept, -, r, hreached, -, -, -, -, hmatch⟩ := inOrder_assignAll hdomain
  have hrefused {t : Template} {side : BoundSide} {b : Bound} {e : MatchError}
      (h : ((setBound side b).on t).1 = .error e) : (setBound side b).on t = (.error e, t) :=
    Prod.ext h (hkept side b t _ e (Prod.ext h rfl))
  refine ⟨hdomain, hletters, ?_, hrefused rfl, hrefused rfl⟩
  rw [hletters] at hreached
  injection hreached with hrange
  injection hrange with hrange
  subst hrange
  exact hmatch _ rfl _ rfl rfl rfl {}

end Template

end TestSpec
