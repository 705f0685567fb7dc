import TestSpec.Proofs.Matching.Elements
import TestSpec.Proofs.Value.Order

/-!
# The length of matching values

The length of a template tells of the length of the values that match it: an exact length
is that of all of them, and none of them is shorter than a least length.  A value that
has no length may match a template whose least length is zero, such as `?`.

What a template says of the length comes from its selector and from its length
restriction, and each has one lemma: `Template.lengthOf` follows the selector
(`Template.selectorMatch_describes`), and `TemplateLength.describes_restrict` adds the
restriction, which every matching value has passed.  Between the elements of a list
and the items of a template it is a cut that compares the two lengths
(`Template.Cuts.fixedCount_le`).

Main statement: `Template.length_of_isMatch`.
-/

namespace TestSpec

namespace TemplateLength

variable {known l : TemplateLength} {length : Except MatchError Nat}

/-- What is known of a length holds of the length that was found.  Where none was found, only a
least length of zero holds. -/
def Describes : TemplateLength → Except MatchError Nat → Prop
  | .exact n, length => length = .ok n
  | .unbounded least, .ok n => least ≤ n
  | .unbounded least, .error _ => least = 0

/-- Nothing is known of a length by a least length of zero. -/
theorem Describes.unbounded_zero (length : Except MatchError Nat) :
    (unbounded 0).Describes length := by
  cases length with
  | error e => rfl
  | ok n => exact Nat.zero_le n

/-- A restriction to one length leaves that length, if it leaves any. -/
theorem eq_exact_of_restrict_single {n : Nat} (hl : known.restrict (some (.single n)) = .ok l) :
    l = .exact n := by
  cases known <;>
  · simp only [restrict] at hl
    split at hl
    · exact (Except.ok.inj hl).symm
    · cases hl

/-- A restriction that a length has passed adds to what is known of it. -/
theorem describes_restrict {restriction : Option LengthRestriction} (h : known.Describes length)
    (hpassed : ∀ r ∈ restriction, ∃ n, length = .ok n ∧ r.contains n = true)
    (hl : known.restrict restriction = .ok l) : l.Describes length := by
  cases restriction with
  | none =>
    obtain rfl := Except.ok.inj hl
    exact h
  | some r =>
    obtain ⟨n, rfl, hn⟩ := hpassed r rfl
    cases r with
    | single m =>
      rw [LengthRestriction.contains, beq_iff_eq] at hn
      subst hn
      obtain rfl := eq_exact_of_restrict_single hl
      rfl
    | range least greatest =>
      rw [LengthRestriction.contains, Bool.and_eq_true, decide_eq_true_eq] at hn
      obtain ⟨hleast, hgreatest⟩ := hn
      rw [restrict.eq_def] at hl
      dsimp only at hl
      split at hl
      · cases hl
      cases known with
      | exact m =>
        obtain rfl := Except.ok.inj hl
        exact h
      | unbounded m =>
        have hlow : max least m ≤ n := Nat.max_le.mpr ⟨hleast, h⟩
        dsimp only at hl
        split at hl
        · rename_i hsame
          obtain rfl := Except.ok.inj hl
          rw [hsame, Option.all_some, decide_eq_true_eq] at hgreatest
          exact congrArg Except.ok (Nat.le_antisymm hgreatest hlow)
        · obtain rfl := Except.ok.inj hl
          exact hlow

end TemplateLength

/-! ### Values that are equal -/

theorem Scalar.length?_eq_of_equals {a b : Scalar} (h : a.equals b = true) :
    a.length? = b.length? := by
  cases a <;> cases b <;> simp_all [equals, length?]

/-- A value that equals one with a length has that length. -/
theorem Value.length_eq_ok_of_equals {v w : Value} {n : Nat} (h : v.equals w = .ok true)
    (hn : w.length = .ok n) : v.length = .ok n := by
  cases w with
  | unbound kind => cases hn
  | record kind fields => cases hn
  | union kind alternative value => cases hn
  | scalar kind content =>
    cases v with
    | scalar kind' content' =>
      rw [equals] at h
      have hsame := Scalar.length?_eq_of_equals (Except.ok.inj h)
      cases hcontent : content.length? with
      | none => simp [length, hcontent] at hn
      | some m => simpa [length, hcontent, hsame] using hn
    | _ => simp [equals] at h
  | list kind elements =>
    cases v with
    | list kind' elements' =>
      obtain ⟨_, _, ⟨⟩, helements⟩ := list_equals_iff.mp h
      rw [length, helements.length_eq]
      exact hn
    | _ => simp [equals] at h

namespace Template

variable {ctx : MatchContext} {depth : Nat} {item : Template} {items : List Template}
  {v : Value} {values : List Value} {l : TemplateLength}

/-! ### Items and elements -/

theorem isAnyOrOmit_of_isRun (h : item.isRun = true) : item.isAnyOrOmit = true := by
  unfold isRun at h
  split at h
  · rfl
  · cases h

/-- How many items match one element each: all but the bare `*`. -/
def singleCount (items : List Template) : Nat := items.countP fun t => !t.isRun

theorem fixedCount_le_singleCount (items : List Template) :
    fixedCount items ≤ singleCount items := by
  refine List.countP_mono_left fun item _ hfixed => ?_
  rw [Bool.not_eq_true'] at hfixed ⊢
  by_contra hrun
  rw [isAnyOrOmit_of_isRun (Bool.not_eq_false _ ▸ hrun)] at hfixed
  cases hfixed

/-- Among the elements that the items take, there is one for each item that matches one. -/
theorem Cuts.singleCount_le (h : Cuts ctx depth items values) :
    singleCount items ≤ values.length := by
  obtain ⟨runs, rfl, hruns⟩ := h
  induction hruns with
  | nil => exact Nat.zero_le _
  | @cons item run items runs htakes _ ih =>
    have htaken : (if (!item.isRun) = true then 1 else 0) ≤ run.length := by
      obtain hrun | ⟨v, rfl, -⟩ := htakes
      · simp [hrun]
      · split <;> simp
    have hrest : items.countP (fun t => !t.isRun) ≤ runs.flatten.length := ih
    rw [singleCount, List.countP_cons, List.flatten_cons, List.length_append]
    omega

/-- Items that stand for one element each take at least one element each. -/
theorem Cuts.fixedCount_le (h : Cuts ctx depth items values) :
    fixedCount items ≤ values.length :=
  (fixedCount_le_singleCount items).trans h.singleCount_le

/-- Where all items stand for one element each, there are as many elements as items. -/
theorem Cuts.length_eq (h : Cuts ctx depth items values)
    (hfixed : fixedCount items = items.length) : values.length = items.length := by
  have hnone : items.any isRun = false := by
    rw [List.any_eq_false]
    intro item hitem hrun
    have hcounted := List.countP_eq_length.mp hfixed item hitem
    rw [isAnyOrOmit_of_isRun hrun] at hcounted
    cases hcounted
  exact ((cuts_iff_forall₂ hnone).mp h).length_eq.symm

/-- The elements that the items match are as many as the items call for. -/
theorem elements_describes (kind listKind : Kind)
    (h : selectorMatch ctx depth (.elements kind items) (.list listKind values) = .ok true)
    (hl : selectorLength (.elements kind items) = .ok l) :
    l.Describes (Value.list listKind values).length := by
  rw [selectorMatch_elements] at h
  have hcuts := (matchesElements_cuts h).mp rfl
  rw [selectorLength] at hl
  obtain rfl := Except.ok.inj hl
  split
  · rename_i hfixed
    exact congrArg Except.ok ((hcuts.length_eq hfixed).trans hfixed.symm)
  · exact hcuts.fixedCount_le

/-! ### Alternatives -/

/-- All alternatives of a list have the length of the list. -/
theorem lengthOf_of_selectorLength (h : selectorLength (.valueList items) = .ok l) :
    ∀ item ∈ items, lengthOf item = .ok l := by
  have hsame : ∀ (rest : List Template) (known : TemplateLength),
      sameLength known rest = .ok l → known = l ∧ ∀ item ∈ rest, lengthOf item = .ok known := by
    intro rest
    induction rest with
    | nil => exact fun known h => ⟨Except.ok.inj h, by simp⟩
    | cons item rest ih =>
      intro known h
      rw [sameLength] at h
      split at h
      · cases h
      rename_i other hother
      split at h
      · rename_i heq
        subst heq
        obtain ⟨hknown, hrest⟩ := ih _ h
        exact ⟨hknown, List.forall_mem_cons.mpr ⟨hother, hrest⟩⟩
      · cases h
  cases items with
  | nil => cases h
  | cons first rest =>
    rw [selectorLength] at h
    split at h
    · cases h
    rename_i known hknown
    obtain ⟨rfl, hrest⟩ := hsame rest known h
    exact List.forall_mem_cons.mpr ⟨hknown, hrest⟩

/-! ### Templates -/

/-- A value that matches has passed the length restriction, and the selector selects it. -/
theorem of_matchAt_eq_true {selector : Selector} {ifPresent : Bool}
    {length : Option LengthRestriction}
    (h : matchAt ctx depth (.mk selector ifPresent length) v = .ok true) :
    (∀ r ∈ length, ∃ n, v.length = .ok n ∧ r.contains n = true) ∧
      selectorMatch ctx depth selector v = .ok true := by
  rw [matchAt_mk] at h
  split at h
  · cases h
  split at h
  · cases h
  split at h
  · cases h
  cases length with
  | none => exact ⟨by simp, h⟩
  | some r =>
    dsimp only at h
    split at h
    · cases h
    rename_i n hn
    split at h
    · rename_i hr
      exact ⟨fun _ heq => Option.some.inj heq ▸ ⟨n, hn, hr⟩, h⟩
    · cases h

mutual

theorem matchAt_describes : {depth : Nat} → {l : TemplateLength} → (t : Template) →
    matchAt ctx depth t v = .ok true → lengthOf t = .ok l → l.Describes v.length
  | _, _, .mk _ true _, _, hl => by cases hl
  | _, _, .mk selector false length, h, hl => by
    rw [lengthOf] at hl
    split at hl
    · cases hl
    rename_i known hknown
    obtain ⟨hpassed, hselected⟩ := of_matchAt_eq_true h
    exact TemplateLength.describes_restrict (selectorMatch_describes selector hselected hknown)
      hpassed hl

theorem selectorMatch_describes : {depth : Nat} → {l : TemplateLength} → (selector : Selector) →
    selectorMatch ctx depth selector v = .ok true → selectorLength selector = .ok l →
      l.Describes v.length
  | _, _, .specific expected, h, hl => by
    rw [selectorLength] at hl
    obtain ⟨n, hn, rfl⟩ := map_eq_ok.mp hl
    exact Value.length_eq_ok_of_equals h hn
  | _, _, .elements kind items, h, hl => by
    cases v with
    | list listKind values => exact elements_describes kind listKind h hl
    | _ => cases h
  | _, _, .any, _, hl | _, _, .anyOrOmit, _, hl | _, _, .range _, _, hl => by
    obtain rfl := Except.ok.inj hl
    exact .unbounded_zero v.length
  | _, _, .valueList items, h, hl => by
    rw [selectorMatch] at h
    exact matchesAny_describes items h (lengthOf_of_selectorLength hl)
  | _, _, .uninitialized, _, hl | _, _, .omit, _, hl | _, _, .complement _, _, hl
  | _, _, .record _ _, _, hl | _, _, .union _ _ _, _, hl | _, _, .decoded _ _, _, hl
  | _, _, .pattern _, _, hl => by cases hl

theorem matchesAny_describes : {depth : Nat} → {l : TemplateLength} → (items : List Template) →
    matchesAny ctx depth items v = .ok true → (∀ item ∈ items, lengthOf item = .ok l) →
      l.Describes v.length
  | _, _, [], h, _ => by cases h
  | _, _, item :: rest, h, hl => by
    rw [List.forall_mem_cons] at hl
    rw [matchesAny] at h
    split at h
    · exact matchesAny_describes rest h hl.2
    · exact matchAt_describes item h hl.1

end

/-- **The length of a template is that of the values that match it.**  If the template has an exact
length, a value that matches has it; if it has a least length, a value that matches is no shorter,
or it has no length at all and the least length is zero. -/
theorem length_of_isMatch {t : Template} (h : t.isMatch ctx v = .ok true) :
    (∀ n, t.lengthOf = .ok (.exact n) → v.length = .ok n) ∧
      (∀ least, t.lengthOf = .ok (.unbounded least) →
        (∃ n, v.length = .ok n ∧ least ≤ n) ∨ (∃ e, v.length = .error e) ∧ least = 0) := by
  refine ⟨fun n hn => matchAt_describes t h hn, fun least hleast => ?_⟩
  have hdescribes := matchAt_describes t h hleast
  cases hlength : v.length with
  | ok n =>
    rw [hlength] at hdescribes
    exact .inl ⟨n, rfl, hdescribes⟩
  | error e =>
    rw [hlength] at hdescribes
    exact .inr ⟨⟨e, rfl⟩, hdescribes⟩

/-- Lists of two elements, by one of two alternatives that both call for at least one: among the
items of the one stands a `*` of length one, the other is a list of alternatives again. -/
def pairs : Template :=
  .mk (.valueList [
    .ofSelector (.elements .recordOf [.ofSelector .any, .mk .anyOrOmit false (some (.single 1)),
      .ofSelector .anyOrOmit]),
    .ofSelector (.valueList [.ofSelector (.elements .recordOf
      [.ofSelector .anyOrOmit, specific (.text .charstring "b")])])])
    false (some (.range 2 (some 2)))

/-- A pair has length two, and an integer, which matches `?`, has none. -/
theorem length_of_isMatch_pairs :
    let v : Value := .list .recordOf [.text .charstring "aa", .text .charstring "b"]
    let any : Template := .ofSelector .any
    (pairs.isMatch {} v = .ok true ∧ pairs.lengthOf = .ok (.exact 2) ∧ v.length = .ok 2) ∧
      any.isMatch {} (.integer 7) = .ok true ∧ any.lengthOf = .ok (.unbounded 0) ∧
        ((∃ n, (Value.integer 7).length = .ok n ∧ 0 ≤ n) ∨
          (∃ e, (Value.integer 7).length = .error e) ∧ 0 = 0) := by
  intro v any
  have hpair : pairs.isMatch {} v = .ok true := by cbv
  have hpairs : pairs.lengthOf = .ok (.exact 2) := rfl
  have hinteger : any.isMatch {} (.integer 7) = .ok true := rfl
  have hany : any.lengthOf = .ok (.unbounded 0) := rfl
  exact ⟨⟨hpair, hpairs, (length_of_isMatch hpair).1 2 hpairs⟩, hinteger, hany,
    (length_of_isMatch hinteger).2 0 hany⟩

end Template

end TestSpec
