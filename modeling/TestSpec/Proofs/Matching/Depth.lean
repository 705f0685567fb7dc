import TestSpec.Proofs.Matching.Legacy

/-!
# Matching at any depth

A template may stand at any depth in other templates, and matching counts that depth only to stop
at `maxMatchDepth`.  So a template has the same answer, or the same error, wherever it stands, as
long as its own levels fit below the limit, and then the limit is never met
(`Template.matchAt_eq_of_height_le`).  How deep the value is does not matter: matching walks into a
value no deeper than the template is, and the comparison with a specific value, which goes on
from there, has no limit of its own.

Two runs are compared, one of which starts deeper than the other.  Each step of the deeper run is
met by the same step of the other one until the deeper run is cut off, which it is only if the
template has too many levels for it.  Both are carried through matching at once, step by step
(`CutOnlyIf`), since the error of a part is the error of the whole.
-/

namespace TestSpec

variable {α β : Type}

/-! ### Runs that are cut off -/

/-- The error of a run that meets the limit of depth. -/
def MatchError.isLimit : MatchError → Bool
  | .depthExceeded => true
  | _ => false

/-- A run was not cut off by the limit of depth. -/
def IsUncut (result : Except MatchError α) : Prop := result ≠ .error .depthExceeded

/-- Either there is reason for the limit, and it cuts the deeper run off, or the deeper run is not
cut off and the shallower one comes to the same. -/
def CutOnlyIf (reason : Prop) (deep shallow : Except MatchError α) : Prop :=
  (deep = .error .depthExceeded ∧ reason) ∨ (IsUncut deep ∧ shallow = deep)

namespace IsUncut

theorem ok (a : α) : IsUncut (.ok a) := by
  intro h
  cases h

theorem error {e : MatchError} (h : e.isLimit = false) :
    IsUncut (.error e : Except MatchError α) := by
  intro he
  rw [Except.error.inj he] at h
  cases h

/-- What fails with the error of a part was not cut off if the part was not. -/
theorem of_part {e : MatchError} (h : IsUncut (.error e : Except MatchError α)) :
    IsUncut (.error e : Except MatchError β) := by
  intro he
  apply h
  rw [Except.error.inj he]

theorem bind {x : Except MatchError α} {f : α → Except MatchError β} (hx : IsUncut x)
    (hf : ∀ a, IsUncut (f a)) : IsUncut (x >>= f) := by
  cases x with
  | error e => exact hx.of_part
  | ok a => exact hf a

theorem map {x : Except MatchError α} (hx : IsUncut x) (f : α → β) : IsUncut (x.map f) := by
  cases x with
  | error e => exact hx.of_part
  | ok a => exact ok (f a)

end IsUncut

namespace CutOnlyIf

variable {reason reason' : Prop} {deep shallow : Except MatchError α}

theorem cut (h : reason) : CutOnlyIf reason (.error .depthExceeded) shallow := .inl ⟨rfl, h⟩

theorem same (h : IsUncut deep) : CutOnlyIf reason deep deep := .inr ⟨h, rfl⟩

theorem mono (hreason : reason → reason') (h : CutOnlyIf reason deep shallow) :
    CutOnlyIf reason' deep shallow :=
  h.imp_left fun hcut => ⟨hcut.1, hreason hcut.2⟩

theorem bind {f g : α → Except MatchError β} (h : CutOnlyIf reason deep shallow)
    (hfg : ∀ a, CutOnlyIf reason (f a) (g a)) : CutOnlyIf reason (deep >>= f) (shallow >>= g) := by
  rcases h with ⟨hcut, hreason⟩ | ⟨huncut, hsame⟩
  · rw [hcut]
    exact cut hreason
  · rw [hsame]
    cases deep with
    | error e => exact same huncut.of_part
    | ok a => exact hfg a

theorem map (h : CutOnlyIf reason deep shallow) (f : α → β) :
    CutOnlyIf reason (deep.map f) (shallow.map f) := by
  rcases h with ⟨hcut, hreason⟩ | ⟨huncut, hsame⟩
  · rw [hcut]
    exact cut hreason
  · rw [hsame]
    exact same (huncut.map f)

end CutOnlyIf

/-! ### What does not count the depth -/

namespace Value

theorem string_isUncut (v : Value) : IsUncut v.string := by
  cases v with
  | scalar kind content =>
    cases content with
    | text s => exact .ok s
    | _ => exact .error rfl
  | _ => exact .error rfl

theorem length_isUncut (v : Value) : IsUncut v.length := by
  cases v with
  | list kind elements => exact .ok elements.length
  | scalar kind content =>
    rw [length]
    split
    · exact .ok _
    · exact .error rfl
  | _ => exact .error rfl

theorem octets_isUncut (v : Value) : IsUncut v.octets := by
  cases v with
  | scalar kind content =>
    rw [octets]
    split
    · exact .ok _
    · exact .error rfl
  | _ => exact .error rfl

theorem scalarFor_isUncut (operation : Operation) (v : Value) :
    IsUncut (v.scalarFor operation) := by
  cases v with
  | unbound kind => exact .error rfl
  | _ => exact .ok _

theorem order_isUncut (a b : Value) : IsUncut (a.order b) := by
  have ha := a.scalarFor_isUncut .ordering
  have hb := b.scalarFor_isUncut .ordering
  rw [order]
  split
  · rename_i e he
    rw [he] at ha
    exact ha.of_part
  · rename_i e he _
    rw [he] at hb
    exact hb.of_part
  · split
    · exact .ok _
    · exact .error rfl

mutual

/-- Comparing two values walks into both as deep as they go. -/
theorem equals_isUncut : (a b : Value) → IsUncut (a.equals b)
  | .unbound _, _ => .error rfl
  | .scalar _ _, b => by
    cases b with
    | unbound => exact .error rfl
    | _ => exact .ok _
  | .record _ as, b => by
    cases b with
    | unbound => exact .error rfl
    | record kind bs =>
      rw [equals]
      split
      · exact equalFields_isUncut as bs
      · exact .ok false
    | _ => exact .ok _
  | .union _ _ a, b => by
    cases b with
    | unbound => exact .error rfl
    | union kind alternative b =>
      rw [equals]
      split
      · exact equals_isUncut a b
      · exact .ok false
    | _ => exact .ok _
  | .list _ as, b => by
    cases b with
    | unbound => exact .error rfl
    | list kind bs =>
      rw [equals]
      split
      · exact equalElements_isUncut as bs
      · exact .ok false
    | _ => exact .ok _

theorem equalFields_isUncut : (as bs : List FieldValue) → IsUncut (equalFields as bs)
  | [], [] | [], _ :: _ | .present _ _ :: _, [] | .omitted _ :: _, []
  | .present _ _ :: _, .omitted _ :: _ | .omitted _ :: _, .present _ _ :: _ => .ok _
  | .present m a :: as, .present n b :: bs => by
    rw [equalFields]
    split
    · split
      · exact equalFields_isUncut as bs
      · exact equals_isUncut a b
    · exact .ok false
  | .omitted m :: as, .omitted n :: bs => by
    rw [equalFields]
    split
    · exact equalFields_isUncut as bs
    · exact .ok false

theorem equalElements_isUncut : (as bs : List Value) → IsUncut (equalElements as bs)
  | [], [] | [], _ :: _ | _ :: _, [] => .ok _
  | a :: as, b :: bs => by
    rw [equalElements]
    split
    · exact equalElements_isUncut as bs
    · exact equals_isUncut a b

end

end Value

theorem Bound.charLimit?_isUncut (bound : Option Bound) : IsUncut (Bound.charLimit? bound) := by
  cases bound with
  | none => exact .ok none
  | some b =>
    have hstring := b.value.string_isUncut
    refine IsUncut.map ?_ some
    rw [Bound.charLimit]
    split
    · rename_i e he
      rw [he] at hstring
      exact hstring.of_part
    · split
      · exact .ok _
      · exact .error rfl

theorem ValueRange.isMatch_isUncut (r : ValueRange) (v : Value) : IsUncut (r.isMatch v) := by
  rw [isMatch]
  split
  · apply IsUncut.bind (Bound.charLimit?_isUncut r.lower)
    intro lower
    apply IsUncut.bind (Bound.charLimit?_isUncut r.upper)
    intro upper
    apply IsUncut.bind v.string_isUncut
    intro s
    exact .ok _
  split
  · have hlimit {bound : Option Bound} {admits : Bound → Except MatchError Bool}
        (h : ∀ b, IsUncut (admits b)) : IsUncut (bound.elim (.ok true) admits) := by
      cases bound with
      | none => exact .ok true
      | some b => exact h b
    apply IsUncut.bind (hlimit fun b => (b.value.order_isUncut v).map _)
    intro above
    apply IsUncut.bind (hlimit fun b => (b.value.order_isUncut v).map _)
    intro below
    exact .ok _
  · exact .error rfl

/-! ### Steps of two runs -/

namespace Template

variable {ctx : MatchContext} {deep shallow : Nat} {reason : Prop} {t item : Template}
  {items : List Template} {v : Value} {values : List Value}

theorem matchesAny_cutOnlyIf
    (h : ∀ item ∈ items, CutOnlyIf reason (matchAt ctx deep item v) (matchAt ctx shallow item v)) :
    CutOnlyIf reason (matchesAny ctx deep items v) (matchesAny ctx shallow items v) := by
  induction items with
  | nil => exact .same (.ok false)
  | cons item rest ih =>
    rw [List.forall_mem_cons] at h
    rw [matchesAny, matchesAny]
    rcases h.1 with ⟨hcut, hreason⟩ | ⟨huncut, hsame⟩
    · rw [hcut]
      exact .cut hreason
    · rw [hsame]
      split
      · exact ih h.2
      · exact .same huncut

theorem matchesFields_cutOnlyIf {kind : Kind} {fields : List FieldValue}
    {templates : List FieldTemplate}
    (h : ∀ f ∈ templates, ∀ v,
      CutOnlyIf reason (matchAt ctx deep f.template v) (matchAt ctx shallow f.template v)) :
    CutOnlyIf reason (matchesFields ctx deep kind fields templates)
      (matchesFields ctx shallow kind fields templates) := by
  induction templates with
  | nil => exact .same (.ok true)
  | cons f rest ih =>
    obtain ⟨name, template⟩ := f
    rw [List.forall_mem_cons] at h
    have htemplate : ∀ v, CutOnlyIf reason (matchAt ctx deep template v)
        (matchAt ctx shallow template v) := h.1
    rw [matchesFields, matchesFields]
    split
    · exact .same (.error rfl)
    · rename_i v hfound
      rcases htemplate v with ⟨hcut, hreason⟩ | ⟨huncut, hsame⟩
      · rw [hcut]
        exact .cut hreason
      · rw [hsame]
        split
        · exact ih h.2
        · exact .same huncut
    · split
      · exact ih h.2
      · exact .same (.ok false)

theorem matchesEach_cutOnlyIf
    (h : ∀ item ∈ items, ∀ v,
      CutOnlyIf reason (matchAt ctx deep item v) (matchAt ctx shallow item v)) :
    CutOnlyIf reason (matchesEach ctx deep items values)
      (matchesEach ctx shallow items values) := by
  induction items generalizing values with
  | nil => exact .same (.ok true)
  | cons item rest ih =>
    cases values with
    | nil => exact .same (.ok true)
    | cons v values =>
      rw [List.forall_mem_cons] at h
      rw [matchesEach, matchesEach]
      rcases h.1 v with ⟨hcut, hreason⟩ | ⟨huncut, hsame⟩
      · rw [hcut]
        exact .cut hreason
      · rw [hsame]
        split
        · exact ih h.2
        · exact .same huncut

theorem reachOne_cutOnlyIf {isMatch isMatch' : Value → Except MatchError Bool}
    (h : ∀ v, CutOnlyIf reason (isMatch v) (isMatch' v)) (reached : List Bool) :
    CutOnlyIf reason (reachOne isMatch reached values) (reachOne isMatch' reached values) := by
  induction reached generalizing values with
  | nil =>
    rw [reachOne, reachOne]
    · exact .same (.ok [])
    all_goals simp
  | cons isReached reached ih =>
    cases values with
    | nil => exact .same (.ok [])
    | cons v values =>
      have hrest (here : Bool) :
          CutOnlyIf reason (reachOne isMatch reached values >>= fun rest => pure (here :: rest))
            (reachOne isMatch' reached values >>= fun rest => pure (here :: rest)) := by
        apply CutOnlyIf.bind ih
        intro rest
        exact .same (.ok _)
      rw [reachOne, reachOne]
      split
      · exact CutOnlyIf.bind (h v) hrest
      · exact CutOnlyIf.bind (.same (.ok false)) hrest

theorem matchesRuns_cutOnlyIf
    (h : ∀ item ∈ items, ∀ v,
      CutOnlyIf reason (matchAt ctx deep item v) (matchAt ctx shallow item v))
    (reached : List Bool) :
    CutOnlyIf reason (matchesRuns ctx deep values reached items)
      (matchesRuns ctx shallow values reached items) := by
  induction items generalizing reached with
  | nil => exact .same (.ok reached)
  | cons item rest ih =>
    rw [List.forall_mem_cons] at h
    rw [matchesRuns, matchesRuns]
    split
    · exact ih h.2 _
    · rcases reachOne_cutOnlyIf h.1 reached with ⟨hcut, hreason⟩ | ⟨huncut, hsame⟩
      · rw [hcut]
        exact .cut hreason
      · rw [hsame]
        split
        · rename_i e he
          rw [he] at huncut
          exact .same huncut.of_part
        · exact ih h.2 _

theorem matchesElements_cutOnlyIf
    (h : ∀ item ∈ items, ∀ v,
      CutOnlyIf reason (matchAt ctx deep item v) (matchAt ctx shallow item v)) :
    CutOnlyIf reason (matchesElements ctx deep items values)
      (matchesElements ctx shallow items values) := by
  rw [matchesElements_eq, matchesElements_eq]
  split
  · exact (matchesRuns_cutOnlyIf h _).map _
  split
  · exact matchesEach_cutOnlyIf h
  · exact .same (.ok false)

/-- Selectors hand the depth on to their parts, one level deeper, and use it for nothing else. -/
theorem selectorMatch_cutOnlyIf {selector : Selector}
    (hparts : ∀ u ∈ selector.parts, ∀ v,
      CutOnlyIf reason (matchAt ctx (deep + 1) u v) (matchAt ctx (shallow + 1) u v)) :
    CutOnlyIf reason (selectorMatch ctx deep selector v)
      (selectorMatch ctx shallow selector v) := by
  cases selector with
  | uninitialized => exact .same (.error rfl)
  | specific expected => exact .same (v.equals_isUncut expected)
  | valueList items => exact matchesAny_cutOnlyIf fun u hu => hparts u hu v
  | complement items => exact (matchesAny_cutOnlyIf fun u hu => hparts u hu v).map not
  | range r => exact .same (r.isMatch_isUncut v)
  | record kind templates =>
    cases v with
    | record kind' fields =>
      rw [selectorMatch, selectorMatch]
      apply matchesFields_cutOnlyIf
      intro f hf
      exact hparts f.template (List.mem_map_of_mem hf)
    | _ => exact .same (.error rfl)
  | union kind alternative template =>
    cases v with
    | union kind' selected inner =>
      rw [selectorMatch, selectorMatch]
      split
      · exact hparts template (List.mem_singleton_self template) inner
      · exact .same (.ok false)
    | _ => exact .same (.error rfl)
  | elements kind items =>
    cases v with
    | list kind' values =>
      rw [selectorMatch_elements, selectorMatch_elements]
      exact matchesElements_cutOnlyIf hparts
    | _ => exact .same (.error rfl)
  | decoded target inner =>
    have hoctets := v.octets_isUncut
    rw [selectorMatch, selectorMatch]
    split
    · exact .same (.error rfl)
    split
    · rename_i e he
      rw [he] at hoctets
      exact .same hoctets.of_part
    split
    · exact hparts inner (List.mem_singleton_self inner) _
    · exact .same (.ok false)
  | pattern p => exact .same (v.string_isUncut.map _)
  | _ => exact .same (.ok _)

/-- One template, of which one run may meet the limit. -/
theorem matchAt_cutOnlyIf (hle : shallow ≤ deep) (hlimit : maxMatchDepth ≤ deep → reason)
    (h : CutOnlyIf reason (selectorMatch ctx deep t.selector v)
      (selectorMatch ctx shallow t.selector v)) :
    CutOnlyIf reason (matchAt ctx deep t v) (matchAt ctx shallow t v) := by
  obtain ⟨selector, ifPresent, length⟩ := t
  rw [Template.selector] at h
  rw [matchAt_mk, matchAt_mk]
  by_cases hdeep : maxMatchDepth ≤ deep
  · rw [if_pos hdeep]
    exact .cut (hlimit hdeep)
  · have hshallow : ¬ maxMatchDepth ≤ shallow := by omega
    rw [if_neg hdeep, if_neg hshallow]
    split
    · exact .same (.error rfl)
    split
    · exact .same (.error rfl)
    cases length with
    | none => exact h
    | some restriction =>
      have hlength := v.length_isUncut
      dsimp only
      split
      · rename_i e he
        rw [he] at hlength
        exact .same hlength.of_part
      split
      · exact h
      · exact .same (.ok false)

/-! ### Whole templates -/

/-- A run that starts deeper is cut off, and then the template has too many levels for it, or it
comes to the same as one that starts less deep. -/
theorem matchAt_cutOnlyIf_of_le (ctx : MatchContext) (t : Template) (hle : shallow ≤ deep)
    (v : Value) :
    CutOnlyIf (maxMatchDepth < deep + t.height) (matchAt ctx deep t v)
      (matchAt ctx shallow t v) := by
  induction t using induction_parts generalizing deep shallow v with
  | step t ih =>
    have hheight := t.height_eq
    apply matchAt_cutOnlyIf hle (by omega)
    apply selectorMatch_cutOnlyIf
    intro u hu w
    have hpart : u.height < t.height := height_lt_of_mem_parts hu
    have hdeeper := ih u hu (Nat.succ_le_succ hle) w
    exact hdeeper.mono (by omega)

/-- **Matching does not depend on the depth.**  A template whose levels, the template itself being
the first of them, fit below the limit from some depth on has the same answer there as at the top,
or the same error, with any value and in any context; and the limit is never met. -/
theorem matchAt_eq_of_height_le {t : Template} {depth : Nat}
    (hheight : depth + t.height ≤ maxMatchDepth) (ctx : MatchContext) (v : Value) :
    matchAt ctx depth t v = matchAt ctx 0 t v ∧ matchAt ctx depth t v ≠ .error .depthExceeded := by
  have hcompared := matchAt_cutOnlyIf_of_le ctx t (Nat.zero_le depth) v
  rcases hcompared with ⟨-, hlimit⟩ | ⟨huncut, hsame⟩
  · omega
  · exact ⟨hsame.symm, huncut⟩

/-- The four levels of a template fit below the limit from depth 1020 on; one level further down
they do not, and the limit is met. -/
theorem matchAt_eq_of_height_le_otherThanB :
    otherThanB.height = 4 ∧
      matchAt { codec := some Codec.raw } 1020 otherThanB fullEntry =
        matchAt { codec := some Codec.raw } 0 otherThanB fullEntry ∧
      matchAt { codec := some Codec.raw } 1020 otherThanB fullEntry = .ok true ∧
      matchAt { codec := some Codec.raw } 1021 otherThanB fullEntry = .error .depthExceeded := by
  have hheight : 1020 + otherThanB.height ≤ maxMatchDepth := by decide
  have hsame := matchAt_eq_of_height_le hheight { codec := some Codec.raw } fullEntry
  exact ⟨rfl, hsame.1, rfl, rfl⟩

end Template

end TestSpec
