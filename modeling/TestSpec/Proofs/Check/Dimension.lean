import TestSpec.Proofs.Check.Template
import TestSpec.Proofs.Matching.Length

/-!
# Array templates with too many elements

An array template may not list more elements than the array has.  What counts as an element is
asked twice, and answered in two ways.  Matching takes a `*` for any number of elements only if it
is bare: with a length restriction it stands for one element, as every other item does.  The check
leaves every `*` out of its count, restricted or not.

So the check counts the items that match one element each, less the **restricted** `*` items among
them (`Template.fixedCount_add_restrictedCount`).  A template that it complains about matches no
array of the type, and where no `*` is restricted it complains about every template that has more
such items than the array has elements (`Store.reportsCount_iff`).  With a restricted `*` it lets
some of them pass (`Store.not_reportsCount_restricted`).
-/

namespace TestSpec

namespace Template

variable {ctx : MatchContext} {depth : Nat} {items : List Template} {values : List Value}

/-- How many items are a `*` with a length restriction. -/
def restrictedCount (items : List Template) : Nat := items.countP fun t => t.isAnyOrOmit && !t.isRun

/-- The items that match one element each are those counted by the check, and the restricted `*`. -/
theorem fixedCount_add_restrictedCount (items : List Template) :
    fixedCount items + restrictedCount items = singleCount items := by
  induction items with
  | nil => rfl
  | cons item rest ih =>
    simp only [fixedCount, restrictedCount, singleCount, List.countP_cons] at ih ⊢
    cases hrun : item.isRun with
    | true =>
      simp only [isAnyOrOmit_of_isRun hrun]
      simpa using ih
    | false =>
      cases item.isAnyOrOmit with
      | true =>
        simp only [Bool.not_true, Bool.not_false, Bool.and_true, Bool.false_eq_true, if_false,
          if_true]
        omega
      | false =>
        simp only [Bool.not_false, Bool.and_true, Bool.false_eq_true, if_false, if_true]
        omega

/-- A `*` without a length restriction is bare. -/
theorem isRun_of_isAnyOrOmit {t : Template} (hstar : t.isAnyOrOmit = true)
    (hlength : t.length = none) : t.isRun = true := by
  obtain ⟨selector, ifPresent, length⟩ := t
  cases selector with
  | anyOrOmit =>
    cases hlength
    rfl
  | _ => cases hstar

/-- Where no `*` has a length restriction, none is counted as restricted. -/
theorem restrictedCount_eq_zero
    (h : ∀ item ∈ items, item.isAnyOrOmit = true → item.length = none) :
    restrictedCount items = 0 := by
  refine List.countP_eq_zero.mpr fun item hitem hrestricted => ?_
  rw [Bool.and_eq_true, Bool.not_eq_true'] at hrestricted
  obtain ⟨hstar, hrun⟩ := hrestricted
  rw [isRun_of_isAnyOrOmit hstar (h item hitem hstar)] at hrun
  cases hrun

/-- A list template with more items that match one element each than a list has elements does not
match it. -/
theorem matchAt_ne_of_length_lt {kind listKind : Kind} {ifPresent : Bool}
    {length : Option LengthRestriction} (h : values.length < singleCount items) :
    matchAt ctx depth (.mk (.elements kind items) ifPresent length) (.list listKind values) ≠
      .ok true := by
  intro hmatch
  have hselected := (of_matchAt_eq_true hmatch).2
  rw [selectorMatch_elements] at hselected
  exact absurd ((matchesElements_cuts hselected).mp rfl).singleCount_le (Nat.not_le.mpr h)

end Template

/-- The complaint is about the number of elements of an array template. -/
def Complaint.isElementCount (c : Complaint) : Bool := c.message == .elementCount

namespace Store

variable {s : Store} {type last : TypeId} {n deeper : Nesting} {items : List Template}

/-- The complaints about the items of a list template for a type. -/
def itemComplaints (s : Store) (type : TypeId) (n : Nesting) (items : List Template) :
    List Complaint :=
  (s.elementType type).elim [] fun t => items.flatMap fun item =>
    (s.checkTemplate t false n item).1.complaints

/-- The check of a list template reaches it, and complains about its number of elements once more
than the checks of its items do of theirs. -/
def ReportsCount (s : Store) (type : TypeId) (isOptional : Bool) (n : Nesting) (t : Template)
    (items : List Template) : Prop :=
  ∃ deeper, n.enter? = some deeper ∧
    (s.checkTemplate type isOptional n t).1.complaints.countP Complaint.isElementCount =
      (s.itemComplaints type deeper items).countP Complaint.isElementCount + 1

/-- No complaint about modifiers is one about the number of elements. -/
theorem countP_modifierComplaints (isOptional : Bool) (t : Template) :
    (s.modifierComplaints type last isOptional t).countP Complaint.isElementCount = 0 := by
  have hlength : ∀ r : LengthRestriction,
      (lengthComplaints (s.get last).kind (s.name type) r).countP Complaint.isElementCount = 0 := by
    intro r
    rw [lengthComplaints.eq_def]
    split
    · rfl
    cases r with
    | single length => rfl
    | range least greatest =>
      cases greatest with
      | none => rfl
      | some greatest =>
        dsimp only
        split <;> rfl
  rw [modifierComplaints, List.countP_append]
  have hpresent : (if (t.ifPresent && !isOptional) = true then
      [(⟨.ifPresentNotAllowed, []⟩ : Complaint)] else []).countP Complaint.isElementCount = 0 := by
    split <;> rfl
  rw [hpresent, Nat.zero_add]
  cases t.length with
  | none => rfl
  | some r => exact hlength r

/-- Of the complaints about the dimension of an array, there is one about the number of elements
exactly if the check counts more elements than the array has. -/
theorem countP_dimensionComplaints {d : Declaration} {dimension : Nat} (harray : d.kind = .array)
    (hdimension : d.dimension = some dimension) (typeName : String) (items : List Template) :
    (dimensionComplaints d typeName items).countP Complaint.isElementCount =
      if dimension < Template.fixedCount items then 1 else 0 := by
  simp only [dimensionComplaints, hdimension, harray, true_and]
  split <;> rfl

/-- The complaints about the elements of a list template are the one about their number, if any,
and those about each of them. -/
theorem checkSelector_elements_complaints {kind : Kind} (hlist : (s.get last).kind.isList = true)
    (hlast : s.resolveAlias? type = some last) (isOptional : Bool) :
    (s.checkSelector type last isOptional n (.elements kind items)).1 =
      dimensionComplaints (s.get last) (s.name type) items ++ s.itemComplaints type n items := by
  rw [checkSelector, itemComplaints, ← elementType_last hlast]
  simp only [hlist, if_true]
  cases s.elementType last with
  | none => exact (List.append_nil _).symm
  | some t =>
    dsimp only [Option.elim_some]
    rw [checkTemplates_complaints]

/-- The check of an array template that it reaches complains about the number of elements exactly
if it counts more of them than the array has. -/
theorem reportsCount_iff_fixedCount {dimension : Nat}
    (hsilenced : s.isSilenced type = false) (hlast : s.resolveAlias? type = some last)
    (harray : (s.get last).kind = .array) (hdimension : (s.get last).dimension = some dimension)
    (n : Nesting) (isOptional : Bool) (kind : Kind) (items : List Template) (ifPresent : Bool)
    (length : Option LengthRestriction) :
    s.ReportsCount type isOptional n (.mk (.elements kind items) ifPresent length) items ↔
      n.enter?.isSome = true ∧ dimension < Template.fixedCount items := by
  have hlist : (s.get last).kind.isList = true := by
    rw [harray]
    rfl
  have hcount : ∀ deeper, n.enter? = some deeper →
      (s.checkTemplate type isOptional n
          (.mk (.elements kind items) ifPresent length)).1.complaints.countP
          Complaint.isElementCount =
        (if dimension < Template.fixedCount items then 1 else 0) +
          (s.itemComplaints type deeper items).countP Complaint.isElementCount := by
    intro deeper hdeeper
    rw [checkTemplate_findings hdeeper, hsilenced, hlast]
    simp only [Bool.false_eq_true, if_false, Option.elim_some, Findings.ofComplaints,
      Template.selector, checkSelector_elements_complaints hlist hlast, List.countP_append,
      countP_modifierComplaints, countP_dimensionComplaints harray hdimension, Nat.zero_add]
  constructor
  · rintro ⟨deeper, hdeeper, hreports⟩
    rw [hcount deeper hdeeper] at hreports
    refine ⟨by rw [hdeeper]; rfl, ?_⟩
    by_contra hfew
    rw [if_neg hfew] at hreports
    omega
  · rintro ⟨hroom, hmany⟩
    obtain ⟨deeper, hdeeper⟩ := Option.isSome_iff_exists.mp hroom
    refine ⟨deeper, hdeeper, ?_⟩
    rw [hcount deeper hdeeper, if_pos hmany, Nat.add_comm]

/-- **Which array templates are reported as too long.**  Let a type be an array with a dimension
that is not silenced.  The check reports a list template for it exactly if it reaches it, and of the
items that match one element each there are more than the dimension even without the restricted `*`
among them.  So where no `*` is restricted, it reports a template that it reaches exactly if there
are more such items than the dimension.  And a template with more such items, reported or not,
matches no array of that dimension. -/
theorem reportsCount_iff {dimension : Nat}
    (hsilenced : s.isSilenced type = false) (hlast : s.resolveAlias? type = some last)
    (harray : (s.get last).kind = .array) (hdimension : (s.get last).dimension = some dimension)
    (n : Nesting) (isOptional : Bool) (kind : Kind) (items : List Template) (ifPresent : Bool)
    (length : Option LengthRestriction) :
    (s.ReportsCount type isOptional n (.mk (.elements kind items) ifPresent length) items ↔
        n.enter?.isSome = true ∧
          dimension + Template.restrictedCount items < Template.singleCount items) ∧
      ((∀ item ∈ items, item.isAnyOrOmit = true → item.length = none) →
        (s.ReportsCount type isOptional n (.mk (.elements kind items) ifPresent length) items ↔
          n.enter?.isSome = true ∧ dimension < Template.singleCount items)) ∧
      (dimension < Template.singleCount items →
        ∀ (ctx : MatchContext) (depth : Nat) (listKind : Kind) (values : List Value),
          values.length = dimension →
          Template.matchAt ctx depth (.mk (.elements kind items) ifPresent length)
            (.list listKind values) ≠ .ok true) := by
  have hreports := reportsCount_iff_fixedCount hsilenced hlast harray hdimension n isOptional kind
    items ifPresent length
  have hcounts := Template.fixedCount_add_restrictedCount items
  refine ⟨?_, ?_, ?_⟩
  · rw [hreports]
    exact and_congr_right fun _ => by omega
  · intro hbare
    rw [hreports]
    have hnone := Template.restrictedCount_eq_zero hbare
    exact and_congr_right fun _ => by omega
  · intro hmany ctx depth listKind values hlength
    exact Template.matchAt_ne_of_length_lt (by omega)

/-- A store with pairs of character strings. -/
def pairs : Store := ⟨#[
  { name := "charstring", kind := .charstring, isBuiltin := true },
  { name := "Pair", kind := .array, element := some (.name "charstring"), dimension := some 2 }]⟩

/-- Two strings, and a third item. -/
def withThird (third : Template) : List Template :=
  [.specific (.text .charstring "a"), .specific (.text .charstring "b"), third]

/-- The array template of these items. -/
def listOfThree (third : Template) : Template := .mk (.elements .array (withThird third)) false none

/-- Three items that match one string each are reported for a pair. -/
theorem reportsCount_iff_three :
    pairs.isSilenced 1 = false ∧ pairs.resolveAlias? 1 = some 1 ∧ (pairs.get 1).kind = .array ∧
      (pairs.get 1).dimension = some 2 ∧
      (∀ item ∈ withThird (.ofSelector .any), item.isAnyOrOmit = true → item.length = none) ∧
      2 < Template.singleCount (withThird (.ofSelector .any)) ∧
      pairs.ReportsCount 1 false { maxDepth := maxCheckDepth } (listOfThree (.ofSelector .any))
        (withThird (.ofSelector .any)) := by
  have hsilenced : pairs.isSilenced 1 = false := by decide
  have hlast : pairs.resolveAlias? 1 = some 1 := by decide
  have hdimension : (pairs.get 1).dimension = some 2 := rfl
  have hbare : ∀ item ∈ withThird (.ofSelector .any),
      item.isAnyOrOmit = true → item.length = none := by decide
  have hmany : 2 < Template.singleCount (withThird (.ofSelector .any)) := by decide
  have hreports := (reportsCount_iff hsilenced hlast rfl hdimension { maxDepth := maxCheckDepth }
    false .array (withThird (.ofSelector .any)) false none).2.1 hbare
  exact ⟨hsilenced, hlast, rfl, hdimension, hbare, hmany, hreports.mpr ⟨rfl, hmany⟩⟩

/-- A third item `*` that is restricted to a length matches one string, and is not reported for a
pair. -/
theorem not_reportsCount_restricted :
    pairs.isSilenced 1 = false ∧ (pairs.get 1).kind = .array ∧ (pairs.get 1).dimension = some 2 ∧
      2 < Template.singleCount (withThird (.mk .anyOrOmit false (some (.single 1)))) ∧
      ¬ pairs.ReportsCount 1 false { maxDepth := maxCheckDepth }
        (listOfThree (.mk .anyOrOmit false (some (.single 1))))
        (withThird (.mk .anyOrOmit false (some (.single 1)))) := by
  have hsilenced : pairs.isSilenced 1 = false := by decide
  have hlast : pairs.resolveAlias? 1 = some 1 := by decide
  have hdimension : (pairs.get 1).dimension = some 2 := rfl
  refine ⟨hsilenced, rfl, hdimension, by decide, fun hreports => ?_⟩
  have hmany := (reportsCount_iff_fixedCount hsilenced hlast rfl hdimension _ _ _ _ _ _).mp hreports
  exact absurd hmany.2 (by decide)

end Store

end TestSpec
