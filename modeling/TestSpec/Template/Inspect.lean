import TestSpec.Template.Range

/-!
# What a template stands for

`Template.valueOf` is the one value that a template without any choice stands for.
`Template.lengthOf` is the length of all values that a template matches: an exact
number, or a least one where the template matches values of any greater length too.
It combines what the selector tells with the length restriction, and fails where the
two contradict each other or the selector tells nothing.
-/

namespace TestSpec

/-- What is known of the length of the values that a template matches. -/
inductive TemplateLength where
  | exact (length : Nat)
  /-- Any length from the least one on. -/
  | unbounded (least : Nat)
  deriving DecidableEq, Repr

namespace TemplateLength

/-- The least length. -/
def least : TemplateLength → Nat
  | .exact n => n
  | .unbounded n => n

/-- Combine what a selector tells of the length with a length restriction. -/
def restrict (known : TemplateLength) :
    Option LengthRestriction → Except MatchError TemplateLength
  | none => .ok known
  | some (.single n) =>
    let fits := match known with
      | .exact m => n == m
      | .unbounded m => decide (m ≤ n)
    if fits then .ok (.exact n) else .error (.ambiguousLength (.restrictedTo known.least n))
  | some (.range least greatest) =>
    if greatest.any fun n => n < known.least then
      .error (.ambiguousLength (.restrictedBelow known.least (.range least greatest)))
    else match known with
      | .exact m => .ok (.exact m)
      | .unbounded m =>
        let low := max least m
        if greatest = some low then .ok (.exact low) else .ok (.unbounded low)

end TemplateLength

namespace Template

/-- An item of a list of alternatives or of its complement. -/
def listItem (t : Template) (index : Nat) : Except MatchError Template :=
  match t.selector with
  | .valueList items | .complement items =>
    match items[index]? with
    | some item => .ok item
    | none => .error (.listIndex index items.length)
  | _ => .error .notAList

mutual

/-- The one value that a template stands for. -/
def valueOf : Template → Except MatchError Value
  | .mk _ true _ => .error .nonSpecificValue
  | .mk selector false _ => selectorValue selector

/-- The one value that a selector stands for. -/
def selectorValue : Selector → Except MatchError Value
  | .specific value => if value.isBound then .ok value else .error (.unboundValue .valueOf)
  | .record kind fields => (fieldValues fields).map (Value.record kind)
  | .union kind alternative template => (valueOf template).map (Value.union kind alternative)
  | .elements kind items => (itemValues items).map (Value.list kind)
  | .uninitialized => .error .uninitializedTemplate
  | .omit | .any | .anyOrOmit | .valueList _ | .complement _ | .range _ | .decoded _ _
  | .pattern _ => .error .nonSpecificValue

/-- The fields that field templates stand for; `omit` stands for an omitted field. -/
def fieldValues : List FieldTemplate → Except MatchError (List FieldValue)
  | [] => .ok []
  | .mk name (.mk .omit _ _) :: rest => (fieldValues rest).map (.omitted name :: ·)
  | .mk name template :: rest =>
    match valueOf template with
    | .error e => .error e
    | .ok value => (fieldValues rest).map (.present name value :: ·)

/-- The values that a list of templates stands for. -/
def itemValues : List Template → Except MatchError (List Value)
  | [] => .ok []
  | template :: rest =>
    match valueOf template with
    | .error e => .error e
    | .ok value => (itemValues rest).map (value :: ·)

end

/-- How many items of a list template stand for one element each. -/
def fixedCount (items : List Template) : Nat := items.countP fun t => !t.isAnyOrOmit

mutual

/-- The length of all values that a template matches. -/
def lengthOf : Template → Except MatchError TemplateLength
  | .mk _ true _ => .error .ifPresentLength
  | .mk selector false length =>
    match selectorLength selector with
    | .error e => .error e
    | .ok known => known.restrict length

/-- The length of all values that a selector selects. -/
def selectorLength : Selector → Except MatchError TemplateLength
  | .specific value => value.length.map .exact
  | .elements _ items =>
    let fixed := fixedCount items
    .ok (if fixed = items.length then .exact fixed else .unbounded fixed)
  | .any | .anyOrOmit | .range _ => .ok (.unbounded 0)
  | .valueList [] => .error (.ambiguousLength .emptyList)
  | .valueList (first :: rest) =>
    match lengthOf first with
    | .error e => .error e
    | .ok known => sameLength known rest
  | .omit => .error (.lengthOfNonSpecific .omit)
  | .complement _ => .error (.lengthOfNonSpecific .complement)
  | .pattern _ => .error (.lengthOfNonSpecific .pattern)
  | .decoded _ _ => .error (.lengthOfNonSpecific .decodedMatch)
  | .record kind _ => .error (.lengthNotApplicable kind)
  | .union kind _ _ => .error (.lengthNotApplicable kind)
  | .uninitialized => .error .uninitializedTemplate

/-- The length that all further alternatives must have too. -/
def sameLength (known : TemplateLength) : List Template → Except MatchError TemplateLength
  | [] => .ok known
  | template :: rest =>
    match lengthOf template with
    | .error e => .error e
    | .ok other =>
      if other = known then sameLength known rest
      else .error (.ambiguousLength .differentLengths)

end

end Template

end TestSpec
