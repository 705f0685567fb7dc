import TestSpec.Template.Inspect
import TestSpec.Codec

/-!
# Matching

A template is matched against a value node by node.  At every node an uninitialized
template or an unbound value is an error, then the length restriction filters, then
the selector decides.  Lists of alternatives and elements are evaluated from the
left and stop at the first answer that settles them, so an error behind that answer
is never met.

Elements of a list are matched one by one, unless a bare `*` is among the items:
then the items are run over the set of positions that can be reached, position `j`
being reached when the items so far can take exactly the first `j` elements.

Matching walks no deeper than `maxMatchDepth` levels.
-/

namespace TestSpec

/-- How to match: with the older rules for omitted fields or not, and what to decode with. -/
structure MatchContext where
  isLegacy : Bool := false
  codec : Option Codec := none

/-- A character of a range of characters, and whether it belongs to the range. -/
structure CharLimit where
  char : Char
  isExclusive : Bool
  deriving DecidableEq, Repr

namespace Bound

/-- The single character that a bound is. -/
def charLimit (b : Bound) : Except MatchError CharLimit :=
  match b.value.string with
  | .error e => .error e
  | .ok s =>
    match onlyChar? s with
    | some c => .ok ⟨c, b.isExclusive⟩
    | none => .error (.invalidRange (.boundNotOneCharacter s))

/-- The single character that a bound is, if there is a bound. -/
def charLimit? : Option Bound → Except MatchError (Option CharLimit)
  | none => .ok none
  | some b => b.charLimit.map some

/-- A value does not lie below a lower bound. -/
def admitsAbove (b : Bound) (v : Value) : Except MatchError Bool :=
  (b.value.order v).map fun o => if b.isExclusive then o == .lt else o != .gt

/-- A value does not lie above an upper bound. -/
def admitsBelow (b : Bound) (v : Value) : Except MatchError Bool :=
  (b.value.order v).map fun o => if b.isExclusive then o == .gt else o != .lt

end Bound

namespace CharLimit

/-- A character does not lie below a lower limit. -/
def admitsAbove (l : CharLimit) (c : Char) : Bool :=
  if l.isExclusive then l.char < c else l.char ≤ c

/-- A character does not lie above an upper limit. -/
def admitsBelow (l : CharLimit) (c : Char) : Bool :=
  if l.isExclusive then c < l.char else c ≤ l.char

end CharLimit

namespace ValueRange

/-- Whether all characters of a value lie in the range. -/
def matchesText (r : ValueRange) (v : Value) : Except MatchError Bool := do
  let lower ← Bound.charLimit? r.lower
  let upper ← Bound.charLimit? r.upper
  let s ← v.string
  return s.toList.all fun c => lower.all (·.admitsAbove c) && upper.all (·.admitsBelow c)

/-- Whether a value lies in the range.  Both ends are looked at in any case. -/
def matchesOrdered (r : ValueRange) (v : Value) : Except MatchError Bool := do
  let above ← r.lower.elim (.ok true) (·.admitsAbove v)
  let below ← r.upper.elim (.ok true) (·.admitsBelow v)
  return above && below

/-- Whether a value lies in the range, character by character if it is a character string. -/
def isMatch (r : ValueRange) (v : Value) : Except MatchError Bool :=
  if v.kind.isCharacterString then r.matchesText v
  else if v.kind.isOrdered then r.matchesOrdered v
  else .error (.unorderedDomain v.kind)

end ValueRange

namespace Template

mutual

/-- Whether the template accepts an omitted field.  Only the older rules look for `omit` inside
lists of alternatives. -/
def matchesOmit (isLegacy : Bool) : Template → Bool
  | .mk selector ifPresent _ => ifPresent || selectorMatchesOmit isLegacy selector

/-- Whether the selector accepts an omitted field. -/
def selectorMatchesOmit (isLegacy : Bool) : Selector → Bool
  | .omit | .anyOrOmit => true
  | .valueList items => isLegacy && anyMatchesOmit isLegacy items
  | .complement items => isLegacy && !anyMatchesOmit isLegacy items
  | .uninitialized | .any | .specific _ | .record _ _ | .union _ _ _ | .elements _ _ | .range _
  | .decoded _ _ | .pattern _ => false

/-- Whether any of the templates accepts an omitted field. -/
def anyMatchesOmit (isLegacy : Bool) : List Template → Bool
  | [] => false
  | template :: rest => matchesOmit isLegacy template || anyMatchesOmit isLegacy rest

end

/-- The template is not uninitialized. -/
def isInitialized : Template → Bool
  | .mk .uninitialized _ _ => false
  | _ => true

/-- Whether the template requires its field to be there; `ifpresent` counts as being there. -/
def isPresent (t : Template) (isLegacy : Bool) : Bool :=
  t.ifPresent || (t.isInitialized && !t.matchesOmit isLegacy)

/-- The positions reached when a run of elements is taken: every position from the first reached
one on. -/
def reachRun (reached : List Bool) : List Bool :=
  match reached with
  | [] => []
  | true :: rest => List.replicate (rest.length + 1) true
  | false :: rest => false :: reachRun rest

/-- The positions reached when one element is taken; `isMatch` says whether an element matches. -/
def reachOne (isMatch : Value → Except MatchError Bool) :
    List Bool → List Value → Except MatchError (List Bool)
  | isReached :: reached, value :: values => do
    let here ← if isReached then isMatch value else .ok false
    let rest ← reachOne isMatch reached values
    return here :: rest
  | _, _ => .ok []

/-- The positions of `count` elements that are reached before any item: the first one. -/
def reachNone (count : Nat) : List Bool := true :: List.replicate count false

/-- Whether all of `count` elements are reached, `run` being what the items do with the positions
reached before them. -/
def tableAnswer (count : Nat) (run : List Bool → Except MatchError (List Bool)) :
    Except MatchError Bool :=
  (run (reachNone count)).map fun reached => reached.getLast? == some true

/-- Whether items match the elements of a list: by the table if a bare `*` is among them, `run` being
what they do with the positions, and one by one otherwise, which is what `each` asks. -/
def elementsAnswer (items : List Template) (values : List Value)
    (run : List Bool → Except MatchError (List Bool))
    (each : List Value → Except MatchError Bool) : Except MatchError Bool :=
  if items.any isRun then tableAnswer values.length run
  else if items.length = values.length then each values
  else .ok false

mutual

/-- Whether a value matches a template that stands `depth` levels deep. -/
def matchAt (ctx : MatchContext) (depth : Nat) : Template → Value → Except MatchError Bool
  | .mk selector _ length, value =>
    if maxMatchDepth ≤ depth then .error .depthExceeded
    else if !isInitialized (.mk selector false none) then .error .uninitializedTemplate
    else if !value.isBound then .error (.unboundValue .matching)
    else match length with
      | none => selectorMatch ctx depth selector value
      | some restriction =>
        match value.length with
        | .error e => .error e
        | .ok n =>
          if restriction.contains n then selectorMatch ctx depth selector value else .ok false

/-- Whether a bound value is among those that a selector selects. -/
def selectorMatch (ctx : MatchContext) (depth : Nat) : Selector → Value → Except MatchError Bool
  | .uninitialized, _ => .error .uninitializedTemplate
  | .omit, _ => .ok false
  | .any, _ | .anyOrOmit, _ => .ok true
  | .specific expected, value => value.equals expected
  | .valueList items, value => matchesAny ctx (depth + 1) items value
  | .complement items, value => (matchesAny ctx (depth + 1) items value).map not
  | .range r, value => r.isMatch value
  | .record _ fields, .record kind values => matchesFields ctx (depth + 1) kind values fields
  | .record _ _, value => .error (.typeMismatch .record value.kind)
  | .union _ alternative template, .union _ selected inner =>
    if selected = alternative ∧ inner.isBound then matchAt ctx (depth + 1) template inner
    else .ok false
  | .union _ _ _, value => .error (.typeMismatch .union value.kind)
  | .elements _ items, .list _ values =>
    elementsAnswer items values
      (fun reached => matchesRuns ctx (depth + 1) values reached items)
      (fun values => matchesEach ctx (depth + 1) items values)
  | .elements _ _, value => .error (.typeMismatch .list value.kind)
  | .decoded target inner, value =>
    match ctx.codec with
    | none => .error .missingCodec
    | some decode =>
      match value.octets with
      | .error e => .error e
      | .ok raw =>
        match decode raw target with
        | .ok content => matchAt ctx (depth + 1) inner content
        | .error _ => .ok false
  | .pattern p, value => value.string.map p.isMatch

/-- Whether a value matches any of the templates. -/
def matchesAny (ctx : MatchContext) (depth : Nat) : List Template → Value → Except MatchError Bool
  | [], _ => .ok false
  | template :: rest, value =>
    match matchAt ctx depth template value with
    | .ok false => matchesAny ctx depth rest value
    | answer => answer

/-- Whether the fields of a record match the field templates, found by their names. -/
def matchesFields (ctx : MatchContext) (depth : Nat) (kind : Kind) (values : List FieldValue) :
    List FieldTemplate → Except MatchError Bool
  | [] => .ok true
  | .mk name template :: rest =>
    match values.find? fun f => f.name == name with
    | none => .error (.typeMismatch .recordField kind)
    | some (.present _ value) =>
      match matchAt ctx depth template value with
      | .ok true => matchesFields ctx depth kind values rest
      | answer => answer
    | some (.omitted _) =>
      if matchesOmit ctx.isLegacy template then matchesFields ctx depth kind values rest
      else .ok false

/-- Whether the values match the templates one by one, there being as many of both. -/
def matchesEach (ctx : MatchContext) (depth : Nat) :
    List Template → List Value → Except MatchError Bool
  | template :: rest, value :: values =>
    match matchAt ctx depth template value with
    | .ok true => matchesEach ctx depth rest values
    | answer => answer
  | _, _ => .ok true

/-- The positions that the items can reach, starting from those reached before them. -/
def matchesRuns (ctx : MatchContext) (depth : Nat) (values : List Value) (reached : List Bool) :
    List Template → Except MatchError (List Bool)
  | [] => .ok reached
  | template :: rest =>
    if template.isRun then matchesRuns ctx depth values (reachRun reached) rest
    else
      match reachOne (matchAt ctx depth template) reached values with
      | .error e => .error e
      | .ok next => matchesRuns ctx depth values (false :: next) rest

end

/-- Whether the items take all elements, by the table of positions that they reach. -/
def matchesTable (ctx : MatchContext) (depth : Nat) (items : List Template)
    (values : List Value) : Except MatchError Bool :=
  tableAnswer values.length fun reached => matchesRuns ctx depth values reached items

/-- Whether the items of a list template, which stand `depth` levels deep, match the elements of a
list. -/
def matchesElements (ctx : MatchContext) (depth : Nat) (items : List Template)
    (values : List Value) : Except MatchError Bool :=
  elementsAnswer items values (fun reached => matchesRuns ctx depth values reached items)
    fun values => matchesEach ctx depth items values

/-- Whether a value matches a template. -/
def isMatch (ctx : MatchContext) (t : Template) (v : Value) : Except MatchError Bool :=
  t.matchAt ctx 0 v

end Template

end TestSpec
