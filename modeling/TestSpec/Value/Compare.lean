import TestSpec.Value.Basic
import TestSpec.MatchError

/-!
# Equality and order of values

Two values are equal if their contents are: records field by field in the order of
the fields, unions and lists part by part, enumerated values by their ordinal alone,
and reals by value, where what is not a number equals itself.  Values with content
of different sorts are not equal.  Meeting an unbound part is an error, and parts are
compared from the left until one differs.

Only integers and reals, compared with one another freely, and character strings
have an order.
-/

namespace TestSpec

/-- Equality of content without parts. -/
def Scalar.equals : Scalar → Scalar → Bool
  | .enumerated _ m, .enumerated _ n => m == n
  | .real x, .real y => x.sameValue y || (x.isNaN && y.isNaN)
  | a, b => a == b

namespace Value

mutual

/-- Whether two values have the same content. -/
def equals : Value → Value → Except MatchError Bool
  | .unbound _, _ => .error (.unboundValue .comparison)
  | _, .unbound _ => .error (.unboundValue .comparison)
  | .scalar _ a, .scalar _ b => .ok (a.equals b)
  | .record _ a, .record _ b => if a.length = b.length then equalFields a b else .ok false
  | .union _ m a, .union _ n b => if m = n then equals a b else .ok false
  | .list _ a, .list _ b => if a.length = b.length then equalElements a b else .ok false
  | _, _ => .ok false

/-- Whether the fields of two records agree, name by name and value by value. -/
def equalFields : List FieldValue → List FieldValue → Except MatchError Bool
  | .present m a :: as, .present n b :: bs =>
    if m = n then
      match equals a b with
      | .ok true => equalFields as bs
      | answer => answer
    else .ok false
  | .omitted m :: as, .omitted n :: bs => if m = n then equalFields as bs else .ok false
  | [], [] => .ok true
  | _, _ => .ok false

/-- Whether the elements of two lists agree. -/
def equalElements : List Value → List Value → Except MatchError Bool
  | a :: as, b :: bs =>
    match equals a b with
    | .ok true => equalElements as bs
    | answer => answer
  | [], [] => .ok true
  | _, _ => .ok false

end

/-- The content of a value that has no parts, for an operation that needs a bound value. -/
def scalarFor (operation : Operation) : Value → Except MatchError (Option Scalar)
  | .unbound _ => .error (.unboundValue operation)
  | .scalar _ content => .ok (some content)
  | _ => .ok none

/-- The order of two contents, if they belong to one ordered domain. -/
def scalarOrder? : Option Scalar → Option Scalar → Option Ordering
  | some (.integer i), some (.integer j) => some (compare i.toInt j.toInt)
  | some (.real x), some (.real y) => x.compare? y
  | some (.integer i), some (.real y) => (Binary64.ofInt64 i).compare? y
  | some (.real x), some (.integer j) => x.compare? (.ofInt64 j)
  | some (.text s), some (.text t) => some (compareText s t)
  | _, _ => none

/-- The order of two values of one ordered domain. -/
def order (a b : Value) : Except MatchError Ordering :=
  match a.scalarFor .ordering, b.scalarFor .ordering with
  | .error e, _ => .error e
  | _, .error e => .error e
  | .ok x, .ok y =>
    match scalarOrder? x y with
    | some o => .ok o
    | none => .error (.unorderedDomain a.kind)

end Value

end TestSpec
