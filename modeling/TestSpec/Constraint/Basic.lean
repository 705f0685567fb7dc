import TestSpec.Constraint.Range
import TestSpec.Constraint.Length

/-!
# Constraints on types

A constraint narrows the values of a type beyond its kind, in one of three
dimensions: a set of literals, a range, or a set of permitted lengths.  A literal of
a domain that a constraint says nothing about is not refuted by it.

`Constraint.admits` is what a constraint means for one literal.  The other questions
are whether a constraint admits nothing, whether it admits a string of one element,
whether two constraints admit a common value, and whether one only narrows another.
-/

namespace TestSpec

/-- A restriction of the values of a type. -/
inductive Constraint where
  | values (literals : List Literal)
  | range (r : Range)
  | lengths (ranges : List LengthRange)
  deriving DecidableEq, Repr

namespace Constraint

/-- The largest integer range that is listed to compare it with a set of literals. -/
def maxListed : Nat := 4096

/-- The limits of a range, and of every length range, are in order. -/
def isWellFormed : Constraint → Bool
  | .values _ => true
  | .range r => r.isWellFormed
  | .lengths ranges => ranges.all LengthRange.isWellFormed

/-- The constraint admits nothing. -/
def isEmpty : Constraint → Bool
  | .values literals => literals.isEmpty
  | .range r => r.isEmpty
  | .lengths ranges => ranges.all fun r => !r.isWellFormed

/-- A value satisfies the constraint, or lies outside the domain it restricts. -/
def admits (c : Constraint) (value : Literal) : Bool :=
  match c with
  | .values literals => literals.any fun l => l.sameValue value
  | .range r => r.contains value
  | .lengths ranges => value.stringLength?.all fun n => ranges.any fun r => r.contains n

/-- The constraint admits some string of one element.  A set of literals without any string says
nothing about strings. -/
def admitsElement : Constraint → Bool
  | .values literals =>
    literals.any (fun l => l.stringLength? == some 1) ||
      literals.all fun l => l.stringLength?.isNone
  | .range r => !r.isEmpty
  | .lengths ranges => ranges.any fun r => r.contains 1

/-- Two constraints admit a common value.  Two alphabets always share the empty string, and
constraints in different dimensions cannot refute each other. -/
def isCompatible : Constraint → Constraint → Bool
  | .values a, .values b => a.any fun x => b.any fun y => x.sameValue y
  | .range a, .range b => a.isAlphabet || b.isAlphabet || a.overlaps b
  | .lengths a, .lengths b => a.any fun x => b.any fun y => x.overlaps y
  | .values literals, other => literals.any other.admits
  | other, .values literals => literals.any other.admits
  | .range _, .lengths _ => true
  | .lengths _, .range _ => true

/-- Whether every value that `child` admits is admitted by `parent`. -/
def isSubsetOf (child parent : Constraint) : Bool :=
  match child, parent with
  | .values literals, parent => literals.all parent.admits
  | .range c, .range p => c.isAlphabet != p.isAlphabet || c.within p
  | .range c, .values literals =>
    match c.members? maxListed with
    | some members => members.all fun m => literals.any fun l => l.sameValue (.integer m)
    | none => false
  | .lengths c, .lengths p =>
    (c.filter LengthRange.isWellFormed).all fun r => (LengthRange.merge p).any fun q => r.within q
  | .lengths _, _ => true
  | .range _, .lengths _ => true

/-- The text of a constraint. -/
def render : Constraint → String
  | .values literals => "(" ++ ", ".intercalate (literals.map Literal.render) ++ ")"
  | .range r => r.render
  | .lengths ranges => "length(" ++ ", ".intercalate (ranges.map LengthRange.render) ++ ")"

end Constraint

end TestSpec
