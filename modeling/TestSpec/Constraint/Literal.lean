import TestSpec.Decimal.Notation

/-!
# Literals of constraints

A constraint on a type is written with literals of the domains that a constraint
can narrow: truth values, integers, reals, characters, strings and enumerated
names.  Integers and reals form one ordered domain, an integer being compared with
a real as the real nearest to it.  Characters and strings form another, a string of
one character being comparable with a character.  Literals of different domains
cannot be compared, and neither truth values nor enumerated names have an order.
-/

namespace TestSpec

/-- A literal in a constraint. -/
inductive Literal where
  | boolean (b : Bool)
  | integer (i : Int64)
  | real (x : Binary64)
  | char (c : Char)
  | string (s : String)
  | enumerated (name : String)
  deriving DecidableEq, Repr

/-- The one character of a text, if it has exactly one. -/
def onlyChar? (s : String) : Option Char :=
  match s.toList with
  | [c] => some c
  | _ => none

/-- A signed 64-bit integer as the nearest binary number. -/
def Binary64.ofInt64 (i : Int64) : Binary64 := .ofInt i.toInt

/-- The order of two texts, character by character. -/
def compareText (s t : String) : Ordering := compareOfLessAndEq s t

namespace Literal

/-- The order of two literals of one ordered domain; nothing for unrelated literals. -/
def compare? : Literal → Literal → Option Ordering
  | .integer i, .integer j => some (compare i.toInt j.toInt)
  | .real x, .real y => x.compare? y
  | .integer i, .real y => (Binary64.ofInt64 i).compare? y
  | .real x, .integer j => x.compare? (.ofInt64 j)
  | .char c, .char d => some (compare c.toNat d.toNat)
  | .string s, .string t => some (compareText s t)
  | .char c, .string t => (onlyChar? t).map fun d => compare c.toNat d.toNat
  | .string s, .char d => (onlyChar? s).map fun c => compare c.toNat d.toNat
  | _, _ => none

/-- Whether two literals denote the same value. -/
def sameValue : Literal → Literal → Bool
  | .boolean a, .boolean b => a == b
  | .enumerated m, .enumerated n => m == n
  | a, b => a.compare? b == some .eq

/-- The number of characters of a literal that is a string or a character. -/
def stringLength? : Literal → Option Nat
  | .string s => some s.length
  | .char _ => some 1
  | _ => none

/-- The literal is a string or a character. -/
def isText : Literal → Bool
  | .char _ | .string _ => true
  | _ => false

/-- The literal is an integer. -/
def isInteger : Literal → Bool
  | .integer _ => true
  | _ => false

/-- The text of a literal. -/
def render : Literal → String
  | .boolean b => if b then "true" else "false"
  | .integer i => toString i.toInt
  | .real x => Decimal.Layout.literal.render x
  | .char c => "\"" ++ String.singleton c ++ "\""
  | .string s => "\"" ++ s ++ "\""
  | .enumerated name => name

end Literal

end TestSpec
