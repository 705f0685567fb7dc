/-!
# Binary64 numbers

The numbers of the 64-bit binary floating-point format, as exact values.  A finite
number is a whole number of **units**, the unit being 2 to the power -1074, the
distance between the smallest numbers of the format: its magnitude is
`significand * 2 ^ exponent` units, with a significand below 2 to the power 53.
Zero has a sign.

Arithmetic is exact arithmetic followed by one rounding, `Binary64.ofRatio`: to the
nearest number of the format, and half way to the one with the even significand.
Comparison is comparison of the exact values; a value that is not a number is not
comparable with anything, itself included.
-/

namespace TestSpec

/-- A number of the 64-bit binary format. -/
inductive Binary64 where
  /-- Not a number. -/
  | nan
  | infinite (negative : Bool)
  /-- The magnitude is `significand * 2 ^ exponent` units. -/
  | finite (negative : Bool) (significand exponent : Nat)
  deriving DecidableEq, Repr, Inhabited

namespace Binary64

/-- The number of units in one. -/
def unitsPerOne : Nat := Nat.pow 2 1074

/-- Significands are smaller than this, and at least half of it above the smallest exponent. -/
def significandLimit : Nat := Nat.pow 2 53

/-- The largest exponent of a finite number. -/
def maxExponent : Nat := 2045

/-- Zero, of either sign. -/
def zero (negative : Bool) : Binary64 := .finite negative 0 0

/-- The quotient rounded to the nearest whole number, and half way to the even one. -/
def roundHalfEven (num den : Nat) : Nat :=
  let quotient := num / den
  let twice := 2 * (num % den)
  if twice < den then quotient
  else if den < twice then quotient + 1
  else quotient + quotient % 2

/-- The number of the format nearest to `num / den`; beyond the largest finite number, infinity. -/
def ofRatio (negative : Bool) (num den : Nat) : Binary64 :=
  let units := num * unitsPerOne
  let exponent := Nat.log2 (units / den) - 52
  let rounded := roundHalfEven units (den * Nat.pow 2 exponent)
  let significand := if rounded = significandLimit then significandLimit / 2 else rounded
  let exponent := if rounded = significandLimit then exponent + 1 else exponent
  if maxExponent < exponent then .infinite negative else .finite negative significand exponent

/-- The number of the format nearest to a whole number. -/
def ofInt (i : Int) : Binary64 := ofRatio (i < 0) i.natAbs 1

/-- The number of the format nearest to `digits * 10 ^ exponent`.  Decimals far beyond the range
of the format are settled by their number of digits alone. -/
def ofDecimal (negative : Bool) (digits : Nat) (exponent : Int) : Binary64 :=
  let size : Int := exponent + (Nat.toDigits 10 digits).length
  if digits = 0 ∨ size < -400 then zero negative
  else if 400 < size then .infinite negative
  else if exponent < 0 then ofRatio negative digits (Nat.pow 10 exponent.natAbs)
  else ofRatio negative (digits * Nat.pow 10 exponent.natAbs) 1

/-- The magnitude of a finite number in units; zero for the rest. -/
def units : Binary64 → Nat
  | .finite _ significand exponent => significand * Nat.pow 2 exponent
  | _ => 0

/-- The sign bit. -/
def isNegative : Binary64 → Bool
  | .nan => false
  | .infinite negative => negative
  | .finite negative _ _ => negative

/-- The value is not a number. -/
def isNaN : Binary64 → Bool
  | .nan => true
  | _ => false

/-- The value is neither infinite nor not a number. -/
def isFinite : Binary64 → Bool
  | .finite .. => true
  | _ => false

/-- The value is a whole number. -/
def isIntegral (x : Binary64) : Bool := x.isFinite && x.units % unitsPerOne == 0

/-- The place of a number on the line of all numbers, in units.  The infinities lie beyond all
finite numbers; what is not a number has no place. -/
def place? : Binary64 → Option Int
  | .nan => none
  | .infinite negative =>
    let beyond : Int := Nat.pow 2 (maxExponent + 53)
    some (if negative then -beyond else beyond)
  | x@(.finite negative _ _) => some (if negative then -(x.units : Int) else x.units)

/-- The order of two numbers; nothing if either is not a number. -/
def compare? (x y : Binary64) : Option Ordering :=
  match x.place?, y.place? with
  | some a, some b => some (compare a b)
  | _, _ => none

/-- Equality of values: the zeros are equal, and what is not a number is equal to nothing. -/
def sameValue (x y : Binary64) : Bool := x.compare? y == some .eq

/-- The rounded product of two finite numbers. -/
def mul (x y : Binary64) : Binary64 :=
  ofRatio (x.isNegative != y.isNegative) (x.units * y.units) (unitsPerOne * unitsPerOne)

/-- The rounded quotient of two finite numbers, the second not zero. -/
def div (x y : Binary64) : Binary64 :=
  ofRatio (x.isNegative != y.isNegative) x.units y.units

/-- The number of the other sign. -/
def neg : Binary64 → Binary64
  | .nan => .nan
  | .infinite negative => .infinite !negative
  | .finite negative significand exponent => .finite (!negative) significand exponent

end Binary64

end TestSpec
