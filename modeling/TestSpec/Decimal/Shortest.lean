import TestSpec.Binary64

/-!
# The shortest decimal that reads back

A finite number other than zero is written with the fewest significant digits that
still round to it, and of those digits with the nearest ones.  The decimals that
round to a number form an interval around it, half way to the neighbours on either
side, whose ends belong to it when the significand is even.  On the grid of
decimals with a given number of digits only the two grid points next to the number
need to be looked at: if any point of the grid lies in the interval, one of those
two does.  The first grid with a hit wins, of two hits the nearer one, and `Tie`
says which one if both are equally near.
-/

namespace TestSpec.Decimal

/-- Which of two equally near digits is written. -/
inductive Tie where
  | up
  | even
  deriving DecidableEq, Repr

/-- A decimal number without sign: `digits * 10 ^ exponent`. -/
structure Scaled where
  digits : Nat
  exponent : Int
  deriving DecidableEq, Repr

/-- How many decimal digits a number has; zero has none. -/
def digitCount (n : Nat) : Nat := if n = 0 then 0 else (Nat.toDigits 10 n).length

/-- The exponent `p` for which `num / den`, not zero, is at least 10 to the power `p - 1` and
less than 10 to the power `p`. -/
def leadingPlace (num den : Nat) : Int :=
  if den ≤ num then digitCount (num / den) else 1 - (digitCount ((den - 1) / num) : Int)

/-- The value and the ends of its rounding interval, over a common denominator. -/
structure Interval where
  value : Nat
  low : Nat
  high : Nat
  den : Nat
  endsBelong : Bool

/-- The interval of the reals that round to a number with this significand and exponent. -/
def Interval.around (significand exponent : Nat) : Interval :=
  let below := if significand = Binary64.significandLimit / 2 ∧ 0 < exponent then 1 else 2
  { value := 4 * significand * Nat.pow 2 exponent
    low := (4 * significand - below) * Nat.pow 2 exponent
    high := (4 * significand + 2) * Nat.pow 2 exponent
    den := 4 * Binary64.unitsPerOne
    endsBelong := significand % 2 = 0 }

/-- Whether the grid point `point * spacingNum / spacingDen` lies in the interval. -/
def Interval.admitsPoint (i : Interval) (spacingNum spacingDen point : Nat) : Bool :=
  let scaled := point * spacingNum * i.den
  if i.endsBelong then i.low * spacingDen ≤ scaled && scaled ≤ i.high * spacingDen
  else i.low * spacingDen < scaled && scaled < i.high * spacingDen

/-- The point of a grid that stands for the interval, if one lies in it. -/
def Interval.gridPoint? (i : Interval) (tie : Tie) (spacingNum spacingDen : Nat) : Option Nat :=
  let lower := i.value * spacingDen / (i.den * spacingNum)
  let upper := lower + 1
  let twice := 2 * (i.value * spacingDen)
  let middle := (lower + upper) * (i.den * spacingNum)
  match i.admitsPoint spacingNum spacingDen lower, i.admitsPoint spacingNum spacingDen upper with
  | false, false => none
  | true, false => some lower
  | false, true => some upper
  | true, true =>
    if twice < middle then some lower
    else if middle < twice then some upper
    else match tie with
      | .up => some upper
      | .even => some (lower + lower % 2)

/-- The decimal with `count` digits that stands for the interval, if the grid of such decimals has
a point in it; `place` is the leading place of the value. -/
def Interval.decimal? (i : Interval) (tie : Tie) (place : Int) (count : Nat) : Option Scaled :=
  let exponent := place - count
  let point? :=
    if 0 ≤ exponent then i.gridPoint? tie (Nat.pow 10 exponent.toNat) 1
    else i.gridPoint? tie 1 (Nat.pow 10 exponent.natAbs)
  point?.map fun point => ⟨point, exponent⟩

/-- The first hit on the grids with `count`, `count + 1`, ... digits, `grids` of them at most. -/
def Interval.search (i : Interval) (tie : Tie) (place : Int) : (grids count : Nat) → Option Scaled
  | 0, _ => none
  | grids + 1, count =>
    match i.decimal? tie place count with
    | some d => some d
    | none => i.search tie place grids (count + 1)

/-- The decimal without the zeros at its end. -/
def Scaled.strip : (fuel : Nat) → Scaled → Scaled
  | 0, d => d
  | fuel + 1, d =>
    if d.digits ≠ 0 ∧ d.digits % 10 = 0 then strip fuel ⟨d.digits / 10, d.exponent + 1⟩ else d

/-- The shortest decimal that reads back as the number with this significand and exponent, the
significand not being zero.  Seventeen digits are enough for every number of the format. -/
def shortest (tie : Tie) (significand exponent : Nat) : Scaled :=
  let i := Interval.around significand exponent
  match i.search tie (leadingPlace i.value i.den) 17 1 with
  | some d => d.strip 17
  | none => ⟨0, 0⟩

end TestSpec.Decimal
