import TestSpec.Decimal.Reader
import TestSpec.Json.Basic

/-!
# Numbers in JSON text

A number is a minus sign or none, whole digits without a leading zero, and maybe a
point with digits and an exponent.  Written as whole digits alone, it stays whole if
it fits 64 bits; a minus zero is never whole.

Every other number is binary.  Its digits are taken into a 64-bit significand as
long as they fit; whole digits that do not fit count as powers of ten, and digits
behind the point that do not fit are ignored.  The significand is rounded to the
binary format and then multiplied with or divided by a power of ten, which rounds
once more.  A number beyond the format is refused, and one below it is zero.
-/

namespace TestSpec.Json

/-- The parts that a number is written with. -/
structure Numeral where
  isNegative : Bool
  whole : List Char
  /-- The digits behind the point; none if there is no point. -/
  fraction : List Char := []
  exponent : Option Int := none
  deriving DecidableEq, Repr

namespace Numeral

/-- The largest power of ten that one multiplication or division takes. -/
def maxPower : Nat := 308

/-- Digits split off the front of a text. -/
def takeDigits (cs : List Char) : List Char × List Char :=
  (cs.takeWhile Char.isDigit, cs.dropWhile Char.isDigit)

/-- The digits behind a point, which are none where there is no point. -/
def takeFraction? : List Char → Option (List Char × List Char)
  | '.' :: rest =>
    let (digits, after) := takeDigits rest
    if digits.isEmpty then none else some (digits, after)
  | cs => some ([], cs)

/-- An exponent, where there is one. -/
def takeExponent? : List Char → Option (Option Int × List Char)
  | [] => some (none, [])
  | c :: rest =>
    if c = 'e' ∨ c = 'E' then
      let (isNegative, unsigned) := Decimal.takeSign rest
      let (digits, after) := takeDigits unsigned
      let size : Int := Decimal.readDigits 0 digits
      if digits.isEmpty then none
      else some (some (if isNegative then -size else size), after)
    else some (none, c :: rest)

/-- A number split off the front of a text. -/
def take? (cs : List Char) : Option (Numeral × List Char) := do
  let (isNegative, unsigned) := match cs with
    | '-' :: rest => (true, rest)
    | _ => (false, cs)
  let (whole, rest) := takeDigits unsigned
  guard (!whole.isEmpty && (whole.head? != some '0' || whole.length == 1))
  let (fraction, rest) ← takeFraction? rest
  let (exponent, rest) ← takeExponent? rest
  return ({ isNegative, whole, fraction, exponent }, rest)

/-- Digits taken into a number as long as it fits 64 bits: the number, and the digits left. -/
def takeFitting (n : Nat) : List Char → Nat × List Char
  | [] => (n, [])
  | c :: rest =>
    let next := Decimal.readDigits n [c]
    if next < wordLimit then takeFitting next rest else (n, c :: rest)

/-- The power of ten with an exponent up to `maxPower`. -/
def powerOfTen (k : Nat) : Binary64 := .ofDecimal false 1 k

/-- A significand scaled by a power of ten; nothing if the result is beyond the format. -/
def scaled? (significand : Nat) : Int → Option Binary64
  | .ofNat k =>
    let x := (Binary64.ofInt significand).mul (powerOfTen (min k maxPower))
    if x.isFinite && (k ≤ maxPower || significand = 0) then some x else none
  | .negSucc k =>
    let size := k + 1
    let x := (Binary64.ofInt significand).div (powerOfTen (min size maxPower))
    if size ≤ maxPower then some x
    else if size ≤ 2 * maxPower then some (x.div (powerOfTen (size - maxPower)))
    else some (.zero false)

/-- The value of a number that is written as whole digits alone and fits. -/
def wholeValue (isNegative : Bool) (significand : Nat) : Json :=
  if !isNegative then .integer significand
  else if significand ≠ 0 ∧ int64Min ≤ -(significand : Int) then .integer (-significand)
  else .real (Binary64.ofInt significand).neg

/-- The value of a number; nothing if it is beyond the binary format. -/
def value? (n : Numeral) : Option Json :=
  let (upToPoint, unfitted) := takeFitting 0 n.whole
  let (significand, ignored) := takeFitting upToPoint n.fraction
  if n.fraction.isEmpty && n.exponent.isNone && unfitted.isEmpty then
    some (wholeValue n.isNegative significand)
  else
    let places : Int := unfitted.length - (n.fraction.length - ignored.length : Nat)
    (scaled? significand (places + n.exponent.getD 0)).map fun x =>
      .real (if n.isNegative then x.neg else x)

end Numeral

end TestSpec.Json
