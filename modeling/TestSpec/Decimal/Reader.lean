import TestSpec.Binary64

/-!
# Reading decimal text

A decimal number is a sign, digits with a point among them, and an exponent, of
which only the digits must be there.  It is read as the nearest number of the
binary format.  The words `NaN` and `inf` are numbers too, in any case of letters.
-/

namespace TestSpec.Decimal

/-- The number that a list of decimal digits is written for, read on from `n`. -/
def readDigits (n : Nat) (digits : List Char) : Nat :=
  digits.foldl (fun acc c => 10 * acc + (c.toNat - 48)) n

/-- A sign taken off the front of a text: whether it was a minus, and the rest. -/
def takeSign : List Char → Bool × List Char
  | '-' :: rest => (true, rest)
  | '+' :: rest => (false, rest)
  | cs => (false, cs)

/-- The exponent that a text is: nothing, or a letter, a sign and digits. -/
def readExponent? : List Char → Option Int
  | [] => some 0
  | c :: rest =>
    let (negative, digits) := takeSign rest
    if c.toLower = 'e' ∧ digits ≠ [] ∧ digits.all Char.isDigit then
      let size : Int := readDigits 0 digits
      some (if negative then -size else size)
    else none

/-- The number that a text without sign is. -/
def readMagnitude? (negative : Bool) (cs : List Char) : Option Binary64 :=
  match String.ofList (cs.map Char.toLower) with
  | "nan" => some .nan
  | "inf" | "infinity" => some (.infinite negative)
  | _ =>
    let whole := cs.takeWhile Char.isDigit
    let afterWhole := cs.dropWhile Char.isDigit
    let (part, rest) := match afterWhole with
      | '.' :: more => (more.takeWhile Char.isDigit, more.dropWhile Char.isDigit)
      | _ => ([], afterWhole)
    if whole ++ part = [] then none
    else (readExponent? rest).map fun exponent =>
      .ofDecimal negative (readDigits 0 (whole ++ part)) (exponent - part.length)

/-- The number that a text is, if it is one. -/
def read? (s : String) : Option Binary64 :=
  let (negative, rest) := takeSign s.toList
  readMagnitude? negative rest

end TestSpec.Decimal
