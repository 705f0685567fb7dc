import TestSpec.Decimal.Shortest

/-!
# Writing numbers

A `Layout` says how the shortest digits of a number are laid out: which sizes are
written positionally, whether a whole number keeps `.0`, how an exponent is signed,
and which digit wins a tie.  The library writes numbers in three layouts and in one
exact notation:

* `Layout.plain`: always positional, nothing after a whole number;
* `Layout.literal`: for literals of constraints, positional from 1e-4 up to 1e16;
* `Layout.json`: for numbers in JSON, positional from 1e-5 up to 1e16;
* `exactWhole`: all digits of a whole number, and `.0`.
-/

namespace TestSpec.Decimal

/-- The decisions of a notation for numbers. -/
structure Layout where
  /-- Sizes written positionally, by the leading place of the digits; `none` for all. -/
  positional : Option (Int × Int)
  /-- A whole number written positionally ends in `.0`. -/
  wholePoint : Bool
  /-- What is written before a positive exponent. -/
  plusSign : String
  tie : Tie

/-- Shortest digits, always positional. -/
def Layout.plain : Layout := ⟨none, false, "", .up⟩

/-- The layout of literals in constraints. -/
def Layout.literal : Layout := ⟨some (-3, 16), true, "", .up⟩

/-- The layout of numbers in JSON. -/
def Layout.json : Layout := ⟨some (-4, 16), true, "+", .even⟩

/-- `n` zeros. -/
def zeros (n : Nat) : String := String.ofList (List.replicate n '0')

/-- Digits with the point after the first `place` of them. -/
def positionalText (wholePoint : Bool) (digits : String) (place : Int) : String :=
  let count := digits.length
  if place ≤ 0 then "0." ++ zeros place.natAbs ++ digits
  else if (count : Int) ≤ place then
    digits ++ zeros (place.toNat - count) ++ (if wholePoint then ".0" else "")
  else
    String.ofList (digits.toList.take place.toNat) ++ "." ++
      String.ofList (digits.toList.drop place.toNat)

/-- One digit, the rest after a point, and the exponent. -/
def exponentText (plusSign : String) (digits : String) (place : Int) : String :=
  let exponent := place - 1
  let lead := String.ofList (digits.toList.take 1)
  let rest := String.ofList (digits.toList.drop 1)
  lead ++ (if rest = "" then "" else "." ++ rest) ++ "e" ++
    (if exponent < 0 then "" else plusSign) ++ toString exponent

/-- The text of a number. -/
def Layout.render (layout : Layout) : Binary64 → String
  | .nan => "NaN"
  | .infinite negative => if negative then "-inf" else "inf"
  | .finite negative significand exponent =>
    let sign := if negative then "-" else ""
    if significand = 0 then sign ++ (if layout.wholePoint then "0.0" else "0")
    else
      let shown := shortest layout.tie significand exponent
      let digits := toString shown.digits
      let place : Int := digits.length + shown.exponent
      let isPositional := match layout.positional with
        | none => true
        | some (least, greatest) => decide (least ≤ place ∧ place ≤ greatest)
      sign ++ (if isPositional then positionalText layout.wholePoint digits place
        else exponentText layout.plusSign digits place)

/-- All digits of a whole number, and `.0`. -/
def exactWhole (x : Binary64) : String :=
  (if x.isNegative then "-" else "") ++ toString (x.units / Binary64.unitsPerOne) ++ ".0"

end TestSpec.Decimal
