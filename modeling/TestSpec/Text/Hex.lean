/-!
# Hexadecimal digits

Digits are read in either case and written in the one that the writer asks for.
Two digits make an octet, the more significant one first.
-/

namespace TestSpec.Text

/-- The value of a hexadecimal digit of either case. -/
def hexDigit? (c : Char) : Option (Fin 16) :=
  if '0' ≤ c ∧ c ≤ '9' then some (Fin.ofNat 16 (c.toNat - 48))
  else if 'a' ≤ c ∧ c ≤ 'f' then some (Fin.ofNat 16 (c.toNat - 87))
  else if 'A' ≤ c ∧ c ≤ 'F' then some (Fin.ofNat 16 (c.toNat - 55))
  else none

/-- The upper-case digits, by value. -/
def upperHexDigits : List Char :=
  ['0', '1', '2', '3', '4', '5', '6', '7', '8', '9', 'A', 'B', 'C', 'D', 'E', 'F']

/-- The upper-case digit of a value below sixteen. -/
def upperHexDigit (n : Fin 16) : Char := upperHexDigits.get ⟨n.val, n.isLt⟩

/-- The lower-case digit of a value below sixteen. -/
def lowerHexDigit (n : Fin 16) : Char := (upperHexDigit n).toLower

/-- The more significant half of an octet. -/
def highNibble (b : UInt8) : Fin 16 := Fin.ofNat 16 (b.toNat / 16)

/-- The less significant half of an octet. -/
def lowNibble (b : UInt8) : Fin 16 := Fin.ofNat 16 b.toNat

/-- The octet with the given halves. -/
def octetOfNibbles (high low : Fin 16) : UInt8 := UInt8.ofNat (16 * high.val + low.val)

/-- The two upper-case digits of an octet. -/
def upperHexOctet (b : UInt8) : List Char :=
  [upperHexDigit (highNibble b), upperHexDigit (lowNibble b)]

/-- The two lower-case digits of an octet. -/
def lowerHexOctet (b : UInt8) : List Char :=
  [lowerHexDigit (highNibble b), lowerHexDigit (lowNibble b)]

end TestSpec.Text
