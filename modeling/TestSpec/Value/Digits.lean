import TestSpec.Text.Hex

/-!
# Reading binary strings

A binary string is written with one digit per bit or per nibble; an octet takes two
hexadecimal digits.  Digits of either case are read, and the first character that is
no digit is the one complained about.
-/

namespace TestSpec

/-- Why digits make no octets. -/
inductive DigitFault where
  | notADigit (c : Char)
  | oddCount
  deriving DecidableEq, Repr

/-- The bit that a digit is written for. -/
def bitOfDigit? : Char → Option Bool
  | '0' => some false
  | '1' => some true
  | _ => none

/-- What the digits of a text are written for. -/
def readDigits {α : Type} (digit? : Char → Option α) : List Char → Except DigitFault (List α)
  | [] => .ok []
  | c :: rest =>
    match digit? c with
    | none => .error (.notADigit c)
    | some d => (d :: ·) <$> readDigits digit? rest

/-- Nibbles joined to octets, two by two. -/
def joinNibbles : List (Fin 16) → Except DigitFault (List UInt8)
  | [] => .ok []
  | [_] => .error .oddCount
  | high :: low :: rest => (Text.octetOfNibbles high low :: ·) <$> joinNibbles rest

/-- The bits that a text is written for. -/
def readBits (text : String) : Except DigitFault (List Bool) := readDigits bitOfDigit? text.toList

/-- The nibbles that a text is written for. -/
def readNibbles (text : String) : Except DigitFault (List (Fin 16)) :=
  readDigits Text.hexDigit? text.toList

/-- The octets that a text is written for. -/
def readOctets (text : String) : Except DigitFault (List UInt8) := do
  joinNibbles (← readNibbles text)

end TestSpec
