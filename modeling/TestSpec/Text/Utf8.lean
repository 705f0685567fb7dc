/-!
# UTF-8

A character string is written as the UTF-8 octets of its characters.  Reading
octets as text fails at the first place where they are not UTF-8, and the failure
says where that is and how many octets are at fault: the octets of a character
up to the first one that cannot follow, or all that is left if the text stops in
the middle of a character.

The octets a character may start with, and those that may follow them, are a
small machine: `State` says what the next octet may be, and `step` reads it.
-/

namespace TestSpec.Text.Utf8

/-- Where the machine stands: the least and the greatest octet that may come next, and how many
more follow that one; between characters when `owed` is zero. -/
structure State where
  owed : Nat
  low : Nat
  high : Nat
  deriving DecidableEq, Repr

/-- Between two characters. -/
def State.start : State := ⟨0, 0x80, 0xBF⟩

/-- `n` octets owed, any continuation octet next. -/
def State.tails (n : Nat) : State := ⟨n, 0x80, 0xBF⟩

/-- The state after the first octet of a character. -/
def first? (b : Nat) : Option State :=
  if b ≤ 0x7F then some .start
  else if 0xC2 ≤ b ∧ b ≤ 0xDF then some (.tails 1)
  else if b = 0xE0 then some ⟨2, 0xA0, 0xBF⟩
  else if b = 0xED then some ⟨2, 0x80, 0x9F⟩
  else if 0xE1 ≤ b ∧ b ≤ 0xEF then some (.tails 2)
  else if b = 0xF0 then some ⟨3, 0x90, 0xBF⟩
  else if 0xF1 ≤ b ∧ b ≤ 0xF3 then some (.tails 3)
  else if b = 0xF4 then some ⟨3, 0x80, 0x8F⟩
  else none

/-- The state after one more octet, if the octet may come there. -/
def step? (s : State) (b : UInt8) : Option State :=
  if s.owed = 0 then first? b.toNat
  else if s.low ≤ b.toNat ∧ b.toNat ≤ s.high then some (.tails (s.owed - 1))
  else none

/-- Why octets are not UTF-8. -/
inductive Fault where
  /-- From `index` on, `length` octets start no character. -/
  | invalid (length index : Nat)
  /-- The octets end within the character that starts at `index`. -/
  | incomplete (index : Nat)
  deriving DecidableEq, Repr

/-- The text of a fault. -/
def Fault.message : Fault → String
  | .invalid length index =>
    "invalid utf-8 sequence of " ++ toString length ++ " bytes from index " ++ toString index
  | .incomplete index => "incomplete utf-8 byte sequence from index " ++ toString index

/-- Run the machine from state `s`, the current character having started at `start` and the next
octet standing at `index`. -/
def scan (s : State) (start index : Nat) : List UInt8 → Option Fault
  | [] => if s.owed = 0 then none else some (.incomplete start)
  | b :: rest =>
    match step? s b with
    | none => some (.invalid (max 1 (index - start)) start)
    | some next => scan next (if next.owed = 0 then index + 1 else start) (index + 1) rest

/-- The first fault of a sequence of octets, if it has one. -/
def fault? (octets : List UInt8) : Option Fault := scan .start 0 0 octets

/-- The octets of a text. -/
def encode (s : String) : List UInt8 := s.toUTF8.data.toList

/-- The text that a sequence of octets is, if it is one. -/
def decode? (octets : List UInt8) : Option String := String.fromUTF8? ⟨octets.toArray⟩

end TestSpec.Text.Utf8
