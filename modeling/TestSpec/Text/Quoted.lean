import TestSpec.Text.Invisible

/-!
# Texts shown between quotes

A message that shows a text puts it between double quotes.  Quotes and backslashes
get a backslash, the common control characters a letter, and other characters that
do not show by themselves their code point, so that what stands between the quotes
is visible throughout.
-/

namespace TestSpec.Text

/-- The characters that a character is shown as. -/
def shownChar (c : Char) : List Char :=
  if c = '"' then ['\\', '"']
  else if c = '\\' then ['\\', '\\']
  else if c = '\x00' then ['\\', '0']
  else if c = '\t' then ['\\', 't']
  else if c = '\n' then ['\\', 'n']
  else if c = '\r' then ['\\', 'r']
  else if isInvisible c then ['\\', 'u', '\x7b'] ++ Nat.toDigits 16 c.toNat ++ ['\x7d']
  else [c]

/-- A text between quotes. -/
def shown (s : String) : String := String.ofList ('"' :: s.toList.flatMap shownChar ++ ['"'])

end TestSpec.Text
