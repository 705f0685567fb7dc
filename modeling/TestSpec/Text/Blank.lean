/-!
# White space

The 25 characters of the Unicode property `White_Space`, and the removal of them
from both ends of a text.  Core's `Char.isWhitespace` knows only the ASCII ones.
-/

namespace TestSpec.Text

/-- The first and last code point of each run of white space characters. -/
def blankRuns : List (Nat × Nat) :=
  [(0x09, 0x0D), (0x20, 0x20), (0x85, 0x85), (0xA0, 0xA0), (0x1680, 0x1680), (0x2000, 0x200A),
   (0x2028, 0x2029), (0x202F, 0x202F), (0x205F, 0x205F), (0x3000, 0x3000)]

/-- The character is white space. -/
def isBlank (c : Char) : Bool :=
  blankRuns.any fun run => run.1 ≤ c.toNat && c.toNat ≤ run.2

/-- The characters between the first and the last one that is not white space. -/
def trimBlank (cs : List Char) : List Char :=
  ((cs.dropWhile isBlank).reverse.dropWhile isBlank).reverse

/-- A word as it is compared with keywords: without the white space around it, and in lower
case.  Only ASCII letters are lowered; no character outside ASCII lowers to a letter of a
keyword of this library. -/
def keyword (s : String) : String :=
  String.ofList ((trimBlank s.toList).map Char.toLower)

end TestSpec.Text
