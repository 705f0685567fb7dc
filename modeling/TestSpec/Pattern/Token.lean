/-!
# Parts of wildcard patterns

A wildcard pattern is a sequence of tokens, matched against the UTF-8 octets of a
text.  A star stands for any run of octets and a question mark for one octet.
Two stars that make up a whole component between slashes are a token of their own,
which stands for any number of whole components: at the front of the pattern, at
its end, or in the middle.
-/

namespace TestSpec

namespace Pattern

/-- A part of a pattern. -/
inductive Token where
  | literal (c : Char)
  /-- Any single octet. -/
  | anyOctet
  /-- Any run of octets. -/
  | anyRun
  /-- Nothing, or anything that ends with a slash. -/
  | leadingComponents
  /-- A slash and anything. -/
  | trailingComponents
  /-- A slash, or anything between two slashes. -/
  | innerComponents
  /-- An octet of a set of character ranges, or of none of them. -/
  | octetSet (isNegated : Bool) (ranges : List (Char × Char))
  /-- Any one of several sequences. -/
  | alternatives (branches : List (List Token))

/-- Why a text is no pattern. -/
inductive Fault where
  | unclosedSet
  | invalidRange (first last : Char)
  | unopenedGroup
  | unclosedGroup
  | danglingEscape
  deriving DecidableEq, Repr

/-- The text of a fault. -/
def Fault.message : Fault → String
  | .unclosedSet => "unclosed character class; missing ']'"
  | .invalidRange first last =>
    "invalid range; '" ++ String.singleton first ++ "' > '" ++ String.singleton last ++ "'"
  | .unopenedGroup =>
    "unopened alternate group; missing '\x7b' (maybe escape '\x7d' with '[\x7d]'?)"
  | .unclosedGroup =>
    "unclosed alternate group; missing '\x7d' (maybe escape '\x7b' with '[\x7b]'?)"
  | .danglingEscape => "dangling '\\'"

end Pattern

end TestSpec
