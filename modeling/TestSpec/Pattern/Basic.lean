/-!
# Compiled patterns

Matching asks a compiled pattern which texts it accepts, and nothing else; how a text
becomes a pattern is left to a compiler.  The text that a pattern was compiled from,
and whether case was to be ignored, are kept for printing.
-/

namespace TestSpec

/-- A compiled pattern. -/
structure Pattern where
  /-- The pattern as it was written. -/
  source : String
  ignoresCase : Bool
  /-- Whether the pattern accepts a text as a whole. -/
  isMatch : String → Bool

end TestSpec
