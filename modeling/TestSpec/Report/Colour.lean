import TestSpec.Text.Placeholder

/-!
# Colours of a terminal

A style opens with a control sequence and ends with the sequence that resets all
styles.  A reset inside a styled text is followed by the opening sequence again,
so the style holds to its end.

Reports leave it to a **wrapper** how a text is written in a style, and ask it only
where colour is on.
-/

namespace TestSpec

/-- The styles that reports use. -/
inductive Style where
  | red
  | boldRed
  | boldYellow
  | cyan
  | dimmed
  deriving DecidableEq, Repr

namespace Style

/-- The parameters of a style's control sequence. -/
def parameters : Style → String
  | .red => "31"
  | .boldRed => "1;31"
  | .boldYellow => "1;33"
  | .cyan => "36"
  | .dimmed => "2"

/-- A control sequence with the given parameters. -/
def sequence (parameters : String) : String := "\x1b[" ++ parameters ++ "m"

/-- The sequence that ends all styles. -/
def reset : String := sequence "0"

/-- The sequence that starts a style. -/
def opening (style : Style) : String := sequence style.parameters

/-- The text in a style. -/
def apply (style : Style) (text : String) : String :=
  style.opening ++
    String.ofList (Text.replaceAll reset.toList (reset ++ style.opening).toList text.toList) ++
    reset

end Style

/-- How a text is written in a style. -/
abbrev Wrapper := Style → String → String

/-- The text in a style if colour is on, and as it is if not. -/
def Wrapper.applyIf (wrap : Wrapper) (style : Style) (colour : Bool) (text : String) : String :=
  if colour then wrap style text else text

end TestSpec
