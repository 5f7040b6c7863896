/-!
# Styles

Text that a terminal shows in a colour or a weight, by the control sequences around it. Where
colours are not wanted, the text stands alone.

## Main definitions

* `Style`, `Style.paint`: The styles, and a text in one of them.
-/

namespace GridQuery

/-- A colour or a weight of text. -/
inductive Style
  | dimmed | bold | cyan | green
  deriving DecidableEq, Repr

namespace Style

/-- The sequences that turn a style on and off. -/
def codes : Style → String × String
  | .dimmed => ("\x1b[2m", "\x1b[0m")
  | .bold => ("\x1b[1m", "\x1b[0m")
  | .cyan => ("\x1b[36m", "\x1b[39m")
  | .green => ("\x1b[32m", "\x1b[39m")

/-- The text in a style, if colours are wanted. -/
def paint (style : Style) (colors : Bool) (text : String) : String :=
  if colors then style.codes.1 ++ text ++ style.codes.2 else text

end Style

end GridQuery
