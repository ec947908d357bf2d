/-!
# Ranges of characters

Properties of characters are tables of ranges of code points. The tables stand in order.
-/

namespace GracefulStop.Text

/-- A first and a last code point. -/
abbrev CodeRange := Nat × Nat

/-- Whether a code point lies in one of some ranges, which stand in order. -/
def inRanges : List CodeRange → Nat → Bool
  | [], _ => false
  | (first, last) :: rest, code => first ≤ code && (code ≤ last || inRanges rest code)

end GracefulStop.Text
