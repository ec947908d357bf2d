import GracefulStop.Decimal.Shortest

/-!
# Rounding to whole numbers
-/

namespace GracefulStop.Decimal

/-- The whole number nearest to a quotient; of two equally near ones the even one. -/
def roundDivEven (numerator denominator : Nat) : Nat :=
  let below := numerator / denominator
  let rest := numerator % denominator
  if 2 * rest < denominator then below
  else if denominator < 2 * rest then below + 1
  else if below % 2 = 0 then below else below + 1

/-- The whole number nearest to `units` times a double that is not negative; nothing for a value
that is negative or not finite. -/
def roundScaled? (value : Float) (units : Nat) : Option Nat :=
  match Parts.ofFloat value with
  | .finite negative mantissa scale _ =>
    if negative && mantissa != 0 then none
    else some (roundDivEven (mantissa * 2 ^ (scale - 1074) * units) (2 ^ (1074 - scale)))
  | _ => none

end GracefulStop.Decimal
